import Acceptance.Proofs.StubText
import Mathlib.Data.List.Infix
import Mathlib.Order.Bounds.Basic
import Mathlib.Order.MinMax

/-!
Raw literals, read back. A raw literal has as many marks as it takes to read its text again, whatever follows
it, and no more.
-/
namespace Acceptance

namespace Text

/-- A double quote and so many marks. -/
def closing (n : Nat) : List Char := '"' :: List.replicate n '#'

/-- The text in a raw literal with so many marks. -/
def markedLiteral (n : Nat) (s : List Char) : List Char :=
  'r' :: (List.replicate n '#' ++ '"' :: (s ++ closing n))

/-- What is read of a text that begins with `r`, so many marks and a double quote: the content up to the
first double quote that as many marks follow, and what is left behind these. -/
structure ReadsRaw (n : Nat) (s content rest : List Char) : Prop where
  begins : s = 'r' :: (List.replicate n '#' ++ '"' :: (content ++ (closing n ++ rest)))
  first : ∀ before after, content ++ (closing n ++ rest) = before ++ (closing n ++ after) →
    content.length ≤ before.length

/-- A text is read in one way. -/
theorem ReadsRaw.unique {n n' : Nat} {s content content' rest rest' : List Char}
    (h : ReadsRaw n s content rest) (h' : ReadsRaw n' s content' rest') :
    n = n' ∧ content = content' ∧ rest = rest' := by
  obtain ⟨rfl, hbody⟩ := replicate_append_cancel (by decide)
    (List.cons.inj (h.begins.symm.trans h'.begins)).2
  have hlength : content.length = content'.length :=
    Nat.le_antisymm (h.first _ _ hbody) (h'.first _ _ hbody.symm)
  obtain ⟨hcontent, hrest⟩ := List.append_inj hbody hlength
  exact ⟨rfl, hcontent, List.append_cancel_left hrest⟩

/-! ### Marks in a text -/

theorem replicate_prefix_cons_iff {n : Nat} {c : Char} {s : List Char} :
    List.replicate n '#' <+: c :: s ↔ n = 0 ∨ c = '#' ∧ List.replicate (n - 1) '#' <+: s := by
  cases n with
  | zero => simp
  | succ n => simp [List.replicate_succ, List.cons_prefix_cons, eq_comm]

theorem replicate_prefix_of_append {n : Nat} {s more : List Char}
    (h : List.replicate n '#' <+: s ++ '"' :: more) : List.replicate n '#' <+: s := by
  induction s generalizing n with
  | nil =>
    rcases replicate_prefix_cons_iff.1 h with rfl | ⟨hmark, -⟩
    · exact List.prefix_refl []
    · exact absurd hmark (by decide)
  | cons c s ih =>
    rw [List.cons_append, replicate_prefix_cons_iff] at h
    rw [replicate_prefix_cons_iff]
    exact h.imp_right fun ⟨hmark, hmore⟩ => ⟨hmark, ih hmore⟩

theorem closing_infix_cons_iff {n : Nat} {c : Char} {s : List Char} :
    closing n <:+: c :: s ↔ c = '"' ∧ List.replicate n '#' <+: s ∨ closing n <:+: s := by
  rw [List.infix_cons_iff, closing, List.cons_prefix_cons, eq_comm]

theorem le_getD_iff {n : Nat} (hn : 0 < n) (run : Option Nat) :
    n ≤ run.getD 0 ↔ ∃ k ∈ run, n - k = 0 := by
  cases run with
  | none => simpa using Nat.ne_of_gt hn
  | some k => simp [Nat.sub_eq_zero_iff_le]

/-- The longest run has so many marks just if they continue the run that is being read, or follow a double
quote. -/
theorem le_longestRun_iff {n : Nat} (hn : 0 < n) (run : Option Nat) (s : List Char) :
    n ≤ longestRun run s ↔
      (∃ k ∈ run, List.replicate (n - k) '#' <+: s) ∨ closing n <:+: s := by
  fun_induction longestRun run s with
  | case1 run => simp [le_getD_iff hn, closing, List.prefix_nil, List.replicate_eq_nil_iff]
  | case2 run rest ih =>
    -- a double quote ends the run, and another one begins behind it
    have hother : ¬ '"' = '#' := by decide
    simp only [le_max_iff, le_getD_iff hn, ih, closing_infix_cons_iff, replicate_prefix_cons_iff, hother,
      false_and, or_false, true_and, Option.mem_some_iff, exists_eq_left', Nat.sub_zero]
  | case3 run rest hquote ih =>
    have hrun : (∃ k ∈ run.map (· + 1), List.replicate (n - k) '#' <+: rest) ↔
        ∃ k ∈ run, List.replicate (n - k) '#' <+: '#' :: rest := by
      cases run with
      | none => simp
      | some k =>
        simp only [Option.map_some, Option.mem_some_iff, exists_eq_left', replicate_prefix_cons_iff,
          true_and, Nat.sub_add_eq]
        constructor
        · exact .inr
        · rintro (hnone | hmore)
          · rw [hnone]
            exact List.nil_prefix
          · exact hmore
    rw [ih, hrun, closing_infix_cons_iff]
    simp only [hquote, false_and, false_or]
  | case4 run c rest hquote hmark ih =>
    simp only [le_max_iff, le_getD_iff hn, ih, closing_infix_cons_iff, replicate_prefix_cons_iff, hquote,
      hmark, false_and, or_false, false_or, exists_false, Option.not_mem_none]

theorem closing_infix_iff {n : Nat} (hn : 0 < n) (s : List Char) :
    closing n <:+: s ↔ n < rawWidth s := by
  rw [rawWidth, Nat.lt_succ_iff, le_longestRun_iff hn]
  simp

/-! ### Reading a literal -/

/-- A text is read from its literal unless a closing that fits stands in it. -/
theorem readsRaw_markedLiteral_iff {n : Nat} {s rest : List Char} :
    ReadsRaw n (markedLiteral n s ++ rest) s rest ↔ ¬ closing n <:+: s := by
  constructor
  · rintro h ⟨before, after, rfl⟩
    have hfirst := h.first before (after ++ (closing n ++ rest)) (by simp)
    simp only [closing, List.length_append, List.length_cons] at hfirst
    omega
  · intro hnone
    refine ⟨by simp [markedLiteral], fun before after heq => ?_⟩
    obtain ⟨u, rfl, -⟩ | ⟨u, rfl, hu⟩ := List.append_eq_append_iff.1 heq
    · simp
    · cases u with
      | nil => simp
      | cons c u =>
        -- the closing of `before` would lie in the text, since no mark is a double quote
        rw [closing, List.cons_append, List.cons_append] at hu
        obtain ⟨rfl, hmarks⟩ := List.cons.inj hu
        have hbegin : List.replicate n '#' <+: u := replicate_prefix_of_append ⟨after, hmarks⟩
        have hclosing : closing n <+: '"' :: u := List.cons_prefix_cons.2 ⟨rfl, hbegin⟩
        exact absurd (hclosing.isInfix.trans (List.suffix_append before _).isInfix) hnone

theorem readsRaw_iff_rawWidth_le {n : Nat} (hn : 0 < n) {s rest : List Char} :
    ReadsRaw n (markedLiteral n s ++ rest) s rest ↔ rawWidth s ≤ n := by
  rw [readsRaw_markedLiteral_iff, closing_infix_iff hn, Nat.not_lt]

theorem readsRaw_rawLiteral_iff {n : Nat} {s rest content left : List Char} :
    ReadsRaw n (rawLiteral s ++ rest) content left ↔ n = rawWidth s ∧ content = s ∧ left = rest := by
  have hreads : ReadsRaw (rawWidth s) (rawLiteral s ++ rest) s rest :=
    (readsRaw_iff_rawWidth_le (Nat.succ_pos _)).2 (Nat.le_refl _)
  constructor
  · intro h
    exact h.unique hreads
  · rintro ⟨rfl, rfl, rfl⟩
    exact hreads

theorem isLeast_rawWidth (s : List Char) :
    IsLeast {n | 1 ≤ n ∧ ∀ rest, ReadsRaw n (markedLiteral n s ++ rest) s rest} (rawWidth s) := by
  constructor
  · exact ⟨Nat.succ_pos _, fun rest => readsRaw_rawLiteral_iff.2 ⟨rfl, rfl, rfl⟩⟩
  · rintro n ⟨hn, hreads⟩
    exact (readsRaw_iff_rawWidth_le hn).1 (hreads [])

/-- The text of a raw literal is read back and what follows it is left, whatever that is. The literal has as
few marks as such a one can have. So the pattern of a step is read from its stub. -/
theorem readsRaw_literals :
    (∀ s rest n content left, ReadsRaw n (rawLiteral s ++ rest) content left ↔
      n = rawWidth s ∧ content = s ∧ left = rest) ∧
    (∀ s, rawLiteral s = markedLiteral (rawWidth s) s ∧
      IsLeast {n | 1 ≤ n ∧ ∀ rest, ReadsRaw n (markedLiteral n s ++ rest) s rest} (rawWidth s)) ∧
    ∀ step : Step, ∃ text,
      step.snippet.toList = "registry.".toList ++ (step.keyword.method.toList ++ '(' :: text) ∧
      ∀ n content left, ReadsRaw n text content left ↔
        n = rawWidth (Description.pattern step.description).toList ∧
          content = (Description.pattern step.description).toList ∧ left = stubEnd.toList := by
  refine ⟨fun s rest n content left => readsRaw_rawLiteral_iff, fun s => ⟨rfl, isLeast_rawWidth s⟩, ?_⟩
  intro step
  refine ⟨rawLiteral (Description.pattern step.description).toList ++ stubEnd.toList, ?_, ?_⟩
  · rw [Step.snippet_eq, toList_stubText]
  · intro n content left
    exact readsRaw_rawLiteral_iff

end Text
end Acceptance
