import Acceptance.Proofs.StubText
import Acceptance.Proofs.Variation

/-!
Descriptions up to their quoted numbers. Two descriptions have the same pattern, and two steps the same
stub, just if they are alike where their quoted numbers are masked.
-/
namespace Acceptance

namespace Description

/-- The characters that tokens stand for, with a blank that is no character for each quoted number. -/
def mask (ts : List Token) : List (Option Char) := ts.flatMap fun
  | .literal text => text.map some
  | .quotedNumber => [none]

/-- The description with its quoted numbers masked. -/
def masked (s : String) : List (Option Char) := mask (tokens s.toList)

/-- How a character, or a blank, stands in a pattern. -/
def code : Option Char → List Char
  | some c => if isSpecial c then ['\\', c] else [c]
  | none => numberPattern

theorem code_special {c : Char} (h : isSpecial c = true) : code (some c) = ['\\', c] := if_pos h

theorem code_plain {c : Char} (h : ¬ isSpecial c = true) : code (some c) = [c] := if_neg h

theorem code_blank : ∃ rest, code none = '"' :: '(' :: rest := ⟨"[0-9+-]+)\"".toList, by decide⟩

theorem code_ne_nil (a : Option Char) : code a ≠ [] := by
  cases a with
  | none =>
    obtain ⟨rest, hblank⟩ := code_blank
    rw [hblank]
    exact List.cons_ne_nil _ _
  | some c =>
    by_cases hc : isSpecial c = true
    · rw [code_special hc]
      exact List.cons_ne_nil _ _
    · rw [code_plain hc]
      exact List.cons_ne_nil _ _

theorem flatMap_code_mask (ts : List Token) :
    (mask ts).flatMap code = ts.flatMap Token.pattern := by
  have hmask (t : Token) (ts : List Token) : mask (t :: ts) = mask [t] ++ mask ts := by simp [mask]
  induction ts with
  | nil => rfl
  | cons t ts ih =>
    rw [hmask, List.flatMap_append, ih, List.flatMap_cons]
    cases t with
    | literal text => simp [mask, List.flatMap_map, Token.pattern, escape, code]
    | quotedNumber => simp [mask, Token.pattern, code]

/-- An opening bracket is escaped, so it begins the code of nothing. -/
theorem flatMap_code_ne_bracket (m : List (Option Char)) (rest : List Char) :
    m.flatMap code ≠ '(' :: rest := by
  have hbracket : isSpecial '(' = true := by decide
  cases m with
  | nil => exact (List.cons_ne_nil _ _).symm
  | cons a m =>
    rw [List.flatMap_cons]
    intro h
    cases a with
    | none =>
      obtain ⟨_, hblank⟩ := code_blank
      rw [hblank] at h
      exact absurd (List.cons.inj h).1 (by decide)
    | some c =>
      by_cases hc : isSpecial c = true
      · rw [code_special hc] at h
        exact absurd (List.cons.inj h).1 (by decide)
      · rw [code_plain hc] at h
        rw [(List.cons.inj h).1] at hc
        exact hc hbracket

/-- A double quote of the text is never followed by an opening bracket, as that of a number is. -/
theorem code_some_ne_blank (c : Char) (m : List (Option Char)) (rest : List Char) :
    code (some c) ++ m.flatMap code ≠ code none ++ rest := by
  obtain ⟨_, hblank⟩ := code_blank
  rw [hblank]
  intro h
  by_cases hc : isSpecial c = true
  · rw [code_special hc] at h
    exact absurd (List.cons.inj h).1 (by decide)
  · rw [code_plain hc] at h
    exact flatMap_code_ne_bracket m _ (List.cons.inj h).2

theorem eq_of_code_append_eq {c d : Char} {s t : List Char}
    (h : code (some c) ++ s = code (some d) ++ t) : c = d := by
  have hbackslash : isSpecial '\\' = true := by decide
  by_cases hc : isSpecial c = true
  · by_cases hd : isSpecial d = true
    · rw [code_special hc, code_special hd] at h
      exact (List.cons.inj (List.cons.inj h).2).1
    · rw [code_special hc, code_plain hd] at h
      exact absurd ((List.cons.inj h).1 ▸ hbackslash) hd
  · by_cases hd : isSpecial d = true
    · rw [code_plain hc, code_special hd] at h
      exact absurd ((List.cons.inj h).1 ▸ hbackslash) hc
    · rw [code_plain hc, code_plain hd] at h
      exact (List.cons.inj h).1

/-- A mask is read back from its code. -/
theorem flatMap_code_injective {m m' : List (Option Char)}
    (h : m.flatMap code = m'.flatMap code) : m = m' := by
  have hne (a : Option Char) (m : List (Option Char)) : (a :: m).flatMap code ≠ [] := by
    rw [List.flatMap_cons]
    exact List.append_ne_nil_of_left_ne_nil (code_ne_nil a) _
  induction m generalizing m' with
  | nil =>
    cases m' with
    | nil => rfl
    | cons b m' => exact absurd h.symm (hne b m')
  | cons a m ih =>
    cases m' with
    | nil => exact absurd h (hne a m)
    | cons b m' =>
      rw [List.flatMap_cons, List.flatMap_cons] at h
      have hab : a = b := by
        cases a with
        | none =>
          cases b with
          | none => rfl
          | some d => exact absurd h.symm (code_some_ne_blank d m' _)
        | some c =>
          cases b with
          | none => exact absurd h (code_some_ne_blank c m _)
          | some d => rw [eq_of_code_append_eq h]
      rw [hab] at h ⊢
      rw [ih (List.append_cancel_left h)]

theorem toList_pattern (s : String) :
    (pattern s).toList = '^' :: ((masked s).flatMap code ++ ['$']) := by
  rw [pattern, String.toList_ofList, masked, flatMap_code_mask]

/-- Descriptions have the same pattern just if they are the same up to their quoted numbers. -/
theorem pattern_eq_iff (s t : String) : pattern s = pattern t ↔ masked s = masked t := by
  rw [← String.toList_inj, toList_pattern, toList_pattern]
  constructor
  · intro h
    exact flatMap_code_injective (List.append_cancel_right (List.cons.inj h).2)
  · intro h
    rw [h]

theorem mask_consChar (c : Char) (ts : List Token) : mask (consChar c ts) = some c :: mask ts := by
  cases ts with
  | nil => rfl
  | cons t ts => cases t <;> simp [mask, consChar]

theorem mem_of_mem_mask {s : List Char} {c : Char} (h : some c ∈ mask (tokens s)) : c ∈ s := by
  fun_induction tokens s with
  | case1 s after hs ih =>
    obtain ⟨q, -, rfl⟩ := afterNumber?_eq_some_iff.1 hs
    have hafter : some c ∈ mask (tokens after) := by simpa [mask] using h
    exact List.mem_append_right q (ih hafter)
  | case2 => cases h
  | case3 d rest _ ih =>
    rw [mask_consChar, List.mem_cons, Option.some.injEq] at h
    rcases h with rfl | h
    · exact List.mem_cons_self
    · exact List.mem_cons_of_mem d (ih h)

/-- A pattern has no characters but those of the description and some of its own. -/
theorem mem_of_mem_pattern {s : String} {c : Char} (h : c ∈ (pattern s).toList) :
    c ∈ s.toList ∨ c ∈ "^$\\\"([0-9+-]+)".toList := by
  rw [toList_pattern, List.mem_cons, List.mem_append, List.mem_flatMap] at h
  rcases h with rfl | ⟨a, ha, hc⟩ | h
  · exact .inr (by decide)
  · cases a with
    | none =>
      have hnumber : numberPattern ⊆ "^$\\\"([0-9+-]+)".toList := by decide
      exact .inr (hnumber hc)
    | some d =>
      have hd := mem_of_mem_mask ha
      by_cases hspecial : isSpecial d = true
      · rw [code_special hspecial, List.mem_cons, List.mem_singleton] at hc
        rcases hc with rfl | rfl
        · exact .inr (by decide)
        · exact .inl hd
      · rw [code_plain hspecial, List.mem_singleton] at hc
        rw [hc]
        exact .inl hd
  · rw [List.mem_singleton.1 h]
    exact .inr (by decide)

theorem mem_mask_of_mem {c : Char} (hc : isNumberChar c = false) (hquote : c ≠ '"') {s : List Char}
    (h : c ∈ s) : some c ∈ mask (tokens s) := by
  fun_induction tokens s with
  | case1 s after hs ih =>
    obtain ⟨q, ⟨ns, -, hns, rfl⟩, rfl⟩ := afterNumber?_eq_some_iff.1 hs
    have hafter : c ∈ after := by
      simpa [hquote, notMem_number hc hns] using h
    exact List.mem_cons_of_mem none (ih hafter)
  | case2 => cases h
  | case3 d s _ ih =>
    rw [mask_consChar]
    rcases List.mem_cons.1 h with rfl | h
    · exact List.mem_cons_self
    · exact List.mem_cons_of_mem _ (ih h)

/-- A character that stands in no number and is none of a pattern's own is in the pattern just if it is in the
description. -/
theorem mem_pattern_iff {c : Char} (hc : isNumberChar c = false)
    (hown : c ∉ "^$\\\"([0-9+-]+)".toList) (d : String) : c ∈ (pattern d).toList ↔ c ∈ d.toList := by
  constructor
  · intro h
    exact (mem_of_mem_pattern h).resolve_right hown
  · intro h
    have hquote : c ≠ '"' := by
      rintro rfl
      exact hown (by decide)
    have hcode : c ∈ code (some c) := by
      by_cases hspecial : isSpecial c = true
      · rw [code_special hspecial]
        exact List.mem_cons_of_mem _ (List.mem_singleton_self c)
      · rw [code_plain hspecial]
        exact List.mem_singleton_self c
    rw [toList_pattern]
    refine List.mem_cons_of_mem _ (List.mem_append_left _ ?_)
    exact List.mem_flatMap.2 ⟨some c, mem_mask_of_mem hc hquote h, hcode⟩

end Description

/-- Steps of the same keyword whose descriptions differ in nothing but their quoted numbers. -/
def Step.SameShape (a b : Step) : Prop :=
  a.keyword = b.keyword ∧ Description.masked a.description = Description.masked b.description

theorem Step.snippet_eq_iff (a b : Step) : a.snippet = b.snippet ↔ a.SameShape b := by
  rw [Step.snippet_eq, Step.snippet_eq, stubText_inj, Description.pattern_eq_iff]
  rfl

end Acceptance
