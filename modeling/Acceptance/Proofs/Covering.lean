import Acceptance.Proofs.Masks
import Acceptance.Proofs.StubMatching

/-!
What the pattern of a description covers. A variation of a description falls into the same tokens, so the
descriptions that a pattern matches are those that have it for their own pattern.
-/
namespace Acceptance

namespace Description

variable {d t : List Char}

theorem mask_tokens_number {q : List Char} (hq : IsQuotedNumber q) (t : List Char) :
    mask (tokens (q ++ t)) = none :: mask (tokens t) := by
  rw [tokens_of_number (afterNumber?_eq_some_iff.2 ⟨q, hq, rfl⟩)]
  rfl

theorem mask_tokens_char {c : Char} (hc : ∀ q rest, IsQuotedNumber q → c :: t ≠ q ++ rest) :
    mask (tokens (c :: t)) = some c :: mask (tokens t) := by
  rw [tokens_of_char (afterNumber?_eq_none_iff.2 hc), mask_consChar]

/-- A text is empty, begins with a quoted number, or begins with a character at which none begins. -/
theorem eq_nil_or_begins (t : List Char) : t = [] ∨
    (∃ q rest, IsQuotedNumber q ∧ t = q ++ rest) ∨
    ∃ c rest, (∀ q after, IsQuotedNumber q → c :: rest ≠ q ++ after) ∧ t = c :: rest := by
  cases hnumber : afterNumber? t with
  | some after =>
    obtain ⟨q, hq, rfl⟩ := afterNumber?_eq_some_iff.1 hnumber
    exact .inr (.inl ⟨q, after, hq, rfl⟩)
  | none =>
    cases t with
    | nil => exact .inl rfl
    | cons c rest => exact .inr (.inr ⟨c, rest, afterNumber?_eq_none_iff.1 hnumber, rfl⟩)

theorem eq_nil_of_mask (h : mask (tokens t) = []) : t = [] := by
  obtain rfl | ⟨q, rest, hq, rfl⟩ | ⟨c, rest, hc, rfl⟩ := eq_nil_or_begins t
  · rfl
  · exact nomatch (mask_tokens_number hq rest).symm.trans h
  · exact nomatch (mask_tokens_char hc).symm.trans h

theorem number_of_mask {m : List (Option Char)} (h : mask (tokens t) = none :: m) :
    ∃ q rest, IsQuotedNumber q ∧ t = q ++ rest ∧ mask (tokens rest) = m := by
  obtain rfl | ⟨q, rest, hq, rfl⟩ | ⟨c, rest, hc, rfl⟩ := eq_nil_or_begins t
  · rw [tokens_nil] at h
    cases h
  · rw [mask_tokens_number hq] at h
    exact ⟨q, rest, hq, rfl, (List.cons.inj h).2⟩
  · exact nomatch (mask_tokens_char hc).symm.trans h

theorem char_of_mask {c : Char} {m : List (Option Char)} (h : mask (tokens t) = some c :: m) :
    ∃ rest, t = c :: rest ∧ mask (tokens rest) = m := by
  obtain rfl | ⟨q, rest, hq, rfl⟩ | ⟨e, rest, he, rfl⟩ := eq_nil_or_begins t
  · rw [tokens_nil] at h
    cases h
  · exact nomatch (mask_tokens_number hq rest).symm.trans h
  · rw [mask_tokens_char he] at h
    obtain ⟨hchar, hrest⟩ := List.cons.inj h
    exact ⟨rest, by rw [Option.some.inj hchar], hrest⟩

/-- Texts that are alike where their quoted numbers are masked vary to each other. -/
theorem variant_of_mask_eq (h : mask (tokens d) = mask (tokens t)) : Variant d t := by
  fun_induction tokens d generalizing t with
  | case1 d after hd ih =>
    obtain ⟨q, hq, rfl⟩ := afterNumber?_eq_some_iff.1 hd
    obtain ⟨q', rest, hq', rfl, hrest⟩ := number_of_mask h.symm
    exact .number hq hq' (ih hrest.symm)
  | case2 hd =>
    obtain rfl := eq_nil_of_mask h.symm
    exact .nil
  | case3 c d hd ih =>
    rw [mask_consChar] at h
    obtain ⟨rest, rfl, hrest⟩ := char_of_mask h.symm
    exact .char (afterNumber?_eq_none_iff.1 hd) (ih hrest.symm)

/-- What varies to a text begins with the same character. -/
theorem Variant.head {c : Char} (h : Variant d (c :: t)) : ∃ rest, d = c :: rest := by
  generalize hs : c :: t = s at h
  cases h with
  | nil => cases hs
  | number hq hq' h =>
    obtain ⟨_, rfl⟩ := hq.head
    obtain ⟨_, rfl⟩ := hq'.head
    rw [(List.cons.inj hs).1]
    exact ⟨_, rfl⟩
  | char hc h =>
    rw [(List.cons.inj hs).1]
    exact ⟨_, rfl⟩

/-- At a character other than a double quote no number begins, so it stands for itself. -/
theorem Variant.of_ne_quote {c : Char} (hc : c ≠ '"') (h : Variant d (c :: t)) :
    ∃ rest, d = c :: rest ∧ Variant rest t := by
  generalize hs : c :: t = s at h
  cases h with
  | nil => cases hs
  | number hq hq' h =>
    obtain ⟨_, rfl⟩ := hq'.head
    exact absurd (List.cons.inj hs).1 hc
  | char _ h =>
    obtain ⟨rfl, rfl⟩ := List.cons.inj hs
    exact ⟨_, rfl, h⟩

theorem Variant.of_unquoted {ns : List Char} (hns : ∀ c ∈ ns, c ≠ '"')
    (h : Variant d (ns ++ '"' :: t)) : ∃ rest, d = ns ++ '"' :: rest := by
  induction ns generalizing d with
  | nil => exact h.head
  | cons c ns ih =>
    obtain ⟨hc, hns⟩ := List.forall_mem_cons.1 hns
    obtain ⟨rest, rfl, hrest⟩ := h.of_ne_quote hc
    obtain ⟨after, rfl⟩ := ih hns hrest
    exact ⟨after, rfl⟩

/-- Other numbers in what follows do not make a quoted number begin at a character. -/
theorem Variant.not_number {c : Char} (hc : ∀ q rest, IsQuotedNumber q → c :: d ≠ q ++ rest)
    (h : Variant d t) : ∀ q rest, IsQuotedNumber q → c :: t ≠ q ++ rest := by
  rintro q rest ⟨ns, hne, hns, rfl⟩ heq
  -- a number would end at a double quote of `t`, which `d` has at the same place
  have hunquoted : ∀ c ∈ ns, c ≠ '"' := by
    rintro c hmem rfl
    exact notMem_number (by decide) hns hmem
  rw [List.cons_append, List.append_assoc, List.singleton_append] at heq
  obtain ⟨rfl, rfl⟩ := List.cons.inj heq
  obtain ⟨after, rfl⟩ := h.of_unquoted hunquoted
  refine hc ('"' :: (ns ++ ['"'])) after ⟨ns, hne, hns, rfl⟩ ?_
  rw [List.cons_append, List.append_assoc, List.singleton_append]

/-- A variation falls into the same tokens, up to the numbers that are quoted. -/
theorem Variant.mask_eq (h : Variant d t) : mask (tokens d) = mask (tokens t) := by
  induction h with
  | nil => rfl
  | number hq hq' _ ih => rw [mask_tokens_number hq, mask_tokens_number hq', ih]
  | char hc h ih => rw [mask_tokens_char hc, mask_tokens_char (h.not_number hc), ih]

/-- A description varies to those that have its pattern. -/
theorem variant_iff_pattern_eq (d e : String) :
    Variant d.toList e.toList ↔ pattern d = pattern e := by
  rw [pattern_eq_iff]
  exact ⟨Variant.mask_eq, variant_of_mask_eq⟩

end Description

namespace Pattern
open Description

/-- The pattern of the description is not too large to be compiled. -/
def Moderate (d : String) : Prop := compile (pattern d) ≠ .error ⟨pattern d, .oversized⟩

/-- The pattern of the first description matches the second one. -/
def Covers (d e : String) : Prop := ∃ p, compile (pattern d) = .ok p ∧ p.isMatch e = true

theorem exists_compile_isMatch_iff {d : String} (h : Moderate d) :
    ∃ p, compile (pattern d) = .ok p ∧ ∀ e, p.isMatch e = true ↔ pattern d = pattern e := by
  obtain ⟨p, hcompile, hmatch⟩ := exists_compile_pattern d h
  exact ⟨p, hcompile, fun e => (hmatch e).trans (variant_iff_pattern_eq d e)⟩

theorem covers_iff {d : String} (h : Moderate d) (e : String) :
    Covers d e ↔ pattern d = pattern e := by
  obtain ⟨p, hcompile, hmatch⟩ := exists_compile_isMatch_iff h
  rw [← hmatch e]
  constructor
  · rintro ⟨p', hcompile', he⟩
    obtain rfl : p = p' := Except.ok.inj (hcompile.symm.trans hcompile')
    exact he
  · intro he
    exact ⟨p, hcompile, he⟩

theorem equivalence_covers : Equivalence fun d e : { d // Moderate d } => Covers d e := by
  refine ⟨fun d => ?_, fun {d e} h => ?_, fun {d e f} h h' => ?_⟩
  · exact (covers_iff d.2 _).2 rfl
  · rw [covers_iff d.2] at h
    rw [covers_iff e.2]
    exact h.symm
  · rw [covers_iff d.2] at h ⊢
    rw [covers_iff e.2] at h'
    exact h.trans h'

theorem snippet_eq_iff_covers {a : Step} (h : Moderate a.description) (b : Step) :
    a.snippet = b.snippet ↔ a.keyword = b.keyword ∧ Covers a.description b.description := by
  rw [covers_iff h, Step.snippet_eq, Step.snippet_eq, stubText_inj]

/-- The pattern of a description matches another one just if that has the same pattern, unless it is too
large. So descriptions that cover each other form classes, and two steps share a stub just if they have
the same keyword and the pattern of either one matches the other. -/
theorem covering_classes :
    (∀ d, Moderate d → ∃ p, compile (pattern d) = .ok p ∧
      ∀ e, p.isMatch e = true ↔ pattern d = pattern e) ∧
    Equivalence (fun d e : { d // Moderate d } => Covers d e) ∧
    ∀ a b : Step, Moderate a.description → Moderate b.description →
      (a.snippet = b.snippet ↔ a.keyword = b.keyword ∧ Covers a.description b.description) ∧
      (a.snippet = b.snippet ↔ a.keyword = b.keyword ∧ Covers b.description a.description) := by
  refine ⟨fun d => exists_compile_isMatch_iff, equivalence_covers, fun a b ha hb => ?_⟩
  refine ⟨snippet_eq_iff_covers ha b, ?_⟩
  rw [eq_comm, snippet_eq_iff_covers hb a, @eq_comm _ a.keyword]

theorem moderate_of_isOk {d : String} (h : (compile (pattern d)).isOk = true) : Moderate d := by
  intro herror
  rw [herror] at h
  cases h

theorem covering_classes_overlapping :
    let d := "pay \"1\"2\"3\""
    let e := "pay \"-7\"2\"+\""
    Moderate d ∧ Moderate e ∧ pattern d = pattern e ∧ pattern d ≠ pattern "pay \"1\"2\"x\"" ∧
      (∃ p, compile (pattern d) = .ok p ∧ ∀ x, p.isMatch x = true ↔ pattern d = pattern x) ∧
      ((⟨.When, d, 1⟩ : Step).snippet = (⟨.When, e, 2⟩ : Step).snippet ↔
        Keyword.When = Keyword.When ∧ Covers d e) := by
  intro d e
  have hd : Moderate d := moderate_of_isOk (by decide +kernel)
  have he : Moderate e := moderate_of_isOk (by decide +kernel)
  obtain ⟨hmatch, -, hsteps⟩ := covering_classes
  exact ⟨hd, he, by decide +kernel, by decide +kernel, hmatch d hd,
    (hsteps ⟨.When, d, 1⟩ ⟨.When, e, 2⟩ hd he).1⟩

end Pattern
end Acceptance
