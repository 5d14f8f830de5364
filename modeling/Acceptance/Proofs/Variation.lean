import Acceptance.Description
import Mathlib.Data.List.TakeWhile

/-!
Descriptions that differ only in their quoted numbers. The tokens of a description stand for just the
texts that it varies to.
-/
namespace Acceptance.Description

/-- A double quote, one or more of the characters `0` to `9`, `+` and `-`, and a double quote. -/
def IsQuotedNumber (q : List Char) : Prop :=
  ∃ ns ≠ [], (∀ c ∈ ns, ('0' ≤ c ∧ c ≤ '9') ∨ c = '+' ∨ c = '-') ∧ q = '"' :: (ns ++ ['"'])

/-- `t` is `d` with other quoted numbers: read from the left, a quoted number that begins in `d` stands
for any quoted number, and a character at which none begins stands for itself. -/
inductive Variant : List Char → List Char → Prop
  | nil : Variant [] []
  | number {q q' d t : List Char} (hq : IsQuotedNumber q) (hq' : IsQuotedNumber q')
      (h : Variant d t) : Variant (q ++ d) (q' ++ t)
  | char {c : Char} {d t : List Char} (hc : ∀ q rest, IsQuotedNumber q → c :: d ≠ q ++ rest)
      (h : Variant d t) : Variant (c :: d) (c :: t)

/-- Texts that the tokens stand for. -/
def Fits : List Token → List Char → Prop
  | [], t => t = []
  | .literal text :: ts, t => ∃ rest, t = text ++ rest ∧ Fits ts rest
  | .quotedNumber :: ts, t => ∃ q rest, IsQuotedNumber q ∧ t = q ++ rest ∧ Fits ts rest

theorem isNumberChar_iff (c : Char) :
    isNumberChar c = true ↔ ('0' ≤ c ∧ c ≤ '9') ∨ c = '+' ∨ c = '-' := by
  simp only [isNumberChar, Char.isDigit, Bool.or_eq_true, Bool.and_eq_true, decide_eq_true_eq,
    beq_iff_eq, or_assoc]
  rfl

theorem notMem_number {c : Char} (hc : isNumberChar c = false) {ns : List Char}
    (hns : ∀ d ∈ ns, ('0' ≤ d ∧ d ≤ '9') ∨ d = '+' ∨ d = '-') : c ∉ ns := by
  intro hmem
  have hnumber := (isNumberChar_iff c).2 (hns c hmem)
  exact absurd (hc.symm.trans hnumber) Bool.false_ne_true

theorem IsQuotedNumber.head {q : List Char} (hq : IsQuotedNumber q) : ∃ rest, q = '"' :: rest := by
  obtain ⟨ns, -, -, rfl⟩ := hq
  exact ⟨_, rfl⟩

/-- What is found behind a quoted number is what stands there. -/
theorem afterNumber?_eq_some_iff {s after : List Char} :
    afterNumber? s = some after ↔ ∃ q, IsQuotedNumber q ∧ s = q ++ after := by
  constructor
  · intro h
    unfold afterNumber? at h
    split at h
    next c rest =>
      split at h
      next hc =>
        split at h
        next heq =>
          obtain rfl := (Option.some.inj h).symm
          have hrest := List.takeWhile_append_dropWhile (p := isNumberChar) (l := rest)
          rw [heq] at hrest
          have hs : '"' :: c :: rest =
              '"' :: (c :: rest.takeWhile isNumberChar ++ ['"']) ++ after := by
            rw [List.cons_append, List.append_assoc, List.cons_append, List.singleton_append, hrest]
          refine ⟨_, ⟨c :: rest.takeWhile isNumberChar, by simp, ?_, rfl⟩, hs⟩
          intro d hd
          rcases List.mem_cons.1 hd with rfl | hd
          · exact (isNumberChar_iff d).1 hc
          · exact (isNumberChar_iff d).1 (List.mem_takeWhile_imp hd)
        next => cases h
      next => cases h
    next => cases h
  · rintro ⟨q, ⟨ns, hne, hns, rfl⟩, rfl⟩
    cases ns with
    | nil => exact absurd rfl hne
    | cons c ns =>
      have hall : ∀ d ∈ ns, isNumberChar d = true := fun d hd =>
        (isNumberChar_iff d).2 (hns d (List.mem_cons_of_mem c hd))
      have hc : isNumberChar c = true := (isNumberChar_iff c).2 (hns c List.mem_cons_self)
      have hdrop : (ns ++ '"' :: after).dropWhile isNumberChar = '"' :: after := by
        rw [List.dropWhile_append_of_pos hall, List.dropWhile_cons_of_neg (by decide)]
      simp [afterNumber?, hc, hdrop]

theorem afterNumber?_eq_none_iff {s : List Char} :
    afterNumber? s = none ↔ ∀ q rest, IsQuotedNumber q → s ≠ q ++ rest := by
  rw [Option.eq_none_iff_forall_not_mem]
  simp only [Option.mem_def, afterNumber?_eq_some_iff, not_exists, not_and]
  exact forall_comm

theorem tokens_of_number {s after : List Char} (h : afterNumber? s = some after) :
    tokens s = .quotedNumber :: tokens after := by
  rw [tokens]
  split
  next heq =>
    obtain rfl := Option.some.inj (h.symm.trans heq)
    rfl
  next heq => exact absurd (h.symm.trans heq) (by simp)

theorem tokens_nil : tokens [] = [] := by
  rw [tokens]
  rfl

theorem tokens_of_char {c : Char} {rest : List Char} (h : afterNumber? (c :: rest) = none) :
    tokens (c :: rest) = consChar c (tokens rest) := by
  rw [tokens]
  split
  next heq => exact absurd (h.symm.trans heq) (by simp)
  next => rfl

theorem fits_consChar {c : Char} {ts : List Token} {t : List Char} :
    Fits (consChar c ts) t ↔ ∃ rest, t = c :: rest ∧ Fits ts rest := by
  cases ts with
  | nil => simp [consChar, Fits]
  | cons token ts =>
    cases token with
    | quotedNumber => simp [consChar, Fits]
    | literal text =>
      simp only [consChar, Fits]
      constructor
      · rintro ⟨rest, rfl, h⟩
        exact ⟨text ++ rest, rfl, rest, rfl, h⟩
      · rintro ⟨_, rfl, rest, rfl, h⟩
        exact ⟨rest, rfl, h⟩

/-- The tokens of a description stand for the texts that it varies to. -/
theorem fits_tokens_iff (d t : List Char) : Fits (tokens d) t ↔ Variant d t := by
  constructor
  · intro h
    fun_induction tokens d generalizing t with
    | case1 s after hs ih =>
      obtain ⟨q', rest, hq', rfl, hrest⟩ := h
      obtain ⟨q, hq, rfl⟩ := afterNumber?_eq_some_iff.1 hs
      exact .number hq hq' (ih rest hrest)
    | case2 hs =>
      obtain rfl : t = [] := h
      exact .nil
    | case3 c d hs ih =>
      obtain ⟨rest, rfl, hrest⟩ := fits_consChar.1 h
      exact .char (afterNumber?_eq_none_iff.1 hs) (ih rest hrest)
  · intro h
    induction h with
    | nil => rw [tokens_nil]; rfl
    | @number q q' d t hq hq' _ ih =>
      rw [tokens_of_number (afterNumber?_eq_some_iff.2 ⟨q, hq, rfl⟩)]
      exact ⟨q', t, hq', rfl, ih⟩
    | @char c d t hc _ ih =>
      rw [tokens_of_char (afterNumber?_eq_none_iff.2 hc), fits_consChar]
      exact ⟨t, rfl, ih⟩

theorem variant_refl (d : List Char) : Variant d d := by
  fun_induction tokens d with
  | case1 s after hs ih =>
    obtain ⟨q, hq, rfl⟩ := afterNumber?_eq_some_iff.1 hs
    exact .number hq hq ih
  | case2 hs => exact .nil
  | case3 c d hs ih => exact .char (afterNumber?_eq_none_iff.1 hs) ih

end Acceptance.Description
