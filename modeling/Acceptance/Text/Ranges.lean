/-! Sets of characters written as ascending ranges of code points. -/
namespace Acceptance.Text

abbrev Ranges := List (Nat × Nat)

namespace Ranges

def hasCode : Ranges → Nat → Bool
  | [], _ => false
  | (first, last) :: rest, n => first ≤ n && (n ≤ last || hasCode rest n)

def has (rs : Ranges) (c : Char) : Bool := rs.hasCode c.toNat

/-- Each range is in order and ends before the next one begins. -/
def Ascending : Ranges → Prop
  | [] => True
  | (first, last) :: rest => first ≤ last ∧ (∀ r ∈ rest, last < r.1) ∧ Ascending rest

/-- A search that stops at the first range beyond the code point misses nothing. -/
theorem hasCode_iff {rs : Ranges} (h : rs.Ascending) (n : Nat) :
    rs.hasCode n = true ↔ ∃ r ∈ rs, r.1 ≤ n ∧ n ≤ r.2 := by
  induction rs with
  | nil => simp [hasCode]
  | cons r rest ih =>
    obtain ⟨first, last⟩ := r
    obtain ⟨_, hlt, hrest⟩ := h
    simp only [hasCode, Bool.and_eq_true, Bool.or_eq_true, decide_eq_true_eq, ih hrest,
      List.mem_cons, exists_eq_or_imp]
    constructor
    · rintro ⟨hf, hl | hr⟩
      · exact .inl ⟨hf, hl⟩
      · exact .inr hr
    · rintro (⟨hf, hl⟩ | ⟨s, hs, h1, h2⟩)
      · exact ⟨hf, .inl hl⟩
      · have := hlt s hs
        exact ⟨by omega, .inr ⟨s, hs, h1, h2⟩⟩

/-- Adds a range; ranges that meet or overlap become one. -/
def insert (first last : Nat) : Ranges → Ranges
  | [] => [(first, last)]
  | (a, b) :: rest =>
    if last + 1 < a then (first, last) :: (a, b) :: rest
    else if b + 1 < first then (a, b) :: insert first last rest
    else insert (min a first) (max b last) rest

theorem lt_of_mem_insert {rs : Ranges} {first last bound : Nat} (hb : bound < first)
    (h : ∀ r ∈ rs, bound < r.1) : ∀ r ∈ insert first last rs, bound < r.1 := by
  induction rs generalizing first last with
  | nil => simpa [insert] using hb
  | cons r rest ih =>
    obtain ⟨a, b⟩ := r
    simp only [List.mem_cons, forall_eq_or_imp] at h
    simp only [insert]
    split
    · simpa [hb] using h
    · split
      · simpa [h.1] using ih hb h.2
      · exact ih (by omega) h.2

theorem ascending_insert {rs : Ranges} (h : rs.Ascending) {first last : Nat} (hr : first ≤ last) :
    (insert first last rs).Ascending := by
  induction rs generalizing first last with
  | nil => simpa [insert, Ascending] using hr
  | cons r rest ih =>
    obtain ⟨a, b⟩ := r
    obtain ⟨hab, hlt, hrest⟩ := h
    simp only [insert]
    split
    · refine ⟨hr, ?_, hab, hlt, hrest⟩
      simp only [List.mem_cons, forall_eq_or_imp]
      exact ⟨by omega, fun r hr => by have := hlt r hr; omega⟩
    · split
      · exact ⟨hab, lt_of_mem_insert (by omega) hlt, ih hrest hr⟩
      · exact ih hrest (by omega)

/-- Beside what was there, just the codes of the new range are in. -/
theorem hasCode_insert {rs : Ranges} (h : rs.Ascending) {first last : Nat} (hr : first ≤ last)
    (n : Nat) :
    (insert first last rs).hasCode n = true ↔ (first ≤ n ∧ n ≤ last) ∨ rs.hasCode n = true := by
  induction rs generalizing first last with
  | nil => simp [insert, hasCode]
  | cons r rest ih =>
    obtain ⟨a, b⟩ := r
    obtain ⟨hab, hlt, hrest⟩ := h
    have hafter : hasCode rest n = true → b < n := fun hr => by
      obtain ⟨r, hr, h1, -⟩ := (hasCode_iff hrest n).1 hr
      have := hlt r hr
      omega
    simp only [insert]
    split
    · simp only [hasCode, Bool.and_eq_true, Bool.or_eq_true, decide_eq_true_eq]
      grind
    · split
      · simp only [hasCode, Bool.and_eq_true, Bool.or_eq_true, decide_eq_true_eq, ih hrest hr]
        grind
      · simp only [hasCode, Bool.and_eq_true, Bool.or_eq_true, decide_eq_true_eq,
          ih hrest (show min a first ≤ max b last by omega)]
        grind

def union (rs ss : Ranges) : Ranges := rs.foldr (fun r => insert r.1 r.2) ss

/-- The code points of characters just after and before another; surrogates are passed over. -/
def next (n : Nat) : Nat := if n = 0xD7FF then 0xE000 else n + 1

def previous (n : Nat) : Nat := if n = 0xE000 then 0xD7FF else n - 1

/-- What is missing from `start` on. -/
def gaps (start : Nat) : Ranges → Ranges
  | [] => if start ≤ 0x10FFFF then [(start, 0x10FFFF)] else []
  | (a, b) :: rest =>
    if start < a then (start, previous a) :: gaps (next b) rest else gaps (next b) rest

def compl (rs : Ranges) : Ranges := gaps 0 rs

def inter (rs ss : Ranges) : Ranges := compl (union (compl rs) (compl ss))

end Ranges
end Acceptance.Text
