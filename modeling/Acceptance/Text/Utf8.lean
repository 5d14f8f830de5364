import Acceptance.Text.Ranges

/-! Characters as bytes: how a range of code points is written in UTF-8. -/
namespace Acceptance.Text.Utf8

abbrev ByteRange := Nat × Nat

/-- Code points whose encodings have the same number of bytes: a leading byte, which adds `lead` to the
digit of highest value, and `further` bytes of a digit to base 64 each. -/
structure Block where
  first : Nat
  last : Nat
  lead : Nat
  further : Nat

def blocks : List Block :=
  [⟨0, 0x7F, 0, 0⟩, ⟨0x80, 0x7FF, 0xC0, 1⟩, ⟨0x800, 0xD7FF, 0xE0, 2⟩, ⟨0xE000, 0xFFFF, 0xE0, 2⟩,
   ⟨0x10000, 0x10FFFF, 0xF0, 3⟩]

/-- The numbers from `first` to `last`, as few sequences of byte ranges as each stand for all their
combinations. -/
def digitRanges (lead : Nat) : Nat → Nat → Nat → List (List ByteRange)
  | 0, first, last => [[(lead + first, lead + last)]]
  | further + 1, first, last =>
    let unit := 64 ^ (further + 1)
    let a := first / unit
    let b := last / unit
    let under := fun (digit first last : Nat) =>
      (digitRanges 0x80 further first last).map ((lead + digit, lead + digit) :: ·)
    if a = b then under a (first % unit) (last % unit)
    else
      let start := if first % unit = 0 then a else a + 1
      let stop := if last % unit = unit - 1 then b + 1 else b
      (if start = a then [] else under a (first % unit) (unit - 1)) ++
        (if start < stop then
          [(lead + start, lead + stop - 1) :: .replicate (further + 1) (0x80, 0xBF)] else []) ++
        (if b < stop then [] else under b 0 (last % unit))

/-- The encodings of the code points from `first` to `last`, in ascending order. -/
def ofRange (first last : Nat) : List (List ByteRange) :=
  blocks.flatMap fun b =>
    let start := max first b.first
    let stop := min last b.last
    if start ≤ stop then digitRanges b.lead b.further start stop else []

def ofRanges (rs : Ranges) : List (List ByteRange) := rs.flatMap fun (first, last) => ofRange first last

def ofChars (cs : List Char) : List UInt8 := cs.flatMap String.utf8EncodeChar

/-- The number of bytes in which characters are written. -/
def size (cs : List Char) : Nat := cs.foldr (fun c n => c.utf8Size + n) 0

theorem length_ofChars (cs : List Char) : (ofChars cs).length = size cs := by
  induction cs with
  | nil => rfl
  | cons c cs ih =>
    rw [ofChars, List.flatMap_cons, List.length_append, ← ofChars, ih]
    simp [size]

end Acceptance.Text.Utf8
