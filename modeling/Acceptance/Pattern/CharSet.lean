import Acceptance.Text.Blank
import Acceptance.Text.Fold
import Acceptance.Text.Word

/-! Sets of characters as a pattern describes them. -/
namespace Acceptance.Pattern
open Text

inductive CharSet where
  | none
  | range (first last : Char)
  | digit
  | blank
  | word
  | listed (rs : Ranges)
  | union (s t : CharSet)
  | inter (s t : CharSet)
  | compl (s : CharSet)
  | anyCase (s : CharSet)
  deriving DecidableEq, Repr

namespace CharSet

def has : CharSet → Char → Bool
  | none, _ => false
  | range first last, c => first ≤ c && c ≤ last
  | digit, c => isDigit c
  | blank, c => isBlank c
  | word, c => isWord c
  | listed rs, c => rs.has c
  | union s t, c => s.has c || t.has c
  | inter s t, c => s.has c && t.has c
  | compl s, c => !s.has c
  | anyCase s, c => s.has c || (caseVariants c).any s.has

/-- The set as ranges. -/
def ranges : CharSet → Ranges
  | none => []
  | range first last => [(first.toNat, last.toNat)]
  | digit => digits
  | blank => blanks
  | word => words
  | listed rs => rs
  | union s t => s.ranges.union t.ranges
  | inter s t => s.ranges.inter t.ranges
  | compl s => s.ranges.compl
  | anyCase s => s.ranges.anyCase

def one (c : Char) : CharSet := range c c

def all : CharSet := compl none

def notNewline : CharSet := compl (one '\n')

def ascii : CharSet := range '\x00' '\x7f'

def isAscii (s : CharSet) : Bool := s.ranges.all (·.2 < 128)

def diff (s t : CharSet) : CharSet := inter s (compl t)

def symmDiff (s t : CharSet) : CharSet := union (diff s t) (diff t s)

/-- The set with the ASCII letters that differ in case only from letters of it. -/
def anyAsciiCase (s : CharSet) : CharSet := union s (inter ascii (anyCase (inter ascii s)))

@[simp] theorem has_one (c d : Char) : (one c).has d = decide (d = c) := by
  simp only [one, has, ← Bool.decide_and]
  exact decide_eq_decide.2 ⟨fun ⟨h, k⟩ => Char.le_antisymm k h, fun h => h ▸ ⟨Char.le_refl _, Char.le_refl _⟩⟩

@[simp] theorem has_all (c : Char) : all.has c = true := rfl

end CharSet
end Acceptance.Pattern
