import Acceptance.Text.Ranges

/-! White space: the characters with the property `White_Space`. -/
namespace Acceptance.Text

def blanks : Ranges :=
  [(0x9, 0xD), (0x20, 0x20), (0x85, 0x85), (0xA0, 0xA0), (0x1680, 0x1680), (0x2000, 0x200A),
   (0x2028, 0x2029), (0x202F, 0x202F), (0x205F, 0x205F), (0x3000, 0x3000)]

def isBlank (c : Char) : Bool := blanks.has c

def trimLeft (s : List Char) : List Char := s.dropWhile isBlank

/-- The text without the white space at its two ends. -/
def trim (s : List Char) : List Char := (trimLeft (trimLeft s).reverse).reverse

/-- White space and nothing else. -/
def isAllBlank (s : List Char) : Bool := s.all isBlank

end Acceptance.Text
