import Acceptance.Text.Blank
import Acceptance.Text.Category
import Acceptance.Text.Letter

/-! Properties that a character has or has not, as of Unicode 16.0, and the names that they go by. -/
namespace Acceptance.Text

namespace Trait

/-- What was no letter yet is left out. -/
def alphabetic : Ranges := letters.inter Category.unassigned.compl

/-- Lower case is not only for lower-case letters. -/
def lowercase : Ranges := Category.lowercaseLetters.union
  [(0xAA, 0xAA), (0xBA, 0xBA), (0x2B0, 0x2B8), (0x2C0, 0x2C1), (0x2E0, 0x2E4), (0x345, 0x345),
   (0x37A, 0x37A), (0x10FC, 0x10FC), (0x1D2C, 0x1D6A), (0x1D78, 0x1D78), (0x1D9B, 0x1DBF),
   (0x2071, 0x2071), (0x207F, 0x207F), (0x2090, 0x209C), (0x2170, 0x217F), (0x24D0, 0x24E9),
   (0x2C7C, 0x2C7D), (0xA69C, 0xA69D), (0xA770, 0xA770), (0xA7F2, 0xA7F4), (0xA7F8, 0xA7F9),
   (0xAB5C, 0xAB5F), (0xAB69, 0xAB69), (0x10780, 0x10780), (0x10783, 0x10785), (0x10787, 0x107B0),
   (0x107B2, 0x107BA), (0x1E030, 0x1E06D)]

def uppercase : Ranges := Category.uppercaseLetters.union
  [(0x2160, 0x216F), (0x24B6, 0x24CF), (0x1F130, 0x1F149), (0x1F150, 0x1F169), (0x1F170, 0x1F189)]

def cased : Ranges := Category.union [Category.titlecaseLetters, uppercase, lowercase]

end Trait

def traits : List (List String × Option Ranges) :=
  [(["alphabetic", "alpha"], some Trait.alphabetic),
   (["lowercase", "lower"], some Trait.lowercase),
   (["uppercase", "upper"], some Trait.uppercase),
   (["cased"], some Trait.cased),
   (["whitespace", "wspace", "space"], some blanks)]

end Acceptance.Text
