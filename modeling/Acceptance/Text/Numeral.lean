/-! Reading whole numbers of a fixed width from decimal text. -/
namespace Acceptance.Text

/-- Whole numbers of a fixed number of bits, at least one. -/
structure IntType where
  signed : Bool
  bits : Nat
  deriving DecidableEq, Repr

namespace IntType

def least (t : IntType) : Int := if t.signed then -Int.pow 2 (t.bits - 1) else 0

def greatest (t : IntType) : Int :=
  if t.signed then Int.pow 2 (t.bits - 1) - 1 else Int.pow 2 t.bits - 1

end IntType

inductive NumeralError where
  | empty
  | badDigit
  | tooLarge
  | tooSmall
  deriving DecidableEq, Repr

namespace NumeralError

def message : NumeralError → String
  | empty => "cannot parse integer from empty string"
  | badDigit => "invalid digit found in string"
  | tooLarge => "number too large to fit in target type"
  | tooSmall => "number too small to fit in target type"

end NumeralError

namespace IntType

/-- Reads digits away from zero, from left to right, up to the first one that is bad or leads out of the
type. -/
def readDigits (t : IntType) (negative : Bool) (n : Int) : List Char → Except NumeralError Int
  | [] => .ok n
  | c :: rest =>
    if c.isDigit then
      let d : Int := c.toNat - '0'.toNat
      let n := if negative then 10 * n - d else 10 * n + d
      if n < t.least then .error .tooSmall
      else if t.greatest < n then .error .tooLarge
      else t.readDigits negative n rest
    else .error .badDigit

/-- Reads a number with an optional sign; only a signed type takes a minus. -/
def read (t : IntType) : List Char → Except NumeralError Int
  | [] => .error .empty
  | [c] => if c.isDigit then t.readDigits false 0 [c] else .error .badDigit
  | '+' :: rest => t.readDigits false 0 rest
  | '-' :: rest => if t.signed then t.readDigits true 0 rest else .error .badDigit
  | s => t.readDigits false 0 s

end IntType
end Acceptance.Text
