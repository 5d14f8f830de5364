import Acceptance.Outcome
import Acceptance.Text.Numeral

/-! The arguments that a pattern takes from the text of a step. -/
namespace Acceptance

/-- The texts of the named groups that took part in a match. -/
abbrev Args := List (String × String)

inductive ValueType where
  | int (t : Text.IntType)
  | bool
  | char
  | text
  | keyword
  deriving DecidableEq, Repr

inductive Value where
  | int (n : Int)
  | bool (b : Bool)
  | char (c : Char)
  | text (s : String)
  | keyword (k : Keyword)
  deriving DecidableEq, Repr

def Value.shown : Value → String
  | int n => toString n
  | bool b => toString b
  | char c => c.toString
  | text s => s
  | keyword k => k.name

inductive ValueError where
  | numeral (e : Text.NumeralError)
  | notBool
  | noChar
  | manyChars
  | keyword (u : Keyword.Unknown)
  deriving DecidableEq, Repr

def ValueError.message : ValueError → String
  | numeral e => e.message
  | notBool => "provided string was not \x60true\x60 or \x60false\x60"
  | noChar => "cannot parse char from empty string"
  | manyChars => "too many characters in string"
  | keyword u => u.message

def ValueType.read (t : ValueType) (s : String) : Except ValueError Value :=
  match t with
  | int t => (t.read s.toList).map .int |>.mapError .numeral
  | bool =>
    if s = "true" then .ok (.bool true)
    else if s = "false" then .ok (.bool false)
    else .error .notBool
  | char =>
    match s.toList with
    | [] => .error .noChar
    | [c] => .ok (.char c)
    | _ => .error .manyChars
  | text => .ok (.text s)
  | keyword => (Keyword.ofText s).map .keyword |>.mapError .keyword

namespace Args

def get? (args : Args) (name : String) : Option String := args.lookup name

/-- The argument as a value; that it is missing or no such value is a failure of the step. -/
def read (args : Args) (name : String) (t : ValueType) : Except StepError Value :=
  match args.get? name with
  | none => .error (.failure s!"missing step argument '{name}'")
  | some raw =>
    match t.read raw with
    | .ok v => .ok v
    | .error e => .error (.failure s!"invalid value '{raw}' for step argument '{name}': {e.message}")

end Args
end Acceptance
