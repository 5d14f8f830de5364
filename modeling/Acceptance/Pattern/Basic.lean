import Acceptance.Pattern.Program
import Acceptance.Pattern.Reader
import Acceptance.Pattern.Search
import Acceptance.Pattern.Size

/-! Patterns of step definitions: a text together with the expression it describes. -/
namespace Acceptance

structure Pattern where
  text : String
  expr : Pattern.Expr Pattern.CharSet
  groupNames : List String
  deriving Repr

namespace Pattern

inductive Defect where
  | malformed (flaw : Flaw)
  | oversized
  deriving DecidableEq, Repr

/-- A text that is no pattern, and why. -/
structure Error where
  text : String
  defect : Defect
  deriving DecidableEq, Repr

namespace Error

def detail (e : Error) : String :=
  match e.defect with
  | .malformed flaw => flaw.message e.text.toList
  | .oversized => "Compiled regex exceeds size limit of 10485760 bytes."

def message (e : Error) : String := s!"invalid step pattern \x60{e.text}\x60: {e.detail}"

end Error

def compile (text : String) : Except Error Pattern :=
  match Reader.read text.toList with
  | .error flaw => .error ⟨text, .malformed flaw⟩
  | .ok (tree, groupNames) =>
    match tree.searched? with
    | none => .error ⟨text, .oversized⟩
    | some tree => .ok ⟨text, tree.expr, groupNames⟩

/-- Whether the pattern matches somewhere in the text. -/
def isMatch (p : Pattern) (text : String) : Bool := p.expr.occursIn text.toList

/-- The texts of the named groups in the preferred match. -/
def captures (p : Pattern) (text : String) : List (String × String) :=
  p.expr.captures p.groupNames text.toList

end Pattern
end Acceptance
