import Acceptance.Text.Blank

/-! The words that begin a step. -/
namespace Acceptance

inductive Keyword where
  | Given | When | Then | And | But
  deriving DecidableEq, Repr

namespace Keyword

/-- The order in which written keywords are tried. -/
def all : List Keyword := [Given, When, Then, But, And]

def name : Keyword → String
  | Given => "Given"
  | When => "When"
  | Then => "Then"
  | And => "And"
  | But => "But"

/-- The name under which a definition with the keyword is registered in a stub. -/
def method : Keyword → String
  | Given => "given"
  | When => "when"
  | Then => "then"
  | And => "and"
  | But => "but"

def rank : Keyword → Nat
  | Given => 0
  | When => 1
  | Then => 2
  | And => 3
  | But => 4

instance : LE Keyword := ⟨fun k l => k.rank ≤ l.rank⟩

instance (k l : Keyword) : Decidable (k ≤ l) := inferInstanceAs (Decidable (k.rank ≤ l.rank))

/-- A text that is no keyword, without the white space around it. -/
structure Unknown where
  text : String
  deriving DecidableEq, Repr

def Unknown.message (u : Unknown) : String := s!"invalid step keyword: {u.text}"

/-- Reads a keyword in any mixture of ASCII cases, with white space around it. -/
def ofText (s : String) : Except Unknown Keyword :=
  let t := Text.trim s.toList
  match all.find? fun k => t.map Char.toLower == k.method.toList with
  | some k => .ok k
  | none => .error ⟨String.ofList t⟩

end Keyword
end Acceptance
