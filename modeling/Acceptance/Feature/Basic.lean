import Acceptance.Description
import Acceptance.Keyword
import Acceptance.Text.RawLiteral

/-! Features, their scenarios and the steps of these. -/
namespace Acceptance

/-- A line of 0 stands for a step that was not read from a text. -/
structure Step where
  keyword : Keyword
  description : String
  line : Nat := 0
  deriving DecidableEq, Repr

structure Scenario where
  description : String
  steps : List Step := []
  line : Nat := 0
  deriving DecidableEq, Repr

structure Feature where
  name : String
  description : String := ""
  scenarios : List Scenario := []
  deriving DecidableEq, Repr

namespace Step

def text (s : Step) : String := s!"{s.keyword.name} {s.description}"

/-- A stub of a definition for the step. -/
def snippet (s : Step) : String :=
  let pattern := String.ofList (Text.rawLiteral (Description.pattern s.description).toList)
  "registry." ++ s.keyword.method ++ "(" ++ pattern ++
    ", |_args| \x7b\n    Err(StepError::pending(\"Not implemented\"))\n\x7d);"

end Step

def Scenario.text (s : Scenario) : String := s!"Scenario: {s.description}"

def Feature.text (f : Feature) : String := s!"Feature: {f.name}\n{f.description}\n"

end Acceptance
