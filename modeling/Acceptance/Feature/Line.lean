import Acceptance.Keyword

/-! What a single line of a feature text is. -/
namespace Acceptance.Feature

inductive Line where
  | feature (name : List Char)
  | scenario (description : List Char)
  | step (keyword : Keyword) (description : List Char)
  | blank
  | other
  deriving DecidableEq, Repr

namespace Line

/-- What follows `start` in `s`, if `s` begins so. -/
def after? : (start s : List Char) → Option (List Char)
  | [], s => some s
  | _ :: _, [] => none
  | c :: start, d :: s => if c = d then after? start s else none

/-- What follows `start` in `s`, if `s` begins so and goes on. -/
def more? (start s : List Char) : Option (List Char) := (after? start s).filter (!·.isEmpty)

def featureStart : List Char := "Feature: ".toList

def scenarioStart : List Char := "  Scenario: ".toList

def stepStart (k : Keyword) : List Char := "    ".toList ++ k.name.toList ++ [' ']

def step? (s : List Char) : Option (Keyword × List Char) :=
  Keyword.all.findSome? fun k => (more? (stepStart k) s).map (k, ·)

def of (s : List Char) : Line :=
  match more? featureStart s with
  | some name => feature name
  | none =>
    match more? scenarioStart s with
    | some description => scenario description
    | none =>
      match step? s with
      | some (k, description) => step k description
      | none => if Text.isAllBlank s then blank else other

end Line
end Acceptance.Feature
