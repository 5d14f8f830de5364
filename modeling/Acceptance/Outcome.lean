import Acceptance.Feature.Basic

/-! How steps and scenarios end. -/
namespace Acceptance

/-- What an action gives as the reason why its step did not succeed. -/
inductive StepError where
  | pending (reason : String)
  | failure (reason : String)
  deriving DecidableEq, Repr

namespace StepError

def reason : StepError → String
  | pending reason | failure reason => reason

end StepError

inductive Status where
  | passed | pending | failed | undefined | skipped
  deriving DecidableEq, Repr

def Status.label : Status → String
  | passed => "passed"
  | pending => "pending"
  | failed => "failed"
  | undefined => "undefined"
  | skipped => "skipped"

inductive Outcome where
  | success
  | pending (reason : String)
  | notImplemented (step : Step)
  | failure (reason : String)
  deriving DecidableEq, Repr

namespace Outcome

def ofResult : Except StepError Unit → Outcome
  | .ok () => success
  | .error (.pending reason) => pending reason
  | .error (.failure reason) => failure reason

def isSuccess : Outcome → Bool
  | success => true
  | _ => false

def severity : Outcome → Nat
  | success => 0
  | notImplemented _ => 1
  | pending _ => 2
  | failure _ => 3

/-- The more severe of two outcomes; the first one if they are equally severe. -/
def escalate (a b : Outcome) : Outcome := if a.severity < b.severity then b else a

def worst (os : List Outcome) : Outcome := os.foldl escalate success

def status : Outcome → Status
  | success => .passed
  | pending _ => .pending
  | notImplemented _ => .undefined
  | failure _ => .failed

/-- The reason of an outcome that carries one. -/
def reason? : Outcome → Option String
  | pending reason | failure reason => some reason
  | success | notImplemented _ => none

def text : Outcome → String
  | success => "success"
  | pending reason => s!"pending: {reason}"
  | failure reason => s!"failure: {reason}"
  | notImplemented step =>
    s!"Not Implemented: {step.text}\nYou can implement step definition with following snippet:\n" ++
      step.snippet

end Outcome
end Acceptance
