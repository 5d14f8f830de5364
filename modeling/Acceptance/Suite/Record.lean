import Acceptance.Outcome

/-! Records of what ran, for reports. -/
namespace Acceptance

structure StepRecord where
  keyword : Keyword
  description : String
  line : Nat
  status : Status
  message : Option String
  deriving DecidableEq, Repr

structure ScenarioRecord where
  featureName : String
  name : String
  line : Nat
  outcome : Outcome
  steps : List StepRecord
  deriving DecidableEq, Repr

structure FeatureRecord where
  name : String
  scenarios : List ScenarioRecord
  deriving DecidableEq, Repr

namespace ScenarioRecord

def status (s : ScenarioRecord) : Status := s.outcome.status

def message (s : ScenarioRecord) : Option String :=
  match s.outcome with
  | .notImplemented step => some s!"Not Implemented: {step.text}"
  | o => o.reason?

end ScenarioRecord

namespace FeatureRecord

/-- The status of the worst scenario. -/
def status (f : FeatureRecord) : Status := (Outcome.worst (f.scenarios.map (·.outcome))).status

/-- Adds a scenario to the last feature if it belongs there, else to a new one. -/
def file (s : ScenarioRecord) : List FeatureRecord → List FeatureRecord
  | [] => [⟨s.featureName, [s]⟩]
  | [f] => if f.name = s.featureName then [{ f with scenarios := f.scenarios ++ [s] }]
    else [f, ⟨s.featureName, [s]⟩]
  | f :: fs => f :: file s fs

end FeatureRecord
end Acceptance
