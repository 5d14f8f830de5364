import Acceptance.Registry.Basic
import Acceptance.Suite.Record

/-! Running steps and scenarios against a registry. -/
namespace Acceptance

/-- A step that ran, how it ended and how it counts. -/
structure StepRun where
  step : Step
  outcome : Outcome
  status : Status
  deriving DecidableEq, Repr

namespace StepRun

def ofMatch (step : Step) : Match → StepRun
  | .unmatched => ⟨step, .notImplemented step, .undefined⟩
  | .optedOut => ⟨step, .success, .skipped⟩
  | .executed result => ⟨step, .ofResult result, (Outcome.ofResult result).status⟩

def record (s : StepRun) : StepRecord :=
  ⟨s.step.keyword, s.step.description, s.step.line, s.status, s.outcome.reason?⟩

/-- The stub for a step that has no definition. -/
def snippet? (s : StepRun) : Option String :=
  match s.outcome with
  | .notImplemented step => some step.snippet
  | _ => none

end StepRun

/-- A scenario that ran, with its steps in order. -/
structure ScenarioRun where
  scenario : Scenario
  steps : List StepRun
  deriving DecidableEq, Repr

namespace ScenarioRun

def outcome (s : ScenarioRun) : Outcome := .worst (s.steps.map (·.outcome))

def status (s : ScenarioRun) : Status := s.outcome.status

def record (featureName : String) (s : ScenarioRun) : ScenarioRecord :=
  ⟨featureName, s.scenario.description, s.scenario.line, s.outcome, s.steps.map (·.record)⟩

end ScenarioRun

namespace Registry

variable {σ : Type}

def runStep (r : Registry σ) (step : Step) (optOut : Bool) : Run σ StepRun :=
  let found := r.find step.description optOut
  let run := StepRun.ofMatch step found.value
  ⟨run, found.registry, found.events ++ [.debug s!"{step.text}: {run.status.label}"]⟩

/-- Runs steps in order. Those after an unsuccessful one are skipped. -/
def runSteps (r : Registry σ) (optOut : Bool) : List Step → Run σ (List StepRun)
  | [] => ⟨[], r, []⟩
  | step :: more =>
    let first := r.runStep step optOut
    let rest := first.registry.runSteps (optOut || !first.value.outcome.isSuccess) more
    ⟨first.value :: rest.value, rest.registry, first.events ++ rest.events⟩

def runScenario (r : Registry σ) (scenario : Scenario) : Run σ ScenarioRun :=
  let steps := r.runSteps false scenario.steps
  let run : ScenarioRun := ⟨scenario, steps.value⟩
  ⟨run, steps.registry, steps.events ++ [.debug s!"{scenario.text}: {run.status.label}"]⟩

def runScenarios (r : Registry σ) : List Scenario → Run σ (List ScenarioRun)
  | [] => ⟨[], r, []⟩
  | scenario :: more =>
    let first := r.runScenario scenario
    let rest := first.registry.runScenarios more
    ⟨first.value :: rest.value, rest.registry, first.events ++ rest.events⟩

end Registry
end Acceptance
