import Acceptance.Config
import Acceptance.Suite.Stats
import Acceptance.Suite.Walk

/-! A suite runs features against a registry and keeps counts, stubs and records of what ran. -/
namespace Acceptance

/-- A feature with scenarios that did not pass, in a strict suite. -/
structure SuiteError where
  feature : String
  failures : Nat
  pending : Nat
  undefined : Nat
  deriving DecidableEq, Repr

def SuiteError.message (e : SuiteError) : String :=
  s!"feature '{e.feature}' has non-passing scenarios ({e.failures} failures, {e.pending} pending, {e.undefined} undefined)"

/-- The snippets are in ascending order. -/
structure Suite where
  config : Config := {}
  stats : Stats := {}
  snippets : List String := []
  records : List FeatureRecord := []
  deriving DecidableEq, Repr

namespace Suite

/-- Puts a text into an ascending list that does not hold it yet. -/
def insertSnippet (s : String) : List String → List String
  | [] => [s]
  | t :: ts => if s < t then s :: t :: ts else if s = t then t :: ts else t :: insertSnippet s ts

def countStep (s : Suite) (status : Status) : Suite :=
  { s with stats := { s.stats with steps := s.stats.steps.count status } }

/-- Takes a step of a scenario into account. -/
def addStep (s : Suite) (run : StepRun) : Suite :=
  let s := s.countStep run.status
  { s with snippets := run.snippet?.elim s.snippets (insertSnippet · s.snippets) }

/-- Takes a scenario of a feature into account, with its steps. -/
def addScenario (s : Suite) (featureName : String) (run : ScenarioRun) : Suite :=
  let s := run.steps.foldl addStep s
  { s with
    stats := { s.stats with scenarios := s.stats.scenarios.count run.status }
    records := FeatureRecord.file (run.record featureName) s.records }

/-- Begins the record of a feature, even if the last one has the same name. -/
def beginFeature (s : Suite) (name : String) : Suite :=
  { s with
    stats := { s.stats with features := s.stats.features.grow }
    records := s.records ++ [⟨name, []⟩] }

/-- How a scenario counts for its feature; one that lacks definitions does not. -/
def tallyFeature (s : Suite) (status : Status) : Suite :=
  if status = .undefined then s
  else { s with stats := { s.stats with features := s.stats.features.tally status } }

def addFeature (s : Suite) (name : String) (runs : List ScenarioRun) : Suite :=
  runs.foldl (fun s run => (s.addScenario name run).tallyFeature run.status) (s.beginFeature name)

/-- What a strict suite has to say about a feature. -/
def verdict (strict : Bool) (name : String) (runs : List ScenarioRun) : Except SuiteError Unit :=
  let count := fun status => (runs.filter (·.status == status)).length
  let failures := count .failed
  let pending := count .pending
  let undefined := count .undefined
  if strict ∧ 0 < failures + pending + undefined then .error ⟨name, failures, pending, undefined⟩
  else .ok ()

variable {σ : Type}

/-- Runs a single step, which leaves no record. -/
def testStep (s : Suite) (r : Registry σ) (step : Step) (optOut : Bool) : Suite × Run σ Outcome :=
  let run := r.runStep step optOut
  (s.countStep run.value.status, ⟨run.value.outcome, run.registry, run.events⟩)

/-- Runs a single scenario of the feature with the given name. -/
def testScenario (s : Suite) (r : Registry σ) (featureName : String) (scenario : Scenario) :
    Suite × Run σ Outcome :=
  let run := r.runScenario scenario
  (s.addScenario featureName run.value, ⟨run.value.outcome, run.registry, run.events⟩)

def finished (name : String) (runs : List ScenarioRun) : String :=
  let count := fun status => (runs.filter (·.status == status)).length
  s!"finished feature '{name}': {runs.length} scenarios, {count .failed} failed, {count .pending} pending, {count .undefined} undefined"

/-- Runs all scenarios of a feature. -/
def testFeature (s : Suite) (r : Registry σ) (feature : Feature) :
    Suite × Run σ (Except SuiteError Unit) :=
  let run := r.runScenarios feature.scenarios
  (s.addFeature feature.name run.value,
    ⟨verdict s.config.strict feature.name run.value, run.registry,
      .info s!"running feature '{feature.name}'" :: run.events ++
        [.info (finished feature.name run.value)]⟩)

/-- Runs a feature for a test, which is told if the feature is an error. -/
def test (s : Suite) (r : Registry σ) (feature : Feature) :
    Suite × Run σ (Except SuiteError Unit) :=
  let (s, run) := s.testFeature r feature
  match run.value with
  | .ok () => (s, run)
  | .error e =>
    (s, { run with
      events := run.events ++
        [.logged ⟨.error, s!"test framework failed for: {feature.name}: {e.message}"⟩, .failed] })

end Suite
end Acceptance
