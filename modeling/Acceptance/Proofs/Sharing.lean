import Acceptance.Proofs.History

/-!
Suites that share a registry. What they do to it is what the finds for their steps do, one after the
other, so the registry follows from the history of these and of all that is asked of it directly.
-/
namespace Acceptance

variable {σ α β : Type}

/-- What can be asked of a registry directly or by one of the suites that share it. -/
inductive Request (σ : Type) where
  | direct (access : Access σ)
  | call (suite : Nat) (call : Call)

/-- The suite after a call, and what that does to the registry. -/
def Suite.answer (s : Suite) (r : Registry σ) : Call → Run σ Suite
  | .step step optOut =>
    let (s, run) := s.testStep r step optOut
    ⟨s, run.registry, run.events⟩
  | .scenario featureName scenario =>
    let (s, run) := s.testScenario r featureName scenario
    ⟨s, run.registry, run.events⟩
  | .feature f =>
    let (s, run) := s.testFeature r f
    ⟨s, run.registry, run.events⟩
  | .test f =>
    let (s, run) := s.test r f
    ⟨s, run.registry, run.events⟩

/-- The suite after calls that are made one after the other. -/
def Suite.answers (s : Suite) (r : Registry σ) : List Call → Run σ Suite
  | [] => ⟨s, r, []⟩
  | c :: more =>
    let first := s.answer r c
    let rest := first.value.answers first.registry more
    ⟨rest.value, rest.registry, first.events ++ rest.events⟩

namespace Sharing

def ask (suites : Nat → Suite) (r : Registry σ) : Request σ → Run σ (Nat → Suite)
  | .direct a =>
    let run := r.access a
    ⟨suites, run.registry, run.events⟩
  | .call i c =>
    let run := (suites i).answer r c
    ⟨fun j => if j = i then run.value else suites j, run.registry, run.events⟩

def asks (suites : Nat → Suite) (r : Registry σ) : List (Request σ) → Run σ (Nat → Suite)
  | [] => ⟨suites, r, []⟩
  | q :: more =>
    let first := ask suites r q
    let rest := asks first.value first.registry more
    ⟨rest.value, rest.registry, first.events ++ rest.events⟩

/-- The finds for steps that are run in order. -/
def findsOfSteps (r : Registry σ) (optOut : Bool) : List Step → List (Access σ)
  | [] => []
  | step :: more =>
    let run := r.runStep step optOut
    .find step.description optOut ::
      findsOfSteps run.registry (optOut || !run.value.outcome.isSuccess) more

def findsOfScenarios (r : Registry σ) : List Scenario → List (Access σ)
  | [] => []
  | scenario :: more =>
    findsOfSteps r false scenario.steps ++ findsOfScenarios (r.runScenario scenario).registry more

/-- What a request asks of the registry: a suite finds the steps that it is called to run. -/
def accessesOf (r : Registry σ) : Request σ → List (Access σ)
  | .direct a => [a]
  | .call _ (.step step optOut) => [.find step.description optOut]
  | .call _ (.scenario _ scenario) => findsOfSteps r false scenario.steps
  | .call _ (.feature f) => findsOfScenarios r f.scenarios
  | .call _ (.test f) => findsOfScenarios r f.scenarios

def history (suites : Nat → Suite) (r : Registry σ) : List (Request σ) → List (Access σ)
  | [] => []
  | q :: more =>
    let run := ask suites r q
    accessesOf r q ++ history run.value run.registry more

/-- A run does to a registry what accesses do. -/
structure Does (r : Registry σ) (as : List (Access σ)) (run : Run σ α) : Prop where
  registry : run.registry = (r.accesses as).registry
  calls : calls run.events = calls (r.accesses as).events

theorem does_nil (r : Registry σ) (a : α) : Does r [] ⟨a, r, []⟩ := ⟨rfl, rfl⟩

theorem does_access (r : Registry σ) (a : Access σ) : Does r [a] (r.access a) :=
  ⟨rfl, by simp [Registry.accesses]⟩

theorem Does.append {r : Registry σ} {as bs : List (Access σ)} {first : Run σ α} {rest : Run σ β}
    (hfirst : Does r as first) (hrest : Does first.registry bs rest) {γ : Type} (c : γ) :
    Does r (as ++ bs) ⟨c, rest.registry, first.events ++ rest.events⟩ := by
  have hregistry := hfirst.registry
  refine ⟨?_, ?_⟩
  · rw [History.accesses_append, hrest.registry, hregistry]
  · rw [History.accesses_append, History.calls_append, History.calls_append, hfirst.calls,
      hrest.calls, hregistry]

/-- Only the calls among the events count. -/
theorem Does.of_calls_eq {r : Registry σ} {as : List (Access σ)} {run : Run σ α} (h : Does r as run)
    {run' : Run σ β} (hregistry : run'.registry = run.registry)
    (hcalls : Acceptance.calls run'.events = Acceptance.calls run.events) : Does r as run' :=
  ⟨hregistry.trans h.registry, hcalls.trans h.calls⟩

theorem does_runStep (r : Registry σ) (step : Step) (optOut : Bool) :
    Does r [.find step.description optOut] (r.runStep step optOut) := by
  refine (does_access r (.find step.description optOut)).of_calls_eq rfl ?_
  simp [Registry.runStep, Registry.access]

theorem does_runSteps (r : Registry σ) (optOut : Bool) (steps : List Step) :
    Does r (findsOfSteps r optOut steps) (r.runSteps optOut steps) := by
  induction steps generalizing r optOut with
  | nil => exact does_nil r []
  | cons step steps ih => exact (does_runStep r step optOut).append (ih _ _) _

theorem does_runScenario (r : Registry σ) (scenario : Scenario) :
    Does r (findsOfSteps r false scenario.steps) (r.runScenario scenario) := by
  refine (does_runSteps r false scenario.steps).of_calls_eq rfl ?_
  simp [Registry.runScenario]

theorem does_runScenarios (r : Registry σ) (scenarios : List Scenario) :
    Does r (findsOfScenarios r scenarios) (r.runScenarios scenarios) := by
  induction scenarios generalizing r with
  | nil => exact does_nil r []
  | cons scenario scenarios ih => exact (does_runScenario r scenario).append (ih _) _

theorem does_testFeature (s : Suite) (r : Registry σ) (f : Feature) :
    Does r (findsOfScenarios r f.scenarios) (s.testFeature r f).2 := by
  refine (does_runScenarios r f.scenarios).of_calls_eq rfl ?_
  simp [Suite.testFeature]

theorem does_test (s : Suite) (r : Registry σ) (f : Feature) :
    Does r (findsOfScenarios r f.scenarios) (s.test r f).2 := by
  have hfeature := does_testFeature s r f
  unfold Suite.test
  dsimp only
  split
  · exact hfeature
  · refine hfeature.of_calls_eq rfl ?_
    simp

theorem does_ask (suites : Nat → Suite) (r : Registry σ) (q : Request σ) :
    Does r (accessesOf r q) (ask suites r q) := by
  cases q with
  | direct a => exact (does_access r a).of_calls_eq rfl rfl
  | call i c =>
    cases c with
    | step step optOut => exact (does_runStep r step optOut).of_calls_eq rfl rfl
    | scenario featureName scenario => exact (does_runScenario r scenario).of_calls_eq rfl rfl
    | feature f => exact (does_testFeature (suites i) r f).of_calls_eq rfl rfl
    | test f => exact (does_test (suites i) r f).of_calls_eq rfl rfl

theorem does_asks (suites : Nat → Suite) (r : Registry σ) (requests : List (Request σ)) :
    Does r (history suites r requests) (asks suites r requests) := by
  induction requests generalizing suites r with
  | nil => exact does_nil r suites
  | cons q requests ih => exact (does_ask suites r q).append (ih _ _) _

/-- Whatever is asked of a new registry, directly and by suites that share it, its definitions are the
accepted registrations, a text selects the first of them that matches and keeps to it, those are used
that some find has selected, and each find that is not to be skipped is one call of the action that it
selects. The same holds after any part of the history, so also in the middle of a call. -/
theorem follows_asks (start : σ) (suites : Nat → Suite) (requests : List (Request σ)) :
    History.Follows start (history suites { state := start } requests)
        (asks suites { state := start } requests) ∧
      ∀ past : List (Access σ),
        History.Follows start past (({ state := start } : Registry σ).accesses past) := by
  refine ⟨?_, fun past => History.follows_accesses start past⟩
  have hdoes := does_asks suites ({ state := start } : Registry σ) requests
  exact (History.follows_accesses start _).congr hdoes.registry hdoes.calls

end Sharing
end Acceptance
