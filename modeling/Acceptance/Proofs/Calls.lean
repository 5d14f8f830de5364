import Acceptance.Proofs.Accounts
import Acceptance.Proofs.JunitNumbers
import Mathlib.Algebra.GroupWithZero.Nat

/-!
Whatever a suite is called to run, its counters, its records and the JUnit report of them agree with what
the calls have run.
-/
namespace Acceptance

/-- What a suite can be called to run. -/
inductive Call where
  | step (step : Step) (optOut : Bool)
  | scenario (featureName : String) (scenario : Scenario)
  | feature (feature : Feature)
  | test (feature : Feature)
  deriving Repr

/-- How a step ended that gave the outcome; one that is to be skipped succeeds if it has a definition. -/
def ended (optOut : Bool) (o : Outcome) : Status :=
  if optOut ∧ o = .success then .skipped else o.status

theorem status_runStep {σ : Type} (r : Registry σ) (step : Step) (optOut : Bool) :
    (r.runStep step optOut).value.status = ended optOut (r.runStep step optOut).value.outcome := by
  unfold Registry.runStep Registry.find
  cases r.select step.description with
  | none => simp [StepRun.ofMatch, ended, Outcome.status]
  | some found =>
    cases optOut with
    | true => simp [StepRun.ofMatch, ended]
    | false => simp [StepRun.ofMatch, ended]

/-- A suite with its registry, and what the calls have run so far: how each step that was run directly
ended, and how the scenarios ended of each feature that was run. -/
structure Session (σ : Type) where
  suite : Suite
  registry : Registry σ
  direct : List Status := []
  features : List (List Status) := []

namespace Session

variable {σ : Type}

/-- How the scenarios of a feature end. -/
def statuses (r : Registry σ) (f : Feature) : List Status :=
  (r.runScenarios f.scenarios).value.map (·.status)

def call (s : Session σ) : Call → Session σ
  | .step step optOut =>
    let (suite, run) := s.suite.testStep s.registry step optOut
    { s with suite, registry := run.registry, direct := s.direct ++ [ended optOut run.value] }
  | .scenario featureName scenario =>
    let (suite, run) := s.suite.testScenario s.registry featureName scenario
    { s with suite, registry := run.registry }
  | .feature f =>
    let (suite, run) := s.suite.testFeature s.registry f
    { s with suite, registry := run.registry, features := s.features ++ [statuses s.registry f] }
  | .test f =>
    let (suite, run) := s.suite.test s.registry f
    { s with suite, registry := run.registry, features := s.features ++ [statuses s.registry f] }

/-- A suite that has not been called yet. -/
def fresh (config : Config) (r : Registry σ) : Session σ := { suite := { config }, registry := r }

def run (s : Session σ) (calls : List Call) : Session σ := calls.foldl call s

def stats (s : Session σ) : Stats := s.suite.stats

def records (s : Session σ) : List FeatureRecord := s.suite.records

theorem suite_test (s : Suite) (r : Registry σ) (f : Feature) :
    (s.test r f).1 = s.addFeature f.name (r.runScenarios f.scenarios).value := by
  unfold Suite.test Suite.testFeature
  dsimp only
  split <;> rfl

theorem suite_call_test (s : Session σ) (f : Feature) : (s.call (.test f)).suite =
    s.suite.addFeature f.name (s.registry.runScenarios f.scenarios).value :=
  suite_test s.suite s.registry f

/-- The suite agrees with what the calls have run, and no scenario of a feature was skipped. -/
structure Agrees (s : Session σ) : Prop where
  suite : s.suite.Agrees s.direct s.features.length s.features.flatten
  features : .skipped ∉ s.features.flatten

theorem skipped_notMem_statuses (r : Registry σ) (f : Feature) : .skipped ∉ statuses r f := by
  intro hmem
  obtain ⟨run, -, hrun⟩ := List.mem_map.1 hmem
  exact run.outcome.status_ne_skipped hrun

/-- One more feature has been run, which the suite has taken into account. -/
theorem agrees_feature {s : Session σ} (h : s.Agrees) (f : Feature) (r : Registry σ) :
    Agrees ⟨s.suite.addFeature f.name (s.registry.runScenarios f.scenarios).value, r, s.direct,
      s.features ++ [statuses s.registry f]⟩ := by
  have hfeature := Suite.agrees_addFeature h.suite f.name (s.registry.runScenarios f.scenarios).value
  have hflatten : (s.features ++ [statuses s.registry f]).flatten =
      s.features.flatten ++ statuses s.registry f := by
    rw [List.flatten_append, List.flatten_singleton]
  refine ⟨?_, ?_⟩
  · simp only [hflatten, List.length_append]
    exact hfeature
  · simp only [hflatten, List.mem_append, not_or]
    exact ⟨h.features, skipped_notMem_statuses _ f⟩

theorem agrees_call {s : Session σ} (h : s.Agrees) (c : Call) : (s.call c).Agrees := by
  cases c with
  | step step optOut =>
    have hstep := Suite.agrees_countStep h.suite (s.registry.runStep step optOut).value.status
    refine ⟨?_, h.features⟩
    simp only [call, Suite.testStep, ← status_runStep]
    exact hstep
  | scenario featureName scenario =>
    exact ⟨Suite.agrees_addScenario h.suite featureName (s.registry.runScenario scenario).value,
      h.features⟩
  | feature f => exact agrees_feature h f _
  | test f =>
    have hfeature := agrees_feature h f (s.suite.test s.registry f).2.registry
    rw [← suite_test] at hfeature
    exact hfeature

theorem agrees_run {s : Session σ} (h : s.Agrees) (calls : List Call) : (s.run calls).Agrees := by
  unfold run
  induction calls generalizing s with
  | nil => exact h
  | cons c calls ih => exact ih (agrees_call h c)

/-- What a suite keeps whatever it takes into account, it keeps through a call. -/
theorem kept_call {P : Suite → Prop} (h : Suite.Kept P) {s : Session σ} (hs : P s.suite) (c : Call) :
    P (s.call c).suite := by
  cases c with
  | step step optOut => exact h.countStep _ _ hs
  | scenario featureName scenario => exact h.addScenario _ featureName _ hs
  | feature f => exact h.addFeature hs f.name _
  | test f =>
    rw [suite_call_test]
    exact h.addFeature hs f.name _

theorem kept_run {P : Suite → Prop} (h : Suite.Kept P) {s : Session σ} (hs : P s.suite)
    (calls : List Call) : P (s.run calls).suite := by
  unfold run
  induction calls generalizing s with
  | nil => exact hs
  | cons c calls ih => exact ih (kept_call h hs c)

theorem le_run (s : Session σ) (calls : List Call) : s.stats ≤ (s.run calls).stats :=
  kept_run (Suite.kept_le s.stats) s.stats.le_refl calls

/-- The books of a session balance: every counter is the number of what it counts, and the numbers in the
test suites of the JUnit report add up to the counters of scenarios. -/
structure Balanced (s : Session σ) : Prop where
  steps_total : s.stats.steps.total = s.stats.steps.success + s.stats.steps.failures +
    s.stats.steps.pending + s.stats.steps.undefined + s.stats.steps.optout
  steps : ∀ t, s.stats.steps.of t =
    (stepRecords s.records).countP (·.status = t) + s.direct.count t
  scenarios_total : s.stats.scenarios.total = (scenarioRecords s.records).length
  scenarios : ∀ t ≠ .skipped,
    s.stats.scenarios.of t = (scenarioRecords s.records).countP (·.status = t)
  scenarios_optout : s.stats.scenarios.optout = 0
  features_total : s.stats.features.total = s.features.length
  features : ∀ t, t ≠ .skipped → t ≠ .undefined →
    s.stats.features.of t = s.features.flatten.count t
  features_undefined : s.stats.features.undefined = 0
  features_optout : s.stats.features.optout = 0
  junit_tests : (Report.suiteNumbers "tests" (Report.junit s.records).toList).sum =
    s.stats.scenarios.total
  junit_failures : (Report.suiteNumbers "failures" (Report.junit s.records).toList).sum =
    s.stats.scenarios.failures
  junit_skipped : (Report.suiteNumbers "skipped" (Report.junit s.records).toList).sum =
    s.stats.scenarios.pending + s.stats.scenarios.undefined

theorem count_status (rs : List ScenarioRecord) (t : Status) :
    (rs.map (·.status)).count t = rs.countP (·.status = t) := by
  rw [List.count, List.countP_map]
  rfl

theorem sum_marked (element : String) (fs : List FeatureRecord) :
    (fs.map (Report.marked element)).sum =
      (scenarioRecords fs).countP (Report.remark? ·.status == some element) := by
  rw [scenarioRecords, List.countP_flatMap]
  congr 1
  refine List.map_congr_left fun f _ => ?_
  exact List.countP_eq_length_filter.symm

theorem countP_failure (rs : List ScenarioRecord) :
    rs.countP (Report.remark? ·.status == some "failure") = rs.countP (·.status = .failed) := by
  refine List.countP_congr fun r _ => ?_
  cases r.status <;> decide

theorem countP_skipped (rs : List ScenarioRecord) :
    rs.countP (Report.remark? ·.status == some "skipped") =
      rs.countP (·.status = .pending) + rs.countP (·.status = .undefined) := by
  induction rs with
  | nil => rfl
  | cons r rs ih =>
    rw [List.countP_cons, List.countP_cons, List.countP_cons, ih]
    cases r.status <;> simp [Report.remark?] <;> omega

theorem balanced_of_agrees {s : Session σ} (h : s.Agrees) : s.Balanced := by
  have hscenarios (t : Status) :
      s.stats.scenarios.of t = (scenarioRecords s.records).countP (·.status = t) :=
    (h.suite.scenarios.of t).trans (count_status _ t)
  have hnone : (scenarioRecords s.records).countP (·.status = .skipped) = 0 :=
    List.countP_eq_zero.2 fun r _ => by
      rw [decide_eq_true_eq]
      exact r.outcome.status_ne_skipped
  obtain ⟨htests, hfailures, hskipped⟩ := Report.suiteNumbers_junit_eq s.records
  refine {
    steps_total := h.suite.steps.total_eq_sum
    steps := ?_
    scenarios_total := h.suite.scenarios.total
    scenarios := fun t _ => hscenarios t
    scenarios_optout := (hscenarios .skipped).trans hnone
    features_total := h.suite.features.total
    features := ?_
    features_undefined := ?_
    features_optout := ?_
    junit_tests := ?_
    junit_failures := ?_
    junit_skipped := ?_ }
  · intro t
    refine (h.suite.steps.of t).trans ?_
    rw [List.count_append, List.count, List.countP_map]
    rfl
  · intro t _ ht
    refine (h.suite.features.of t).trans (List.count_filter ?_)
    simpa using ht
  · refine (h.suite.features.of .undefined).trans (List.count_eq_zero.2 fun hmem => ?_)
    simpa using (List.mem_filter.1 hmem).2
  · refine (h.suite.features.of .skipped).trans (List.count_eq_zero.2 fun hmem => ?_)
    exact h.features (List.mem_filter.1 hmem).1
  · rw [htests]
    exact List.length_flatMap.symm.trans h.suite.scenarios.total.symm
  · rw [hfailures, sum_marked, countP_failure, ← hscenarios]
    rfl
  · rw [hskipped, sum_marked, countP_skipped, ← hscenarios, ← hscenarios]
    rfl

/-- For every registry, whatever calls are made of a fresh suite, the books balance afterwards, and no
counter decreases when more calls are made. -/
theorem balanced_run (config : Config) (r : Registry σ) (calls more : List Call) :
    ((fresh config r).run calls).Balanced ∧
      ((fresh config r).run calls).stats ≤ ((fresh config r).run (calls ++ more)).stats := by
  have hfresh : (fresh config r).Agrees := ⟨Suite.agrees_fresh config, List.not_mem_nil⟩
  refine ⟨balanced_of_agrees (agrees_run hfresh calls), ?_⟩
  have happend : (fresh config r).run (calls ++ more) = ((fresh config r).run calls).run more :=
    List.foldl_append
  rw [happend]
  exact le_run _ more

end Session
end Acceptance
