import Acceptance.Proofs.Escalation
import Acceptance.Proofs.History

/-!
The course of a scenario. Its steps pass up to the first one that does not, and that one decides how the
scenario ends. The steps behind it are skipped or undefined, so that their actions are not called.
-/
namespace Acceptance

theorem Outcome.isSuccess_eq_false {o : Outcome} (h : o ≠ .success) : o.isSuccess = false := by
  cases o with
  | success => exact absurd rfl h
  | pending _ | notImplemented _ | failure _ => rfl

theorem Outcome.status_ofResult_ne (result : Except StepError Unit) :
    (ofResult result).status ≠ .undefined := by
  cases result with
  | ok _ => exact Status.noConfusion
  | error e => cases e <;> exact Status.noConfusion

/-- Steps that end so have had their actions called. -/
def Status.ran : Status → Bool
  | passed | pending | failed => true
  | undefined | skipped => false

/-- How the steps of a scenario go, and how it ends with them. -/
inductive Course : List StepRun → Outcome → Prop
  | passes {runs : List StepRun} (h : ∀ run ∈ runs, run.status = .passed) : Course runs .success
  | halts (before : List StepRun) {bad : StepRun} {after : List StepRun}
      (hbefore : ∀ run ∈ before, run.status = .passed) (hbad : bad.outcome ≠ .success)
      (hstatus : bad.status = bad.outcome.status)
      (hafter : ∀ run ∈ after, run.status = .skipped ∨ run.status = .undefined) :
      Course (before ++ bad :: after) bad.outcome

theorem Course.cons {run : StepRun} {runs : List StepRun} {o : Outcome} (hrun : run.status = .passed)
    (h : Course runs o) : Course (run :: runs) o := by
  cases h with
  | passes h => exact .passes (List.forall_mem_cons.2 ⟨hrun, h⟩)
  | halts before hbefore hbad hstatus hafter =>
    exact .halts (run :: before) (List.forall_mem_cons.2 ⟨hrun, hbefore⟩) hbad hstatus hafter

namespace Registry

variable {σ : Type}

/-- A step that is to be skipped is, unless it has no definition. -/
theorem skipped_runStep (r : Registry σ) (step : Step) :
    (r.runStep step true).value = ⟨step, .success, .skipped⟩ ∨
      (r.runStep step true).value = ⟨step, .notImplemented step, .undefined⟩ := by
  unfold runStep find
  cases r.select step.description with
  | none => exact .inr rfl
  | some found => exact .inl rfl

theorem skipped_runSteps (r : Registry σ) (steps : List Step) :
    ∀ run ∈ (r.runSteps true steps).value,
      (run.status = .skipped ∨ run.status = .undefined) ∧ run.outcome.severity ≤ 1 := by
  induction steps generalizing r with
  | nil => exact fun run hrun => absurd hrun List.not_mem_nil
  | cons step steps ih =>
    refine List.forall_mem_cons.2 ⟨?_, ih _⟩
    rcases r.skipped_runStep step with h | h
    · rw [h]
      exact ⟨.inl rfl, Nat.zero_le 1⟩
    · rw [h]
      exact ⟨.inr rfl, Nat.le_refl 1⟩

theorem runSteps_cons_of_success {r : Registry σ} {step : Step}
    (h : (r.runStep step false).value.outcome = .success) (steps : List Step) :
    r.runSteps false (step :: steps) =
      let first := r.runStep step false
      let rest := first.registry.runSteps false steps
      ⟨first.value :: rest.value, rest.registry, first.events ++ rest.events⟩ := by
  rw [runSteps, h]
  rfl

theorem runSteps_cons_of_ne_success {r : Registry σ} {step : Step}
    (h : (r.runStep step false).value.outcome ≠ .success) (steps : List Step) :
    r.runSteps false (step :: steps) =
      let first := r.runStep step false
      let rest := first.registry.runSteps true steps
      ⟨first.value :: rest.value, rest.registry, first.events ++ rest.events⟩ := by
  rw [runSteps, Outcome.isSuccess_eq_false h]
  rfl

/-- The first step that does not succeed decides how the scenario ends. -/
theorem worst_cons_runSteps {a : Outcome} (ha : a ≠ .success) (r : Registry σ) (steps : List Step) :
    Outcome.worst (a :: (r.runSteps true steps).value.map (·.outcome)) = a := by
  refine Outcome.worst_cons_of_ne_success ha ?_
  rw [List.forall_mem_map]
  exact fun run hrun => (r.skipped_runSteps steps run hrun).2

theorem course_runSteps (r : Registry σ) (steps : List Step) :
    Course (r.runSteps false steps).value
      (.worst ((r.runSteps false steps).value.map (·.outcome))) := by
  induction steps generalizing r with
  | nil => exact .passes fun run hrun => absurd hrun List.not_mem_nil
  | cons step steps ih =>
    have hstatus : (r.runStep step false).value.status = (r.runStep step false).value.outcome.status :=
      status_runStep r step false
    by_cases hsuccess : (r.runStep step false).value.outcome = .success
    · -- the course goes on, and the step makes no difference to how the scenario ends
      rw [runSteps_cons_of_success hsuccess, List.map_cons, hsuccess, Outcome.worst_cons_success]
      exact (ih _).cons (hstatus.trans (congrArg Outcome.status hsuccess))
    · have hrest := skipped_runSteps (r.runStep step false).registry steps
      rw [runSteps_cons_of_ne_success hsuccess, List.map_cons, worst_cons_runSteps hsuccess]
      exact .halts [] (fun run hrun => absurd hrun List.not_mem_nil) hsuccess hstatus
        fun run hrun => (hrest run hrun).1

/-- Every scenario takes such a course, whatever the actions do. -/
theorem course_runScenario (r : Registry σ) (scenario : Scenario) :
    Course (r.runScenario scenario).value.steps (r.runScenario scenario).value.outcome :=
  r.course_runSteps scenario.steps

/-! Calls of actions. -/

/-- An action is called once for a step whose status says so, and else not at all. -/
theorem length_calls_runStep (r : Registry σ) (step : Step) (optOut : Bool) :
    (calls (r.runStep step optOut).events).length =
      [(r.runStep step optOut).value].countP (·.status.ran) := by
  unfold runStep find
  cases r.select step.description with
  | none => rfl
  | some found =>
    cases optOut with
    | true => rfl
    | false =>
      have hran (result : Except StepError Unit) : (Outcome.ofResult result).status.ran = true := by
        cases result with
        | ok _ => rfl
        | error e => cases e <;> rfl
      simp [StepRun.ofMatch, invoke, hran]

theorem length_calls_runSteps (r : Registry σ) (optOut : Bool) (steps : List Step) :
    (calls (r.runSteps optOut steps).events).length =
      (r.runSteps optOut steps).value.countP (·.status.ran) := by
  induction steps generalizing r optOut with
  | nil => rfl
  | cons step steps ih =>
    rw [runSteps, History.calls_append, List.length_append, length_calls_runStep, ih,
      ← List.countP_append]
    rfl

theorem length_calls_runScenario (r : Registry σ) (scenario : Scenario) :
    (calls (r.runScenario scenario).events).length =
      (r.runScenario scenario).value.steps.countP (·.status.ran) := by
  rw [runScenario, History.calls_append, List.length_append, length_calls_runSteps]
  rfl

theorem length_calls_runScenarios (r : Registry σ) (scenarios : List Scenario) :
    (calls (r.runScenarios scenarios).events).length =
      ((r.runScenarios scenarios).value.flatMap (·.steps)).countP (·.status.ran) := by
  induction scenarios generalizing r with
  | nil => rfl
  | cons scenario scenarios ih =>
    rw [runScenarios, History.calls_append, List.length_append, length_calls_runScenario, ih,
      List.flatMap_cons, List.countP_append]

end Registry
end Acceptance
