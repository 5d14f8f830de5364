import Acceptance.Proofs.Chronicle
import Acceptance.Proofs.Course

/-!
Where a scenario halts. The first step that does not succeed decides how the scenario ends. It and the steps
before it have their actions called, once each and in order, and no step behind it has.
-/
namespace Acceptance

/-- The record of a step that ended so. -/
def Step.recorded (step : Step) (status : Status) (message : Option String) : StepRecord :=
  ⟨step.keyword, step.description, step.line, status, message⟩

/-- The step was passed over. -/
def Step.PassedOver (step : Step) (record : StepRecord) : Prop :=
  record = step.recorded .skipped none ∨ record = step.recorded .undefined none

namespace Registry

variable {σ : Type}

/-- The call is one of the action of the definition that the step selects. -/
def CalledFor (r : Registry σ) (step : Step) (call : Nat × Args) : Prop :=
  ∃ d, History.First r.definitions step.description call.1 d ∧
    call.2 = d.pattern.captures step.description

/-- How a scenario of some steps goes: what their records are, how the scenario ends, and which of the steps
have their actions called. -/
inductive Goes (r : Registry σ) : List Step → List StepRecord → Outcome → List Step → Prop
  | passes (steps : List Step) :
    Goes r steps (steps.map fun step => step.recorded .passed none) .success steps
  | halts (before : List Step) {bad : Step} {after : List Step} {o : Outcome}
      {records : List StepRecord}
      (hran : ((r.runSteps false before).registry.runStep bad false).value.outcome = o)
      (hbad : o = .notImplemented bad ∨ ∃ reason, o = .pending reason ∨ o = .failure reason)
      (hafter : List.Forall₂ Step.PassedOver after records) :
    Goes r (before ++ bad :: after)
      ((before.map fun step => step.recorded .passed none) ++
        bad.recorded o.status o.reason? :: records) o
      (before ++ if o.status = .undefined then [] else [bad])

/-! One step. -/

theorem record_runStep (r : Registry σ) (step : Step) : (r.runStep step false).value.record =
    step.recorded (r.runStep step false).value.outcome.status
      (r.runStep step false).value.outcome.reason? := by
  have hstep : (r.runStep step false).value.step = step := StepRun.step_ofMatch step _
  have hstatus : (r.runStep step false).value.status = (r.runStep step false).value.outcome.status :=
    status_runStep r step false
  rw [StepRun.record, hstep, hstatus]
  rfl

/-- A step has no definition, or the action of the definition that it selects is called once. -/
theorem runStep_cases (r : Registry σ) (step : Step) :
    ((r.runStep step false).value.outcome = .notImplemented step ∧
      calls (r.runStep step false).events = []) ∨
    ∃ i d result, History.First r.definitions step.description i d ∧
      (r.runStep step false).value.outcome = .ofResult result ∧
      calls (r.runStep step false).events = [(i, d.pattern.captures step.description)] := by
  cases hselect : r.select step.description with
  | none =>
    refine .inl ⟨?_, ?_⟩
    all_goals
      rw [runStep, History.find_of_unmatched (History.select_eq_none_iff.1 hselect) false]
      rfl
  | some found =>
    have hfirst := History.select_eq_some_iff.1 hselect
    let reply := (found.2.action (found.2.pattern.captures step.description) r.state).1
    refine .inr ⟨found.1, found.2, reply.result, hfirst, ?_, ?_⟩
    all_goals
      rw [runStep, History.find_run_of_first hfirst]
      rfl

/-- An outcome that is no success is that of a step without a definition, or what its action gave. -/
theorem outcome_runStep_of_ne_success {r : Registry σ} {step : Step}
    (h : (r.runStep step false).value.outcome ≠ .success) :
    (r.runStep step false).value.outcome = .notImplemented step ∨
      ∃ reason, (r.runStep step false).value.outcome = .pending reason ∨
        (r.runStep step false).value.outcome = .failure reason := by
  obtain ⟨houtcome, -⟩ | ⟨i, d, result, -, houtcome, -⟩ := r.runStep_cases step
  · exact .inl houtcome
  · rw [houtcome] at h ⊢
    cases result with
    | ok _ => exact absurd rfl h
    | error e =>
      cases e with
      | pending reason => exact .inr ⟨reason, .inl rfl⟩
      | failure reason => exact .inr ⟨reason, .inr rfl⟩

theorem unmark_runStep (r : Registry σ) (step : Step) (optOut : Bool) :
    (r.runStep step optOut).registry.definitions.map unmark = r.definitions.map unmark := by
  have hunmark := History.unmark_access r (.find step.description optOut)
  rwa [History.added?, Option.toList_none, List.append_nil] at hunmark

/-- A step that is not undefined has the action called that it selects, and that is all. -/
theorem calledFor_runStep (r : Registry σ) (step : Step) :
    List.Forall₂ r.CalledFor
      (if (r.runStep step false).value.outcome.status = .undefined then [] else [step])
      (calls (r.runStep step false).events) := by
  obtain ⟨houtcome, hcalls⟩ | ⟨i, d, result, hfirst, houtcome, hcalls⟩ := r.runStep_cases step
  · rw [houtcome, hcalls]
    exact .nil
  · rw [houtcome, if_neg (Outcome.status_ofResult_ne result), hcalls]
    exact .cons ⟨d, hfirst, rfl⟩ .nil

/-- What is called does not depend on which definitions have been used. -/
theorem calledFor_of_unmark_eq {r r' : Registry σ}
    (h : r'.definitions.map unmark = r.definitions.map unmark) {step : Step} {call : Nat × Args}
    (hcall : r'.CalledFor step call) : r.CalledFor step call := by
  obtain ⟨d, hfirst, hargs⟩ := hcall
  obtain ⟨e, he, hpattern, -⟩ := hfirst.of_unmark h
  exact ⟨e, he, by rw [hargs, hpattern]⟩

/-! Steps behind one that did not succeed. -/

theorem passedOver_runSteps (r : Registry σ) (steps : List Step) :
    List.Forall₂ Step.PassedOver steps ((r.runSteps true steps).value.map (·.record)) := by
  induction steps generalizing r with
  | nil => exact .nil
  | cons step steps ih =>
    refine .cons ?_ (ih _)
    rcases r.skipped_runStep step with h | h
    · rw [h]
      exact .inl rfl
    · rw [h]
      exact .inr rfl

theorem calls_runSteps_skipped (r : Registry σ) (steps : List Step) :
    calls (r.runSteps true steps).events = [] := by
  rw [← List.length_eq_zero_iff, length_calls_runSteps, List.countP_eq_zero]
  intro run hrun
  rcases (r.skipped_runSteps steps run hrun).1 with h | h
  · rw [h]
    exact Bool.false_ne_true
  · rw [h]
    exact Bool.false_ne_true

/-! All steps. -/

/-- A step that passes makes no difference to how those behind it go. -/
theorem Goes.cons {r : Registry σ} {step : Step}
    (hsuccess : (r.runStep step false).value.outcome = .success) {steps called : List Step}
    {records : List StepRecord} {o : Outcome}
    (h : (r.runStep step false).registry.Goes steps records o called) :
    r.Goes (step :: steps) (step.recorded .passed none :: records) o (step :: called) := by
  cases h with
  | passes => exact .passes (step :: steps)
  | halts before hran hbad hafter =>
    have hregistry : (r.runSteps false (step :: before)).registry =
        ((r.runStep step false).registry.runSteps false before).registry := by
      rw [runSteps_cons_of_success hsuccess]
    rw [← hregistry] at hran
    exact .halts (step :: before) hran hbad hafter

theorem goes_runSteps (r : Registry σ) (steps : List Step) :
    ∃ called, r.Goes steps ((r.runSteps false steps).value.map (·.record))
        (.worst ((r.runSteps false steps).value.map (·.outcome))) called ∧
      List.Forall₂ r.CalledFor called (calls (r.runSteps false steps).events) := by
  induction steps generalizing r with
  | nil => exact ⟨[], .passes [], .nil⟩
  | cons step steps ih =>
    have hcalls := r.calledFor_runStep step
    have hrecord := r.record_runStep step
    by_cases hsuccess : (r.runStep step false).value.outcome = .success
    · obtain ⟨called, hgoes, hrest⟩ := ih (r.runStep step false).registry
      rw [hsuccess] at hcalls hrecord
      rw [runSteps_cons_of_success hsuccess, List.map_cons, List.map_cons, hrecord, hsuccess,
        Outcome.worst_cons_success, History.calls_append]
      refine ⟨step :: called, hgoes.cons hsuccess, List.rel_append hcalls (hrest.imp ?_)⟩
      exact fun _ _ hcall => calledFor_of_unmark_eq (r.unmark_runStep step false) hcall
    · rw [runSteps_cons_of_ne_success hsuccess, List.map_cons, List.map_cons, hrecord,
        worst_cons_runSteps hsuccess, History.calls_append, calls_runSteps_skipped, List.append_nil]
      exact ⟨_, .halts [] rfl (outcome_runStep_of_ne_success hsuccess) (passedOver_runSteps _ steps),
        hcalls⟩

/-- The most severe of the outcomes of the steps is the first one that is no success. -/
theorem worst_runSteps_eq_first (r : Registry σ) (steps : List Step) :
    .worst ((r.runSteps false steps).value.map (·.outcome)) =
      (((r.runSteps false steps).value.map (·.outcome)).find? (!·.isSuccess)).getD .success := by
  induction steps generalizing r with
  | nil => rfl
  | cons step steps ih =>
    by_cases hsuccess : (r.runStep step false).value.outcome = .success
    · rw [runSteps_cons_of_success hsuccess, List.map_cons, hsuccess, Outcome.worst_cons_success, ih,
        List.find?_cons_of_neg (by decide)]
    · rw [runSteps_cons_of_ne_success hsuccess, List.map_cons, worst_cons_runSteps hsuccess,
        List.find?_cons, Outcome.isSuccess_eq_false hsuccess]
      rfl

end Registry

/-- Whatever the actions do, the record of a scenario shows steps that passed, up to one that is pending,
failed or is undefined, and behind that one none but skipped and undefined steps. The scenario ends as that
step did, or with success if there is none, and just the actions of the steps up to it are called, once each
and in order. So what is most severe of the steps is what came first. -/
theorem Suite.testScenario_goes {σ : Type} (s : Suite) (r : Registry σ) (name : String)
    (scenario : Scenario) :
    let after := (s.testScenario r name scenario).1
    let run := (s.testScenario r name scenario).2
    let outcomes := (r.runScenario scenario).value.steps.map (·.outcome)
    ∃ record called,
      FeatureRecord.Adds record s.records after.records ∧ record.outcome = run.value ∧
      r.Goes scenario.steps record.steps run.value called ∧
      List.Forall₂ r.CalledFor called (calls run.events) ∧
      run.value = .worst outcomes ∧ run.value = (outcomes.find? (!·.isSuccess)).getD .success := by
  intro after run outcomes
  obtain ⟨called, hgoes, hcalls⟩ := r.goes_runSteps scenario.steps
  have hadds : FeatureRecord.Adds ((r.runScenario scenario).value.record name) s.records
      after.records := by
    have hrecords : after.records =
        FeatureRecord.file ((r.runScenario scenario).value.record name) s.records :=
      s.records_addScenario name _
    rw [hrecords]
    exact FeatureRecord.adds_file _ s.records
  have hevents : calls run.events = calls (r.runSteps false scenario.steps).events := by
    change calls (r.runScenario scenario).events = _
    rw [Registry.runScenario, History.calls_append, History.calls_debug, History.calls_nil,
      List.append_nil]
  rw [← hevents] at hcalls
  exact ⟨_, called, hadds, rfl, hgoes, hcalls, rfl, r.worst_runSteps_eq_first scenario.steps⟩

end Acceptance
