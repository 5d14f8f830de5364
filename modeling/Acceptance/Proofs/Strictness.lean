import Acceptance.Proofs.Chronicle

/-!
Strictness decides what a suite says of a feature and nothing that it does. What a strict suite says follows
from the record of the feature, and a test is told of a failure just if there is an error.
-/
namespace Acceptance

/-- The event is an entry of the log at the level of errors. -/
def Event.isError : Event → Bool
  | logged entry => entry.level = .error
  | invoked _ _ | failed => false

/-- No test is told of a failure and no error is logged. -/
def Quiet (events : List Event) : Prop := ∀ e ∈ events, e ≠ .failed ∧ e.isError = false

theorem quiet_append {events more : List Event} (h : Quiet events) (h' : Quiet more) :
    Quiet (events ++ more) := List.forall_mem_append.2 ⟨h, h'⟩

theorem quiet_debug (message : String) : Quiet [.debug message] := by
  simp [Quiet, Event.debug, Event.isError]

theorem quiet_info (message : String) : Quiet [.info message] := by
  simp [Quiet, Event.info, Event.isError]

theorem Quiet.count_failed {events : List Event} (h : Quiet events) : events.count .failed = 0 :=
  List.count_eq_zero.2 fun hmem => (h _ hmem).1 rfl

theorem Quiet.countP_isError {events : List Event} (h : Quiet events) :
    events.countP Event.isError = 0 := by
  rw [List.countP_eq_zero]
  intro e he
  rw [(h e he).2]
  exact Bool.false_ne_true

namespace Registry

variable {σ : Type}

theorem quiet_find (r : Registry σ) (text : String) (optOut : Bool) :
    Quiet (r.find text optOut).events := by
  unfold find
  cases r.select text with
  | none => exact quiet_debug _
  | some found =>
    cases optOut with
    | true => exact quiet_debug _
    | false => simp [Quiet, invoke, Event.isError]

theorem quiet_runSteps (r : Registry σ) (optOut : Bool) (steps : List Step) :
    Quiet (r.runSteps optOut steps).events := by
  induction steps generalizing r optOut with
  | nil => exact fun e he => absurd he List.not_mem_nil
  | cons step steps ih =>
    have hstep : Quiet (r.runStep step optOut).events :=
      quiet_append (r.quiet_find step.description optOut) (quiet_debug _)
    exact quiet_append hstep (ih _ _)

theorem quiet_runScenarios (r : Registry σ) (scenarios : List Scenario) :
    Quiet (r.runScenarios scenarios).events := by
  induction scenarios generalizing r with
  | nil => exact fun e he => absurd he List.not_mem_nil
  | cons scenario scenarios ih =>
    have hscenario : Quiet (r.runScenario scenario).events :=
      quiet_append (r.quiet_runSteps false scenario.steps) (quiet_debug _)
    exact quiet_append hscenario (ih _)

end Registry

theorem Counters.of_count (c : Counters) (s t : Status) : (c.count s).of t = c.of t + [s].count t := by
  rw [count, of_tally]
  cases t <;> rfl

namespace Suite

def withStrict (s : Suite) (strict : Bool) : Suite := { s with config := s.config.withStrict strict }

/-! Nothing that is taken into account depends on strictness. -/

theorem addSteps_withStrict (s : Suite) (strict : Bool) (runs : List StepRun) :
    runs.foldl addStep (s.withStrict strict) = (runs.foldl addStep s).withStrict strict := by
  induction runs generalizing s with
  | nil => rfl
  | cons run runs ih => exact ih (s.addStep run)

theorem addScenario_withStrict (s : Suite) (strict : Bool) (name : String) (run : ScenarioRun) :
    (s.withStrict strict).addScenario name run = (s.addScenario name run).withStrict strict := by
  rw [addScenario, addSteps_withStrict]
  rfl

theorem tallyFeature_withStrict (s : Suite) (strict : Bool) (status : Status) :
    (s.withStrict strict).tallyFeature status = (s.tallyFeature status).withStrict strict := by
  rw [tallyFeature, tallyFeature]
  split <;> rfl

theorem addFeature_withStrict (s : Suite) (strict : Bool) (name : String) (runs : List ScenarioRun) :
    (s.withStrict strict).addFeature name runs = (s.addFeature name runs).withStrict strict := by
  induction runs using List.reverseRecOn with
  | nil => rfl
  | append_singleton runs run ih =>
    rw [addFeature_concat, addFeature_concat, ih, addScenario_withStrict, tallyFeature_withStrict]

/-! What the counters of scenarios gain. -/

theorem scenarios_addSteps (s : Suite) (runs : List StepRun) :
    (runs.foldl addStep s).stats.scenarios = s.stats.scenarios := by
  induction runs generalizing s with
  | nil => rfl
  | cons run runs ih => exact ih (s.addStep run)

theorem scenarios_addScenario (s : Suite) (name : String) (run : ScenarioRun) (t : Status) :
    (s.addScenario name run).stats.scenarios.of t = s.stats.scenarios.of t + [run.status].count t := by
  rw [← s.scenarios_addSteps run.steps, ← Counters.of_count]
  rfl

theorem scenarios_tallyFeature (s : Suite) (status : Status) :
    (s.tallyFeature status).stats.scenarios = s.stats.scenarios := by
  rw [tallyFeature]
  split <;> rfl

theorem scenarios_addFeature (s : Suite) (name : String) (runs : List ScenarioRun) (t : Status) :
    (s.addFeature name runs).stats.scenarios.of t =
      s.stats.scenarios.of t + runs.countP (·.status = t) := by
  induction runs using List.reverseRecOn with
  | nil => rfl
  | append_singleton runs run ih =>
    have hcount : [run.status].count t = [run].countP (·.status = t) := by
      simp [List.count_singleton, List.countP_singleton]
    rw [addFeature_concat, scenarios_tallyFeature, scenarios_addScenario, ih, hcount,
      List.countP_append, Nat.add_assoc]

/-! What a strict suite says. -/

theorem exists_not_success_iff (runs : List ScenarioRun) :
    (∃ run ∈ runs, run.outcome ≠ .success) ↔ 0 < runs.countP (·.status = .failed) +
      runs.countP (·.status = .pending) + runs.countP (·.status = .undefined) := by
  have hstatus (o : Outcome) : o ≠ .success ↔
      (o.status = .failed ∨ o.status = .pending) ∨ o.status = .undefined := by
    cases o <;> simp [Outcome.status]
  simp only [Nat.add_pos_iff_pos_or_pos, List.countP_pos_iff, decide_eq_true_eq, hstatus, and_or_left,
    exists_or]
  rfl

theorem verdict_lenient (name : String) (runs : List ScenarioRun) : verdict false name runs = .ok () := by
  simp [verdict]

theorem verdict_strict_eq_error_iff {name : String} {runs : List ScenarioRun} {e : SuiteError} :
    verdict true name runs = .error e ↔ (∃ run ∈ runs, run.outcome ≠ .success) ∧
      e = ⟨name, runs.countP (·.status = .failed), runs.countP (·.status = .pending),
        runs.countP (·.status = .undefined)⟩ := by
  have hcount (t : Status) :
      (runs.filter (·.status == t)).length = runs.countP (·.status = t) := by
    rw [List.countP_eq_length_filter]
    rfl
  rw [exists_not_success_iff]
  simp only [verdict, hcount, true_and]
  split
  next h =>
    rw [Except.error.injEq, and_iff_right h]
    exact eq_comm
  next h => simp [h]

end Suite

variable {σ : Type}

/-- Two runs of a feature that leave the same behind: the same counts, stubs and records, the same registry,
and the same calls of actions and log entries on the way. -/
structure SameWork (a b : Suite × Run σ (Except SuiteError Unit)) : Prop where
  stats : a.1.stats = b.1.stats
  snippets : a.1.snippets = b.1.snippets
  records : a.1.records = b.1.records
  registry : a.2.registry = b.2.registry
  events : a.2.events = b.2.events

/-- The numbers of an error are those in the record of the feature, and what the counters of scenarios
gained. -/
structure SuiteError.Tells (e : SuiteError) (record : FeatureRecord) (before after : Counters) :
    Prop where
  feature : e.feature = record.name
  failures : e.failures = record.scenarios.countP (·.status = .failed)
  pending : e.pending = record.scenarios.countP (·.status = .pending)
  undefined : e.undefined = record.scenarios.countP (·.status = .undefined)
  failures_gained : after.failures = before.failures + e.failures
  pending_gained : after.pending = before.pending + e.pending
  undefined_gained : after.undefined = before.undefined + e.undefined

/-- A run for a test does what the plain run does. If that is an error, the test is told once of its
failure, with one error in the log, and else there is none of both. -/
structure Alarms (plain test : Suite × Run σ (Except SuiteError Unit)) : Prop where
  suite : test.1 = plain.1
  value : test.2.value = plain.2.value
  registry : test.2.registry = plain.2.registry
  events : plain.2.events <+: test.2.events
  failed : test.2.events.count .failed = if plain.2.value.isOk then 0 else 1
  errors : test.2.events.countP Event.isError = if plain.2.value.isOk then 0 else 1

namespace Suite

theorem quiet_testFeature (s : Suite) (r : Registry σ) (f : Feature) :
    Quiet (s.testFeature r f).2.events :=
  quiet_append (quiet_append (quiet_info _) (r.quiet_runScenarios f.scenarios)) (quiet_info _)

theorem test_of_ok {s : Suite} {r : Registry σ} {f : Feature}
    (h : (s.testFeature r f).2.value = .ok ()) : s.test r f = s.testFeature r f := by
  unfold test
  dsimp only
  split
  next => rfl
  next e he => exact nomatch h.symm.trans he

theorem test_of_error {s : Suite} {r : Registry σ} {f : Feature} {e : SuiteError}
    (h : (s.testFeature r f).2.value = .error e) :
    s.test r f = ((s.testFeature r f).1, { (s.testFeature r f).2 with
      events := (s.testFeature r f).2.events ++
        [.logged ⟨.error, s!"test framework failed for: {f.name}: {e.message}"⟩, .failed] }) := by
  unfold test
  dsimp only
  split
  next he => exact nomatch h.symm.trans he
  next e' he => rw [Except.error.inj (h.symm.trans he)]

theorem exists_verdict_strict_iff {name : String} {runs : List ScenarioRun} :
    (∃ e, verdict true name runs = .error e) ↔ ∃ run ∈ runs, run.outcome ≠ .success := by
  simp only [verdict_strict_eq_error_iff, exists_and_left, exists_eq, and_true]

theorem tells_of_verdict_strict {name : String} {runs : List ScenarioRun} {e : SuiteError}
    (h : verdict true name runs = .error e) (s : Suite) :
    e.Tells ⟨name, runs.map (·.record name)⟩ s.stats.scenarios
      (s.addFeature name runs).stats.scenarios := by
  obtain ⟨-, rfl⟩ := verdict_strict_eq_error_iff.1 h
  have hcount (t : Status) : (runs.map (·.record name)).countP (·.status = t) =
      runs.countP (·.status = t) := List.countP_map
  have hgained := s.scenarios_addFeature name runs
  exact ⟨rfl, (hcount .failed).symm, (hcount .pending).symm, (hcount .undefined).symm,
    hgained .failed, hgained .pending, hgained .undefined⟩

theorem alarms_test (s : Suite) (r : Registry σ) (f : Feature) :
    Alarms (s.testFeature r f) (s.test r f) := by
  have hquiet := s.quiet_testFeature r f
  cases h : (s.testFeature r f).2.value with
  | ok _ =>
    rw [test_of_ok h]
    refine ⟨rfl, rfl, rfl, List.prefix_refl _, ?_, ?_⟩
    · rw [hquiet.count_failed, h]
      rfl
    · rw [hquiet.countP_isError, h]
      rfl
  | error e =>
    rw [test_of_error h]
    refine ⟨rfl, rfl, rfl, List.prefix_append _ _, ?_, ?_⟩
    · rw [List.count_append, hquiet.count_failed, h]
      rfl
    · rw [List.countP_append, hquiet.countP_isError, h]
      rfl

/-- Two suites that differ in strictness alone do the same for a feature. The lenient one has nothing to
say; the strict one has an error just if some scenario of the feature did not succeed, with the numbers of
those that failed, were pending and were undefined. A run for a test has the same result. -/
theorem testFeature_strict (s : Suite) (r : Registry σ) (f : Feature) :
    let lenient := (s.withStrict false).testFeature r f
    let strict := (s.withStrict true).testFeature r f
    SameWork strict lenient ∧ lenient.2.value = .ok () ∧
      (∃ record, strict.1.records = s.records ++ [record] ∧
        record.Tells f (r.runScenarios f.scenarios).value ∧
        ((∃ e, strict.2.value = .error e) ↔ ∃ scenario ∈ record.scenarios, scenario.outcome ≠ .success) ∧
        ∀ e, strict.2.value = .error e →
          e.Tells record s.stats.scenarios strict.1.stats.scenarios) ∧
      ∀ b, Alarms ((s.withStrict b).testFeature r f) ((s.withStrict b).test r f) := by
  intro lenient strict
  have hrecords : strict.1.records = s.records ++
      [⟨f.name, (r.runScenarios f.scenarios).value.map (·.record f.name)⟩] :=
    (s.withStrict true).records_addFeature f.name _
  have hvalue : strict.2.value = verdict true f.name (r.runScenarios f.scenarios).value := rfl
  have hlenient : lenient.2.value = .ok () :=
    verdict_lenient f.name (r.runScenarios f.scenarios).value
  have hsuite (b : Bool) : ((s.withStrict b).testFeature r f).1 =
      (s.addFeature f.name (r.runScenarios f.scenarios).value).withStrict b :=
    s.addFeature_withStrict b f.name _
  have hwork : SameWork strict lenient := by
    refine ⟨?_, ?_, ?_, rfl, rfl⟩ <;> rw [hsuite, hsuite] <;> rfl
  refine ⟨hwork, hlenient, ?_, fun b => (s.withStrict b).alarms_test r f⟩
  refine ⟨_, hrecords, FeatureRecord.tells_runScenarios r f, ?_, fun e he => ?_⟩
  · rw [hvalue, exists_verdict_strict_iff]
    simp [ScenarioRun.record]
  · exact tells_of_verdict_strict (hvalue.symm.trans he) (s.withStrict true)

end Suite
end Acceptance
