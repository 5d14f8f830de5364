import Acceptance.Proofs.Course
import Acceptance.Proofs.Sharing
import Acceptance.Proofs.Strictness
import Acceptance.Proofs.StubCollection

/-!
The levels of the counters of a suite. A scenario that fails or is pending has one step that does so, and
steps are only skipped in scenarios that do not succeed, so the counters of steps and those of scenarios
determine each other if all steps are run in scenarios.
-/
namespace Acceptance

theorem countP_status_eq_zero {runs : List StepRun} {t : Status} (h : ∀ run ∈ runs, run.status ≠ t) :
    runs.countP (·.status = t) = 0 :=
  List.countP_eq_zero.2 fun run hrun => by simpa using h run hrun

namespace Course

variable {runs : List StepRun} {o : Outcome}

/-- One step is failed or pending in a scenario that is, and none in any other one. -/
theorem countP_eq (h : Course runs o) {t : Status} (ht : t = .failed ∨ t = .pending) :
    runs.countP (·.status = t) = if o.status = t then 1 else 0 := by
  cases h with
  | passes h =>
    have hnone : runs.countP (·.status = t) = 0 := by
      refine countP_status_eq_zero fun run hrun => ?_
      rw [h run hrun]
      rcases ht with rfl | rfl <;> decide
    rw [hnone, if_neg]
    rcases ht with rfl | rfl <;> decide
  | @halts before bad after hbefore hbad hstatus hafter =>
    have hpassed : before.countP (·.status = t) = 0 := by
      refine countP_status_eq_zero fun run hrun => ?_
      rw [hbefore run hrun]
      rcases ht with rfl | rfl <;> decide
    have hskipped : after.countP (·.status = t) = 0 := by
      refine countP_status_eq_zero fun run hrun => ?_
      rcases hafter run hrun with hrun | hrun <;> rw [hrun] <;> rcases ht with rfl | rfl <;> decide
    rw [List.countP_append, List.countP_cons, hpassed, hskipped, hstatus]
    simp only [decide_eq_true_eq, Nat.zero_add]

/-- An undefined scenario has an undefined step. -/
theorem le_countP_undefined (h : Course runs o) :
    (if o.status = .undefined then 1 else 0) ≤ runs.countP (·.status = .undefined) := by
  cases h with
  | passes h => exact Nat.zero_le _
  | halts before hbefore hbad hstatus hafter =>
    rw [List.countP_append, List.countP_cons, hstatus]
    simp only [decide_eq_true_eq]
    omega

/-- Where a step is skipped, another one did not succeed. -/
theorem ne_success_of_skipped (h : Course runs o) {run : StepRun} (hrun : run ∈ runs)
    (hskipped : run.status = .skipped) : o ≠ .success := by
  cases h with
  | passes h => exact absurd ((h run hrun).symm.trans hskipped) (by decide)
  | halts before hbefore hbad hstatus hafter => exact hbad

end Course

/-! Sums over scenarios that were run. -/

section Runs

variable {made : List ScenarioRun}

theorem countP_steps_eq (h : ∀ run ∈ made, Course run.steps run.outcome) {t : Status}
    (ht : t = .failed ∨ t = .pending) :
    (made.flatMap (·.steps)).countP (·.status = t) = made.countP (·.status = t) := by
  induction made with
  | nil => rfl
  | cons run made ih =>
    obtain ⟨hrun, hmade⟩ := List.forall_mem_cons.1 h
    rw [List.flatMap_cons, List.countP_append, List.countP_cons, hrun.countP_eq ht, ih hmade,
      Nat.add_comm]
    simp only [decide_eq_true_eq]
    rfl

theorem countP_undefined_le (h : ∀ run ∈ made, Course run.steps run.outcome) :
    made.countP (·.status = .undefined) ≤ (made.flatMap (·.steps)).countP (·.status = .undefined) := by
  induction made with
  | nil => exact Nat.le_refl 0
  | cons run made ih =>
    obtain ⟨hrun, hmade⟩ := List.forall_mem_cons.1 h
    have hfirst : (if run.status = .undefined then 1 else 0) ≤
        run.steps.countP (·.status = .undefined) := hrun.le_countP_undefined
    have hrest := ih hmade
    rw [List.flatMap_cons, List.countP_append, List.countP_cons]
    simp only [decide_eq_true_eq]
    omega

theorem exists_ne_success_of_skipped (h : ∀ run ∈ made, Course run.steps run.outcome)
    (hskipped : 0 < (made.flatMap (·.steps)).countP (·.status = .skipped)) :
    ∃ run ∈ made, run.outcome ≠ .success := by
  obtain ⟨step, hstep, hstatus⟩ := List.countP_pos_iff.1 hskipped
  obtain ⟨run, hrun, hstep⟩ := List.mem_flatMap.1 hstep
  exact ⟨run, hrun, (h run hrun).ne_success_of_skipped hstep (by simpa using hstatus)⟩

/-- A step had its action called if it passed, failed or is pending. -/
theorem countP_ran (runs : List StepRun) : runs.countP (·.status.ran) =
    runs.countP (·.status = .passed) + runs.countP (·.status = .failed) +
      runs.countP (·.status = .pending) := by
  induction runs with
  | nil => rfl
  | cons run runs ih =>
    rw [List.countP_cons, List.countP_cons, List.countP_cons, List.countP_cons, ih]
    cases run.status <;> simp [Status.ran] <;> omega

end Runs

/-- The call is for a step without a scenario. -/
def Call.isDirect : Call → Bool
  | step _ _ => true
  | scenario _ _ | feature _ | test _ => false

variable {σ : Type}

/-! Suites and their sessions. -/

theorem Session.answer_eq (s : Session σ) (c : Call) :
    (s.suite.answer s.registry c).value = (s.call c).suite ∧
      (s.suite.answer s.registry c).registry = (s.call c).registry := by
  cases c with
  | step _ _ | scenario _ _ | feature _ | test _ => exact ⟨rfl, rfl⟩

theorem Session.answers_eq (s : Session σ) (called : List Call) :
    (s.suite.answers s.registry called).value = (s.run called).suite := by
  unfold run
  induction called generalizing s with
  | nil => rfl
  | cons c called ih =>
    obtain ⟨hsuite, hregistry⟩ := s.answer_eq c
    rw [Suite.answers, List.foldl_cons, ← ih, hsuite, hregistry]

theorem Session.direct_run {called : List Call} (h : ∀ c ∈ called, c.isDirect = false)
    (s : Session σ) : (s.run called).direct = s.direct := by
  unfold run
  induction called generalizing s with
  | nil => rfl
  | cons c called ih =>
    obtain ⟨hc, hcalled⟩ := List.forall_mem_cons.1 h
    rw [List.foldl_cons, ih hcalled]
    cases c with
    | step _ _ => cases hc
    | scenario _ _ | feature _ | test _ => rfl

theorem Suite.length_calls_answer (s : Suite) (r : Registry σ) {c : Call} (h : c.isDirect = false) :
    (calls (s.answer r c).events).length =
      ((Session.runsOf r c).flatMap (·.2.steps)).countP (·.status.ran) := by
  have hfeature (f : Feature) : (calls (s.testFeature r f).2.events).length =
      (((r.runScenarios f.scenarios).value.map (f.name, ·)).flatMap (·.2.steps)).countP
        (·.status.ran) := by
    rw [List.flatMap_map, ← r.length_calls_runScenarios f.scenarios]
    simp [testFeature]
  cases c with
  | step _ _ => cases h
  | scenario name scenario =>
    rw [Session.runsOf, List.flatMap_singleton]
    exact r.length_calls_runScenario scenario
  | feature f => exact hfeature f
  | test f =>
    have hcalls : calls (s.test r f).2.events = calls (s.testFeature r f).2.events :=
      (Sharing.does_test s r f).calls.trans (Sharing.does_testFeature s r f).calls.symm
    change (calls (s.test r f).2.events).length = _
    rw [hcalls]
    exact hfeature f

/-- As many actions have been called as scenarios have steps that ran. -/
theorem Session.length_calls_answers {called : List Call} (h : ∀ c ∈ called, c.isDirect = false)
    (s : Session σ) : (calls (s.suite.answers s.registry called).events).length =
      ((s.chronicle called).flatMap (·.2.steps)).countP (·.status.ran) := by
  induction called generalizing s with
  | nil => rfl
  | cons c called ih =>
    obtain ⟨hc, hcalled⟩ := List.forall_mem_cons.1 h
    obtain ⟨hsuite, hregistry⟩ := s.answer_eq c
    rw [Suite.answers, chronicle, History.calls_append, List.length_append,
      s.suite.length_calls_answer s.registry hc, hsuite, hregistry, ih hcalled, List.flatMap_append,
      List.countP_append]

theorem Session.course_of_mem_chronicle (s : Session σ) (called : List Call) :
    ∀ run ∈ (s.chronicle called).map Prod.snd, Course run.steps run.outcome := by
  rw [List.forall_mem_map]
  intro m hm
  obtain ⟨r, scenario, heq⟩ := exists_of_mem_chronicle hm
  rw [heq]
  exact r.course_runScenario scenario

/-! Reports. -/

namespace Suite

/-- The report that there would be without stubs, which ends with the summary. -/
def plainReport (s : Suite) : String := { s with snippets := [] }.report

/-- The part of a report that shows stubs. -/
def stubSection (s : Suite) : String := "\n" ++ snippetsHeader ++ "\n\n" ++ s.snippetText ++ "\n"

theorem report_eq (s : Suite) :
    s.report = s.plainReport ++ if s.snippets = [] then "" else s.stubSection := by
  have hplain : s.report = s.plainReport ++ if s.snippets.isEmpty then "" else s.stubSection := by
    rw [plainReport, report, report, List.isEmpty_nil, if_pos rfl, String.append_empty]
    rfl
  rw [hplain]
  simp only [List.isEmpty_iff]

theorem report_eq_append_stubSection_iff (s : Suite) :
    s.report = s.plainReport ++ s.stubSection ↔ s.snippets ≠ [] := by
  have hne : "" ≠ s.stubSection := by simp [stubSection]
  rw [report_eq, String.append_right_inj]
  by_cases h : s.snippets = []
  · simp [h, hne]
  · simp [h]

theorem report_eq_plainReport_iff (s : Suite) : s.report = s.plainReport ↔ s.snippets = [] := by
  have hne : s.stubSection ≠ "" := by simp [stubSection]
  rw [report_eq]
  by_cases h : s.snippets = []
  · simp [h]
  · simp [h, hne]

/-- What the levels of the counters say of each other, of the calls of actions and of the report. -/
structure Leveled (s : Suite) (invocations : Nat) : Prop where
  failures : s.stats.steps.failures = s.stats.scenarios.failures
  pending : s.stats.steps.pending = s.stats.scenarios.pending
  undefined : s.stats.scenarios.undefined ≤ s.stats.steps.undefined
  invocations : s.stats.steps.success + s.stats.steps.failures + s.stats.steps.pending = invocations
  optout : 0 < s.stats.steps.optout → 0 < s.stats.scenarios.unsuccessful
  stubs : s.report = s.plainReport ++ s.stubSection ↔ 0 < s.stats.steps.undefined
  plain : s.report = s.plainReport ↔ s.stats.steps.undefined = 0

end Suite

namespace Session

/-- A suite has stubs just if some step of a scenario that it ran ended undefined. -/
theorem snippets_run_ne_nil_iff (config : Config) (r : Registry σ) (called : List Call) :
    ((fresh config r).run called).suite.snippets ≠ [] ↔
      0 < (((fresh config r).chronicle called).flatMap (·.2.steps)).countP
        (·.status = .undefined) := by
  have hfresh (x : String) : x ∉ (fresh config r).suite.snippets := List.not_mem_nil
  have hmem (x : String) : x ∈ ((fresh config r).run called).suite.snippets ↔
      ∃ step ∈ undefinedSteps ((fresh config r).chronicle called), step.snippet = x := by
    rw [mem_snippets_run, or_iff_right (hfresh x), exists_snippet?_iff]
  rw [List.countP_pos_iff]
  constructor
  · intro hne
    obtain ⟨x, hx⟩ := List.exists_mem_of_ne_nil _ hne
    obtain ⟨step, hstep, -⟩ := (hmem x).1 hx
    obtain ⟨run, hrun, -⟩ := List.mem_map.1 hstep
    obtain ⟨hrun, hstatus⟩ := List.mem_filter.1 hrun
    exact ⟨run, hrun, hstatus⟩
  · rintro ⟨run, hrun, hstatus⟩
    have hstep : run.step ∈ undefinedSteps ((fresh config r).chronicle called) :=
      List.mem_map_of_mem (List.mem_filter.2 ⟨hrun, hstatus⟩)
    exact List.ne_nil_of_mem ((hmem _).2 ⟨run.step, hstep, rfl⟩)

/-- The counters are the numbers of steps and of scenarios that ended in each way. -/
theorem counters_run (config : Config) (r : Registry σ) {called : List Call}
    (h : ∀ c ∈ called, c.isDirect = false) (t : Status) :
    ((fresh config r).run called).stats.steps.of t =
        (((fresh config r).chronicle called).flatMap (·.2.steps)).countP (·.status = t) ∧
      (t ≠ .skipped → ((fresh config r).run called).stats.scenarios.of t =
        (((fresh config r).chronicle called).map Prod.snd).countP (·.status = t)) := by
  have hagrees : (fresh config r).Agrees := ⟨Suite.agrees_fresh config, List.not_mem_nil⟩
  have hbalanced := balanced_of_agrees (agrees_run hagrees called)
  have hrecords : scenarioRecords ((fresh config r).run called).records =
      ((fresh config r).chronicle called).map fun m => m.2.record m.1 :=
    scenarioRecords_run (fresh config r) called
  constructor
  · have hsteps : (stepRecords ((fresh config r).run called).records).map (·.status) =
        (((fresh config r).chronicle called).flatMap (·.2.steps)).map (·.status) := by
      rw [stepRecords, hrecords, List.flatMap_map, List.map_flatMap, List.map_flatMap]
      simp [ScenarioRun.record, StepRun.record, Function.comp_def]
    calc ((fresh config r).run called).stats.steps.of t
        = (stepRecords ((fresh config r).run called).records).countP (·.status = t) := by
          rw [hbalanced.steps t, direct_run h]
          rfl
      _ = ((stepRecords ((fresh config r).run called).records).map (·.status)).countP (· = t) := by
          rw [List.countP_map]
          rfl
      _ = (((fresh config r).chronicle called).flatMap (·.2.steps)).countP (·.status = t) := by
          rw [hsteps, List.countP_map]
          rfl
  · intro ht
    rw [hbalanced.scenarios t ht, hrecords, List.countP_map, List.countP_map]
    rfl

end Session

/-- Whatever the actions do, the levels of the counters of a suite determine each other, as long as it is
called for scenarios and features alone. -/
theorem Suite.leveled_answers (config : Config) (r : Registry σ) {called : List Call}
    (h : ∀ c ∈ called, c.isDirect = false) :
    let run := ({ config } : Suite).answers r called
    run.value.Leveled (calls run.events).length := by
  intro run
  have hvalue : run.value = ((Session.fresh config r).run called).suite :=
    (Session.fresh config r).answers_eq called
  have hcalls : (calls run.events).length =
      (((Session.fresh config r).chronicle called).flatMap (·.2.steps)).countP (·.status.ran) :=
    (Session.fresh config r).length_calls_answers h
  have hcourse := (Session.fresh config r).course_of_mem_chronicle called
  have hsteps := fun t => (Session.counters_run config r h t).1
  have hscenarios := fun t => (Session.counters_run config r h t).2
  have hstubs := Session.snippets_run_ne_nil_iff config r called
  have hflat : (((Session.fresh config r).chronicle called).map Prod.snd).flatMap (·.steps) =
      ((Session.fresh config r).chronicle called).flatMap (·.2.steps) := List.flatMap_map ..
  rw [← hsteps .undefined] at hstubs
  rw [hvalue, hcalls]
  refine {
    failures := ?_
    pending := ?_
    undefined := ?_
    invocations := ?_
    optout := ?_
    stubs := (Suite.report_eq_append_stubSection_iff _).trans hstubs
    plain := ?_ }
  · have heq := countP_steps_eq hcourse (.inl rfl)
    rw [hflat, ← hsteps .failed, ← hscenarios .failed (by decide)] at heq
    exact heq
  · have heq := countP_steps_eq hcourse (.inr rfl)
    rw [hflat, ← hsteps .pending, ← hscenarios .pending (by decide)] at heq
    exact heq
  · have hle := countP_undefined_le hcourse
    rw [hflat, ← hsteps .undefined, ← hscenarios .undefined (by decide)] at hle
    exact hle
  · rw [countP_ran, ← hsteps .passed, ← hsteps .failed, ← hsteps .pending]
    rfl
  · intro hskipped
    have hpos : 0 < ((Session.fresh config r).run called).stats.steps.of .skipped := hskipped
    rw [hsteps, ← hflat] at hpos
    have hbad := (Suite.exists_not_success_iff _).1 (exists_ne_success_of_skipped hcourse hpos)
    rw [← hscenarios .failed (by decide), ← hscenarios .pending (by decide),
      ← hscenarios .undefined (by decide)] at hbad
    exact hbad
  · rw [Suite.report_eq_plainReport_iff, ← not_iff_not]
    exact hstubs.trans Nat.pos_iff_ne_zero

/-- A registry in which an action panics every other time that it is called, and another one is never
done. -/
def moodyRegistry : Registry Nat where
  definitions := [
    ⟨.Given, ⟨"x", .one (.one 'x'), []⟩, fun _ n =>
      (if n % 2 = 0 then .returned (.ok ()) else .panicked (.text "odd"), n + 1), false⟩,
    ⟨.Then, ⟨"y", .one (.one 'y'), []⟩, fun _ n => (.returned (.error (.pending "y")), n), false⟩]
  state := 0

theorem Suite.leveled_answers_moody :
    let first : Scenario := ⟨"first", [⟨.Given, "x", 2⟩, ⟨.Then, "y", 3⟩, ⟨.And, "z", 4⟩], 1⟩
    let second : Scenario := ⟨"second", [⟨.When, "x", 6⟩, ⟨.Then, "y", 7⟩, ⟨.Then, "x", 8⟩], 5⟩
    let called := [Call.scenario "a" first, .feature { name := "a", scenarios := [second, first] },
      .test { name := "b", scenarios := [second] }]
    let run := ({} : Suite).answers moodyRegistry called
    (∀ c ∈ called, c.isDirect = false) ∧ (calls run.events).length = 6 ∧
      run.value.stats.steps.optout = 4 ∧ run.value.Leveled (calls run.events).length := by
  intro first second called run
  have hcalled : ∀ c ∈ called, c.isDirect = false := by
    intro c hc
    simp only [called, List.mem_cons, List.not_mem_nil, or_false] at hc
    rcases hc with rfl | rfl | rfl <;> rfl
  exact ⟨hcalled, by decide +kernel, by decide +kernel,
    Suite.leveled_answers {} moodyRegistry hcalled⟩

end Acceptance
