import Acceptance.Proofs.Calls
import Mathlib.Data.List.Forall2

/-!
The records of a suite are a chronicle of the scenarios that it has run. Each run is filed once, behind all
earlier ones, with the feature that it was run for, and what has been filed stays as it is.
-/
namespace Acceptance

namespace FeatureRecord

/-- A record joins the last feature just if that has the name of its own, and begins a feature if not. -/
inductive Adds (r : ScenarioRecord) : List FeatureRecord → List FeatureRecord → Prop
  | joins {f : FeatureRecord} (fs : List FeatureRecord) (h : f.name = r.featureName) :
    Adds r (fs ++ [f]) (fs ++ [{ f with scenarios := f.scenarios ++ [r] }])
  | begins {fs : List FeatureRecord} (h : ∀ f ∈ fs.getLast?, f.name ≠ r.featureName) :
    Adds r fs (fs ++ [⟨r.featureName, [r]⟩])

theorem adds_file (r : ScenarioRecord) (fs : List FeatureRecord) : Adds r fs (file r fs) := by
  rcases List.eq_nil_or_concat fs with rfl | ⟨init, f, rfl⟩
  · have hnone : ∀ f ∈ ([] : List FeatureRecord).getLast?, f.name ≠ r.featureName := by simp
    exact .begins hnone
  · rw [List.concat_eq_append, file_append r init (List.cons_ne_nil f [])]
    by_cases hname : f.name = r.featureName
    · rw [file, if_pos hname]
      exact .joins init hname
    · have hlast : ∀ g ∈ (init ++ [f]).getLast?, g.name ≠ r.featureName := by simpa using hname
      have hbegins := Adds.begins hlast
      rw [List.append_assoc] at hbegins
      rwa [file, if_neg hname]

/-- All records but the last stay as they are, and none is taken away. -/
structure Keeps (before after : List FeatureRecord) : Prop where
  settled : before.dropLast <+: after
  length : before.length ≤ after.length

theorem keeps_append (fs gs : List FeatureRecord) : Keeps fs (fs ++ gs) :=
  ⟨(List.dropLast_prefix fs).trans (List.prefix_append fs gs), by simp⟩

theorem keeps_refl (fs : List FeatureRecord) : Keeps fs fs := by
  simpa using keeps_append fs []

theorem Keeps.trans {fs gs hs : List FeatureRecord} (h : Keeps fs gs) (h' : Keeps gs hs) :
    Keeps fs hs := by
  refine ⟨?_, Nat.le_trans h.length h'.length⟩
  have hlength : fs.dropLast.length ≤ gs.dropLast.length := by
    rw [List.length_dropLast, List.length_dropLast]
    exact Nat.sub_le_sub_right h.length 1
  exact (List.prefix_of_prefix_length_le h.settled (List.dropLast_prefix gs) hlength).trans h'.settled

theorem Adds.keeps {r : ScenarioRecord} {fs gs : List FeatureRecord} (h : Adds r fs gs) :
    Keeps fs gs := by
  cases h with
  | joins fs h => exact ⟨by simp, by simp⟩
  | begins h => exact keeps_append fs _

/-- Every scenario is filed with a feature that has the name it was run for. -/
def NamesAgree (fs : List FeatureRecord) : Prop := ∀ f ∈ fs, ∀ r ∈ f.scenarios, r.featureName = f.name

theorem Adds.namesAgree {r : ScenarioRecord} {fs gs : List FeatureRecord} (h : Adds r fs gs)
    (hfs : NamesAgree fs) : NamesAgree gs := by
  cases h with
  | joins fs h =>
    obtain ⟨hinit, hlast⟩ := List.forall_mem_append.1 hfs
    refine List.forall_mem_append.2 ⟨hinit, ?_⟩
    rw [List.forall_mem_singleton] at hlast ⊢
    refine List.forall_mem_append.2 ⟨hlast, ?_⟩
    rw [List.forall_mem_singleton]
    exact h.symm
  | begins h =>
    refine List.forall_mem_append.2 ⟨hfs, ?_⟩
    simp

end FeatureRecord

/-- What a record tells of a scenario that was run for the feature with the name: how it ended, and of
every step what it says and how it ended. -/
structure ScenarioRecord.Tells (record : ScenarioRecord) (featureName : String) (run : ScenarioRun) :
    Prop where
  featureName : record.featureName = featureName
  name : record.name = run.scenario.description
  line : record.line = run.scenario.line
  outcome : record.outcome = run.outcome
  steps : record.steps.map (fun s => (s.keyword, s.description, s.line)) =
    run.scenario.steps.map fun s => (s.keyword, s.description, s.line)
  endings : record.steps.map (fun s => (s.status, s.message)) =
    run.steps.map fun s => (s.status, s.outcome.reason?)

theorem StepRun.step_ofMatch (step : Step) (m : Match) : (ofMatch step m).step = step := by
  cases m <;> rfl

namespace Registry

variable {σ : Type}

@[simp] theorem map_step_runSteps (r : Registry σ) (optOut : Bool) (steps : List Step) :
    (r.runSteps optOut steps).value.map (·.step) = steps := by
  induction steps generalizing r optOut with
  | nil => rfl
  | cons step steps ih =>
    have hstep : (r.runStep step optOut).value.step = step := StepRun.step_ofMatch step _
    rw [runSteps, List.map_cons, hstep, ih]

@[simp] theorem map_scenario_runScenarios (r : Registry σ) (scenarios : List Scenario) :
    (r.runScenarios scenarios).value.map (·.scenario) = scenarios := by
  induction scenarios generalizing r with
  | nil => rfl
  | cons scenario scenarios ih =>
    rw [runScenarios, List.map_cons, ih]
    rfl

theorem exists_of_mem_runScenarios {r : Registry σ} {scenarios : List Scenario} {run : ScenarioRun}
    (h : run ∈ (r.runScenarios scenarios).value) :
    ∃ (r' : Registry σ) (scenario : Scenario), run = (r'.runScenario scenario).value := by
  induction scenarios generalizing r with
  | nil => cases h
  | cons scenario scenarios ih =>
    rcases List.mem_cons.1 h with rfl | h
    · exact ⟨r, scenario, rfl⟩
    · exact ih h

/-- The record of a run tells of it, since each step of the scenario was run once, in order. -/
theorem tells_runScenario (r : Registry σ) (scenario : Scenario) (featureName : String) :
    ((r.runScenario scenario).value.record featureName).Tells featureName
      (r.runScenario scenario).value := by
  refine ⟨rfl, rfl, rfl, rfl, ?_, ?_⟩
  · have hsteps : (r.runScenario scenario).value.steps.map (·.step) = scenario.steps :=
      r.map_step_runSteps false scenario.steps
    change _ = scenario.steps.map fun s => (s.keyword, s.description, s.line)
    rw [← hsteps, ScenarioRun.record, List.map_map, List.map_map]
    rfl
  · rw [ScenarioRun.record, List.map_map]
    rfl

end Registry

/-- What a record tells of a feature: each of its scenarios was run once, in order. -/
structure FeatureRecord.Tells (record : FeatureRecord) (f : Feature) (runs : List ScenarioRun) :
    Prop where
  name : record.name = f.name
  scenarios : runs.map (·.scenario) = f.scenarios
  records : List.Forall₂ (fun run r => r.Tells f.name run) runs record.scenarios

theorem FeatureRecord.tells_runScenarios {σ : Type} (r : Registry σ) (f : Feature) :
    Tells ⟨f.name, (r.runScenarios f.scenarios).value.map (·.record f.name)⟩ f
      (r.runScenarios f.scenarios).value := by
  refine ⟨rfl, r.map_scenario_runScenarios f.scenarios, ?_⟩
  rw [List.forall₂_map_right_iff, List.forall₂_same]
  intro run hrun
  obtain ⟨r', scenario, rfl⟩ := Registry.exists_of_mem_runScenarios hrun
  exact r'.tells_runScenario scenario f.name

namespace Suite

theorem kept_namesAgree : Kept fun s => FeatureRecord.NamesAgree s.records := by
  refine ⟨fun s status h => h, fun s name run h => ?_, fun s name h => ?_, fun s status h => ?_⟩
  · rw [records_addScenario]
    exact (FeatureRecord.adds_file _ s.records).namesAgree h
  · exact List.forall_mem_append.2 ⟨h, by simp⟩
  · rwa [records_tallyFeature]

theorem kept_keeps (fs : List FeatureRecord) : Kept fun s => FeatureRecord.Keeps fs s.records := by
  refine ⟨fun s status h => h, fun s name run h => ?_, fun s name h => ?_, fun s status h => ?_⟩
  · rw [records_addScenario]
    exact h.trans (FeatureRecord.adds_file _ s.records).keeps
  · exact h.trans (FeatureRecord.keeps_append s.records _)
  · rwa [records_tallyFeature]

end Suite

namespace Session

variable {σ : Type}

/-- The scenarios that a call asks to run, with the names of their features. -/
def scenariosOf : Call → List (String × Scenario)
  | .step _ _ => []
  | .scenario name scenario => [(name, scenario)]
  | .feature f | .test f => f.scenarios.map (f.name, ·)

/-- The runs of scenarios that a call makes, with the names of their features. -/
def runsOf (r : Registry σ) : Call → List (String × ScenarioRun)
  | .step _ _ => []
  | .scenario name scenario => [(name, (r.runScenario scenario).value)]
  | .feature f | .test f => (r.runScenarios f.scenarios).value.map (f.name, ·)

/-- All runs of scenarios that calls make, one after the other. -/
def chronicle (s : Session σ) : List Call → List (String × ScenarioRun)
  | [] => []
  | c :: more => runsOf s.registry c ++ (s.call c).chronicle more

theorem records_feature (s : Session σ) (f : Feature) : (s.call (.feature f)).records =
    s.records ++ [⟨f.name, (s.registry.runScenarios f.scenarios).value.map (·.record f.name)⟩] :=
  s.suite.records_addFeature f.name _

theorem records_test (s : Session σ) (f : Feature) : (s.call (.test f)).records =
    s.records ++ [⟨f.name, (s.registry.runScenarios f.scenarios).value.map (·.record f.name)⟩] := by
  rw [records, suite_call_test]
  exact s.suite.records_addFeature f.name _

theorem records_scenario (s : Session σ) (name : String) (scenario : Scenario) :
    (s.call (.scenario name scenario)).records =
      FeatureRecord.file ((s.registry.runScenario scenario).value.record name) s.records :=
  s.suite.records_addScenario name _

theorem map_runsOf (r : Registry σ) (c : Call) :
    (runsOf r c).map (fun m => (m.1, m.2.scenario)) = scenariosOf c := by
  have hfeature (f : Feature) :
      ((r.runScenarios f.scenarios).value.map (f.name, ·)).map (fun m => (m.1, m.2.scenario)) =
        f.scenarios.map (f.name, ·) := by
    calc ((r.runScenarios f.scenarios).value.map (f.name, ·)).map (fun m => (m.1, m.2.scenario))
        = ((r.runScenarios f.scenarios).value.map (·.scenario)).map (f.name, ·) := by
          rw [List.map_map, List.map_map]
          rfl
      _ = f.scenarios.map (f.name, ·) := by rw [r.map_scenario_runScenarios]
  cases c with
  | step step optOut => rfl
  | scenario name scenario => rfl
  | feature f => exact hfeature f
  | test f => exact hfeature f

theorem map_chronicle (s : Session σ) (calls : List Call) :
    (s.chronicle calls).map (fun m => (m.1, m.2.scenario)) = calls.flatMap scenariosOf := by
  induction calls generalizing s with
  | nil => rfl
  | cons c calls ih => rw [chronicle, List.map_append, map_runsOf, ih, List.flatMap_cons]

theorem exists_of_mem_runsOf {r : Registry σ} {c : Call} {m : String × ScenarioRun}
    (h : m ∈ runsOf r c) :
    ∃ (r' : Registry σ) (scenario : Scenario), m.2 = (r'.runScenario scenario).value := by
  cases c with
  | step step optOut => cases h
  | scenario name scenario =>
    rw [List.mem_singleton.1 h]
    exact ⟨r, scenario, rfl⟩
  | feature f | test f =>
    obtain ⟨run, hrun, rfl⟩ := List.mem_map.1 h
    exact Registry.exists_of_mem_runScenarios hrun

theorem exists_of_mem_chronicle {s : Session σ} {calls : List Call} {m : String × ScenarioRun}
    (h : m ∈ s.chronicle calls) :
    ∃ (r : Registry σ) (scenario : Scenario), m.2 = (r.runScenario scenario).value := by
  induction calls generalizing s with
  | nil => cases h
  | cons c calls ih =>
    rcases List.mem_append.1 h with h | h
    · exact exists_of_mem_runsOf h
    · exact ih h

theorem scenarioRecords_call (s : Session σ) (c : Call) : scenarioRecords (s.call c).records =
    scenarioRecords s.records ++ (runsOf s.registry c).map fun m => m.2.record m.1 := by
  have hfeature (f : Feature) :
      scenarioRecords (s.records ++
          [⟨f.name, (s.registry.runScenarios f.scenarios).value.map (·.record f.name)⟩]) =
        scenarioRecords s.records ++
          ((s.registry.runScenarios f.scenarios).value.map (f.name, ·)).map fun m =>
            m.2.record m.1 := by
    rw [scenarioRecords, List.flatMap_append, List.flatMap_singleton, List.map_map]
    rfl
  cases c with
  | step step optOut => exact (List.append_nil _).symm
  | scenario name scenario =>
    rw [records_scenario]
    exact scenarioRecords_file _ s.records
  | feature f =>
    rw [records_feature]
    exact hfeature f
  | test f =>
    rw [records_test]
    exact hfeature f

theorem scenarioRecords_run (s : Session σ) (calls : List Call) :
    scenarioRecords (s.run calls).records =
      scenarioRecords s.records ++ (s.chronicle calls).map fun m => m.2.record m.1 := by
  unfold run
  induction calls generalizing s with
  | nil => exact (List.append_nil _).symm
  | cons c calls ih =>
    rw [List.foldl_cons, ih, scenarioRecords_call, chronicle, List.map_append, List.append_assoc]

theorem run_append (s : Session σ) (calls more : List Call) :
    s.run (calls ++ more) = (s.run calls).run more := List.foldl_append

/-- One more record behind those of the session tells of the runs of all scenarios of the feature. -/
def FilesFeature (s after : Session σ) (f : Feature) : Prop :=
  ∃ record, after.records = s.records ++ [record] ∧
    record.Tells f (s.registry.runScenarios f.scenarios).value

/-- What the records of a session are, if it has made the runs of scenarios and no other ones, and what
becomes of them with the next call. -/
structure Filed (s : Session σ) (made : List (String × ScenarioRun)) : Prop where
  chronicle : List.Forall₂ (fun m record => record.Tells m.1 m.2) made (scenarioRecords s.records)
  names : ∀ f ∈ s.records, ∀ r ∈ f.scenarios, r.featureName = f.name
  step : ∀ step optOut, (s.call (.step step optOut)).records = s.records
  scenario : ∀ name scenario, ∃ record : ScenarioRecord,
    record.Tells name (s.registry.runScenario scenario).value ∧
    record.outcome = (s.suite.testScenario s.registry name scenario).2.value ∧
    FeatureRecord.Adds record s.records (s.call (.scenario name scenario)).records
  feature : ∀ f, s.FilesFeature (s.call (.feature f)) f
  test : ∀ f, s.FilesFeature (s.call (.test f)) f

theorem filesFeature_of_records {s after : Session σ} {f : Feature} (h : after.records =
    s.records ++ [⟨f.name, (s.registry.runScenarios f.scenarios).value.map (·.record f.name)⟩]) :
    s.FilesFeature after f :=
  ⟨_, h, FeatureRecord.tells_runScenarios s.registry f⟩

/-- Whatever calls are made of a fresh suite, its records tell of each run of a scenario once and in
order, with the feature that it was run for. The runs are those of the scenarios that the calls ask for,
and calls that follow change no record but the last. -/
theorem filed_run (config : Config) (r : Registry σ) (calls more : List Call) :
    ((fresh config r).run calls).Filed ((fresh config r).chronicle calls) ∧
      ((fresh config r).chronicle calls).map (fun m => (m.1, m.2.scenario)) =
        calls.flatMap scenariosOf ∧
      ((fresh config r).run calls).records.dropLast <+:
        ((fresh config r).run (calls ++ more)).records := by
  have hfresh : FeatureRecord.NamesAgree (fresh config r).records :=
    fun _ hf => absurd hf List.not_mem_nil
  refine ⟨?_, map_chronicle _ calls, ?_⟩
  · refine {
      chronicle := ?_
      names := kept_run Suite.kept_namesAgree hfresh calls
      step := fun _ _ => rfl
      scenario := ?_
      feature := fun f => filesFeature_of_records (records_feature _ f)
      test := fun f => filesFeature_of_records (records_test _ f) }
    · have hrecords : scenarioRecords ((fresh config r).run calls).records =
          ((fresh config r).chronicle calls).map fun m => m.2.record m.1 :=
        scenarioRecords_run (fresh config r) calls
      rw [hrecords, List.forall₂_map_right_iff, List.forall₂_same]
      intro m hm
      obtain ⟨r', scenario, heq⟩ := exists_of_mem_chronicle hm
      rw [heq]
      exact r'.tells_runScenario scenario m.1
    · intro name scenario
      generalize (fresh config r).run calls = s
      refine ⟨_, s.registry.tells_runScenario scenario name, rfl, ?_⟩
      rw [records_scenario]
      exact FeatureRecord.adds_file _ s.records
  · have hrefl := FeatureRecord.keeps_refl ((fresh config r).run calls).records
    have hkeeps := kept_run (Suite.kept_keeps ((fresh config r).run calls).records) hrefl more
    rw [run_append]
    exact hkeeps.settled

end Session
end Acceptance
