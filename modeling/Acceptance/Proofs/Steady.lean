import Acceptance.Proofs.Calls

/-!
Registries whose actions do not look at the state that they share. Such a registry answers a step by its
text alone, so what it makes of steps, scenarios and features does not depend on what ran before.
-/
namespace Acceptance

/-- What each text has: nothing, if no definition is one for it, or the result of its action. -/
abbrev Answers := String → Option (Except StepError Unit)

namespace Answers

def found (answer : Option (Except StepError Unit)) (optOut : Bool) : Match :=
  match answer, optOut with
  | none, _ => .unmatched
  | some _, true => .optedOut
  | some result, false => .executed result

def runStep (f : Answers) (step : Step) (optOut : Bool) : StepRun :=
  .ofMatch step (found (f step.description) optOut)

def runSteps (f : Answers) (optOut : Bool) : List Step → List StepRun
  | [] => []
  | step :: more =>
    f.runStep step optOut ::
      f.runSteps (optOut || !(f.runStep step optOut).outcome.isSuccess) more

def runScenario (f : Answers) (scenario : Scenario) : ScenarioRun :=
  ⟨scenario, f.runSteps false scenario.steps⟩

/-- The records of all scenarios of the features. -/
def records (f : Answers) (features : List Feature) : List ScenarioRecord :=
  features.flatMap fun feature => feature.scenarios.map fun scenario =>
    (f.runScenario scenario).record feature.name

/-- Runs of the steps of all scenarios of the features. -/
def stepRuns (f : Answers) (features : List Feature) : List StepRun :=
  features.flatMap fun feature => feature.scenarios.flatMap fun scenario =>
    f.runSteps false scenario.steps

end Answers

namespace Registry

variable {σ : Type} {r : Registry σ} {f : Answers}

/-- The results of the actions depend on nothing but their arguments. -/
def Steady (r : Registry σ) : Prop := ∀ d ∈ r.definitions, ∀ (args : Args) (state state' : σ),
  (d.action args state).1.result = (d.action args state').1.result

/-- Whatever its state is, the registry gives the answers. -/
def Gives (r : Registry σ) (f : Answers) : Prop := ∀ text state,
  (r.definitions.find? (·.covers text)).map
    (fun d => (d.action (d.pattern.captures text) state).1.result) = f text

theorem Steady.exists_gives (h : r.Steady) : ∃ f, r.Gives f := by
  refine ⟨fun text => (r.definitions.find? (·.covers text)).map
    fun d => (d.action (d.pattern.captures text) r.state).1.result, fun text state => ?_⟩
  dsimp only
  cases hfind : r.definitions.find? (·.covers text) with
  | none => rfl
  | some d => exact congrArg some (h d (List.mem_of_find?_eq_some hfind) _ state r.state)

theorem map_snd_select (r : Registry σ) (text : String) :
    (r.select text).map Prod.snd = r.definitions.find? (·.covers text) := by
  have hfst : r.definitions.zipIdx.map Prod.fst = r.definitions := List.zipIdx_map_fst 0 _
  calc (r.select text).map Prod.snd
      = (r.definitions.zipIdx.find? (·.1.covers text)).map Prod.fst := by
        rw [select, Option.map_map]
        rfl
    _ = (r.definitions.zipIdx.map Prod.fst).find? (·.covers text) := by
        rw [List.find?_map]
        rfl
    _ = r.definitions.find? (·.covers text) := by rw [hfst]

/-- A definition as it was registered. -/
def unmark (d : Definition σ) : Definition σ := { d with used := false }

theorem gives_of_unmark_eq (h : r.Gives f) {r' : Registry σ}
    (hr : r'.definitions.map unmark = r.definitions.map unmark) : r'.Gives f := by
  intro text state
  have hfind (ds : List (Definition σ)) :
      (ds.find? (·.covers text)).map (fun d => (d.action (d.pattern.captures text) state).1.result) =
        ((ds.map unmark).find? (·.covers text)).map
          fun d => (d.action (d.pattern.captures text) state).1.result := by
    rw [List.find?_map, Option.map_map]
    rfl
  rw [hfind, hr, ← hfind]
  exact h text state

theorem unmark_markUsed (r : Registry σ) (i : Nat) :
    (r.markUsed i).definitions.map unmark = r.definitions.map unmark := by
  refine List.ext_getElem? fun j => ?_
  rw [markUsed, List.getElem?_map, List.getElem?_map, List.getElem?_modify]
  split
  · cases r.definitions[j]? <;> rfl
  · cases r.definitions[j]? <;> rfl

theorem Gives.find (h : r.Gives f) (text : String) (optOut : Bool) :
    (r.find text optOut).value = Answers.found (f text) optOut ∧
      (r.find text optOut).registry.Gives f := by
  have hselect := r.map_snd_select text
  have hanswer := h text r.state
  rw [← hselect] at hanswer
  unfold Registry.find
  cases hfound : r.select text with
  | none =>
    rw [hfound] at hanswer
    rw [← hanswer]
    exact ⟨rfl, h⟩
  | some found =>
    obtain ⟨i, d⟩ := found
    rw [hfound] at hanswer
    have hmark := gives_of_unmark_eq h (r.unmark_markUsed i)
    rw [← hanswer]
    cases optOut with
    | true => exact ⟨rfl, hmark⟩
    | false => exact ⟨rfl, hmark⟩

theorem Gives.runStep (h : r.Gives f) (step : Step) (optOut : Bool) :
    (r.runStep step optOut).value = f.runStep step optOut ∧
      (r.runStep step optOut).registry.Gives f := by
  obtain ⟨hvalue, hregistry⟩ := h.find step.description optOut
  refine ⟨?_, hregistry⟩
  rw [Answers.runStep, ← hvalue]
  rfl

theorem Gives.runSteps (h : r.Gives f) (optOut : Bool) (steps : List Step) :
    (r.runSteps optOut steps).value = f.runSteps optOut steps ∧
      (r.runSteps optOut steps).registry.Gives f := by
  induction steps generalizing r optOut with
  | nil => exact ⟨rfl, h⟩
  | cons step steps ih =>
    obtain ⟨hvalue, hregistry⟩ := h.runStep step optOut
    obtain ⟨hrest, hlast⟩ := ih hregistry (optOut || !(f.runStep step optOut).outcome.isSuccess)
    rw [Registry.runSteps, Answers.runSteps]
    dsimp only
    rw [hvalue, hrest]
    exact ⟨rfl, hlast⟩

theorem Gives.runScenarios (h : r.Gives f) (scenarios : List Scenario) :
    (r.runScenarios scenarios).value = scenarios.map f.runScenario ∧
      (r.runScenarios scenarios).registry.Gives f := by
  induction scenarios generalizing r with
  | nil => exact ⟨rfl, h⟩
  | cons scenario scenarios ih =>
    obtain ⟨hvalue, hregistry⟩ := h.runSteps false scenario.steps
    obtain ⟨hrest, hlast⟩ := ih (r := (r.runScenario scenario).registry) hregistry
    rw [Registry.runScenarios, List.map_cons]
    simp only [hrest]
    refine ⟨?_, hlast⟩
    rw [Registry.runScenario, Answers.runScenario, ← hvalue]

end Registry

namespace Suite

theorem scenarioRecords_addFeature (s : Suite) (name : String) (runs : List ScenarioRun) :
    scenarioRecords (s.addFeature name runs).records =
      scenarioRecords s.records ++ runs.map (·.record name) := by
  rw [records_addFeature, scenarioRecords, List.flatMap_append, List.flatMap_singleton]
  rfl

theorem snippets_tallyFeature (s : Suite) (status : Status) :
    (s.tallyFeature status).snippets = s.snippets := by
  rw [tallyFeature]
  split <;> rfl

theorem mem_insertSnippet {x s : String} {snippets : List String} :
    x ∈ insertSnippet s snippets ↔ s = x ∨ x ∈ snippets := by
  induction snippets with
  | nil => simp [insertSnippet, eq_comm]
  | cons t ts ih =>
    rw [insertSnippet]
    split
    · simp [eq_comm]
    · split
      next heq => simp [heq, eq_comm]
      next =>
        rw [List.mem_cons, List.mem_cons, ih]
        exact or_left_comm

theorem mem_snippets_addStep {s : Suite} {run : StepRun} {x : String} :
    x ∈ (s.addStep run).snippets ↔ x ∈ s.snippets ∨ run.snippet? = some x := by
  unfold addStep
  cases run.snippet? with
  | none => simp [countStep]
  | some snippet =>
    refine mem_insertSnippet.trans ?_
    rw [Option.some.injEq]
    exact or_comm

theorem mem_snippets_addSteps {s : Suite} {runs : List StepRun} {x : String} :
    x ∈ (runs.foldl addStep s).snippets ↔ x ∈ s.snippets ∨ ∃ run ∈ runs, run.snippet? = some x := by
  induction runs generalizing s with
  | nil => simp
  | cons run runs ih =>
    rw [List.foldl_cons, ih, mem_snippets_addStep, or_assoc]
    simp only [List.mem_cons, exists_eq_or_imp]

theorem mem_snippets_addFeature {s : Suite} {name : String} {runs : List ScenarioRun} {x : String} :
    x ∈ (s.addFeature name runs).snippets ↔
      x ∈ s.snippets ∨ ∃ run ∈ runs.flatMap (·.steps), run.snippet? = some x := by
  induction runs using List.reverseRecOn with
  | nil => simp [addFeature, beginFeature]
  | append_singleton runs run ih =>
    rw [addFeature_concat, snippets_tallyFeature, List.flatMap_append, List.flatMap_singleton]
    refine mem_snippets_addSteps.trans ?_
    rw [ih, or_assoc]
    simp only [List.mem_append, or_and_right, exists_or]

end Suite

namespace Session

variable {σ : Type}

/-- Features that are run one after the other leave the records and the stubs that the answers of the
registry make. -/
theorem run_features {s : Session σ} {f : Answers} (h : s.registry.Gives f) (features : List Feature) :
    (s.run (features.map .feature)).registry.Gives f ∧
      scenarioRecords (s.run (features.map .feature)).records =
        scenarioRecords s.records ++ f.records features ∧
      ∀ x, x ∈ (s.run (features.map .feature)).suite.snippets ↔
        x ∈ s.suite.snippets ∨ ∃ run ∈ f.stepRuns features, run.snippet? = some x := by
  induction features generalizing s with
  | nil => exact ⟨h, by simp [run, Answers.records], by simp [run, Answers.stepRuns]⟩
  | cons feature features ih =>
    obtain ⟨hvalue, hregistry⟩ := h.runScenarios feature.scenarios
    have hsuite : (s.call (.feature feature)).suite =
        s.suite.addFeature feature.name (feature.scenarios.map f.runScenario) := by
      rw [← hvalue]
      rfl
    obtain ⟨hgives, hrecords, hsnippets⟩ := ih (s := s.call (.feature feature)) hregistry
    refine ⟨hgives, ?_, fun x => ?_⟩
    · have hfirst : scenarioRecords (s.call (.feature feature)).records = scenarioRecords s.records ++
          feature.scenarios.map fun scenario => (f.runScenario scenario).record feature.name := by
        rw [records, hsuite, Suite.scenarioRecords_addFeature, List.map_map]
        rfl
      rw [hfirst, List.append_assoc] at hrecords
      exact hrecords
    · have hfirst : x ∈ (s.call (.feature feature)).suite.snippets ↔ x ∈ s.suite.snippets ∨
          ∃ run ∈ feature.scenarios.flatMap fun scenario => f.runSteps false scenario.steps,
            run.snippet? = some x := by
        rw [hsuite, Suite.mem_snippets_addFeature, List.flatMap_map]
        rfl
      refine (hsnippets x).trans ?_
      have hruns : f.stepRuns (feature :: features) =
          (feature.scenarios.flatMap fun scenario => f.runSteps false scenario.steps) ++
            f.stepRuns features := rfl
      rw [hfirst, hruns, or_assoc]
      simp only [List.mem_append, or_and_right, exists_or]

end Session
end Acceptance
