import Acceptance.Proofs.Course
import Acceptance.Proofs.StubMatching
import Acceptance.Proofs.StubText

/-!
Stubs that a run has collected, registered as definitions. When the features are run once more, every
step has a definition, what was defined before goes as before, and what was undefined is pending.
-/
namespace Acceptance

namespace Outcome

/-- The outcome after stubs have been registered. -/
def implemented : Outcome → Outcome
  | notImplemented _ => pending "Not implemented"
  | o => o

end Outcome

namespace Answers

variable {f g : Answers}

/-- The answer for a text when it is pending unless it is given. -/
def Completed (f g : Answers) (text : String) : Prop :=
  g text = some ((f text).getD (.error (.pending "Not implemented")))

/-- Steps that are to be skipped are no worse than undefined. -/
theorem severity_skipped (f : Answers) (steps : List Step) :
    ∀ o ∈ (f.runSteps true steps).map (·.outcome), o.severity ≤ 1 := by
  induction steps with
  | nil => simp [runSteps]
  | cons step steps ih =>
    rw [runSteps, Bool.true_or, List.map_cons]
    refine List.forall_mem_cons.2 ⟨?_, ih⟩
    unfold runStep
    cases f step.description with
    | none => exact Nat.le_refl 1
    | some result => exact Nat.zero_le 1

/-- A step that does not succeed decides how the scenario ends. -/
theorem worst_of_severe (f : Answers) {step : Step} {a : Outcome}
    (ha : (f.runStep step false).outcome = a) (hsevere : 0 < a.severity) (steps : List Step) :
    Outcome.worst ((f.runSteps false (step :: steps)).map (·.outcome)) = a := by
  have hfails : a.isSuccess = false := by
    cases a with
    | success => exact absurd hsevere (Nat.lt_irrefl 0)
    | pending _ | notImplemented _ | failure _ => rfl
  have hne : a ≠ .success := by
    rintro rfl
    exact absurd hsevere (Nat.lt_irrefl 0)
  rw [runSteps, List.map_cons, ha, hfails]
  exact Outcome.worst_cons_of_ne_success hne (f.severity_skipped steps)

theorem worst_of_success (f : Answers) {step : Step}
    (h : (f.runStep step false).outcome = .success) (steps : List Step) :
    Outcome.worst ((f.runSteps false (step :: steps)).map (·.outcome)) =
      Outcome.worst ((f.runSteps false steps).map (·.outcome)) := by
  rw [runSteps, List.map_cons, h]
  rfl

theorem outcome_runStep {step : Step} {result : Except StepError Unit}
    (h : f step.description = some result) :
    (f.runStep step false).outcome = .ofResult result := by
  rw [runStep, h]
  rfl

theorem worst_runSteps {steps : List Step} (h : ∀ step ∈ steps, Completed f g step.description) :
    Outcome.worst ((g.runSteps false steps).map (·.outcome)) =
      (Outcome.worst ((f.runSteps false steps).map (·.outcome))).implemented := by
  induction steps with
  | nil => rfl
  | cons step steps ih =>
    obtain ⟨hstep, hsteps⟩ := List.forall_mem_cons.1 h
    have hg := outcome_runStep hstep
    -- The first step that does not succeed is the same one for both answers, and decides for both.
    cases hf : f step.description with
    | none =>
      have hundefined : (f.runStep step false).outcome = .notImplemented step := by
        rw [runStep, hf]
        rfl
      rw [hf] at hg
      rw [f.worst_of_severe hundefined Nat.one_pos, g.worst_of_severe hg Nat.two_pos]
      rfl
    | some result =>
      rw [hf, Option.getD_some] at hg
      cases result with
      | ok _ =>
        rw [f.worst_of_success (outcome_runStep hf), g.worst_of_success hg]
        exact ih hsteps
      | error e =>
        have hsevere : 0 < (Outcome.ofResult (.error e)).severity := by
          cases e <;> exact Nat.succ_pos _
        rw [f.worst_of_severe (outcome_runStep hf) hsevere, g.worst_of_severe hg hsevere]
        cases e <;> rfl

theorem status_runSteps_ne {steps : List Step} (h : ∀ step ∈ steps, g step.description ≠ none)
    (optOut : Bool) : ∀ run ∈ g.runSteps optOut steps, run.status ≠ .undefined := by
  induction steps generalizing optOut with
  | nil => simp [runSteps]
  | cons step steps ih =>
    obtain ⟨hstep, hsteps⟩ := List.forall_mem_cons.1 h
    rw [runSteps]
    refine List.forall_mem_cons.2 ⟨?_, ih hsteps _⟩
    unfold runStep
    cases hg : g step.description with
    | none => exact absurd hg hstep
    | some result =>
      cases optOut with
      | true => simp [found, StepRun.ofMatch]
      | false => exact Outcome.status_ofResult_ne result

end Answers

/-- The action of a stub. -/
def notImplemented {σ : Type} : Action σ :=
  fun _ state => (.returned (.error (.pending "Not implemented")), state)

namespace Registry

variable {σ : Type}

/-- Registers stubs, each with its keyword and its pattern. -/
def paste (r : Registry σ) (stubs : List (Keyword × String)) : Registry σ :=
  stubs.foldl (fun r stub => (r.register stub.1 stub.2 notImplemented).registry) r

/-- The definition that is registered for a stub, if its pattern compiles. -/
def stubDefinition? (stub : Keyword × String) : Option (Definition σ) :=
  match Pattern.compile stub.2 with
  | .error _ => none
  | .ok pattern => some { keyword := stub.1, pattern, action := notImplemented }

theorem definitions_paste (r : Registry σ) (stubs : List (Keyword × String)) :
    (r.paste stubs).definitions = r.definitions ++ stubs.filterMap stubDefinition? := by
  unfold paste
  induction stubs generalizing r with
  | nil => exact (List.append_nil _).symm
  | cons stub stubs ih =>
    rw [List.foldl_cons, ih]
    unfold register
    cases hcompile : Pattern.compile stub.2 with
    | error e =>
      have hnone : stubDefinition? (σ := σ) stub = none := by rw [stubDefinition?, hcompile]
      rw [List.filterMap_cons_none hnone]
    | ok p =>
      have hsome : stubDefinition? stub =
          some ({ keyword := stub.1, pattern := p, action := notImplemented } : Definition σ) := by
        rw [stubDefinition?, hcompile]
      rw [List.filterMap_cons_some hsome]
      exact List.append_assoc _ [_] _

theorem action_of_mem_stubs {d : Definition σ} {stubs : List (Keyword × String)}
    (h : d ∈ stubs.filterMap stubDefinition?) : d.action = notImplemented := by
  obtain ⟨stub, -, hd⟩ := List.mem_filterMap.1 h
  unfold stubDefinition? at hd
  split at hd
  · cases hd
  · rw [← Option.some.inj hd]

/-- Whether the stub is one for the text. -/
def stubCovers (stub : Keyword × String) (text : String) : Bool :=
  match Pattern.compile stub.2 with
  | .error _ => false
  | .ok p => p.isMatch text

theorem any_stubCovers_iff {stubs : List (Keyword × String)} {text : String} :
    stubs.any (stubCovers · text) = true ↔
      ∃ d ∈ stubs.filterMap (stubDefinition? (σ := σ)), d.covers text = true := by
  simp only [List.any_eq_true, List.mem_filterMap]
  constructor
  · rintro ⟨stub, hmem, hcovers⟩
    unfold stubCovers at hcovers
    split at hcovers
    next => cases hcovers
    next p hcompile =>
      exact ⟨{ keyword := stub.1, pattern := p, action := notImplemented },
        ⟨stub, hmem, by rw [stubDefinition?, hcompile]⟩, hcovers⟩
  · rintro ⟨d, ⟨stub, hmem, hd⟩, hcovers⟩
    refine ⟨stub, hmem, ?_⟩
    unfold stubDefinition? at hd
    unfold stubCovers
    split at hd
    next => cases hd
    next p hcompile =>
      obtain rfl := Option.some.inj hd
      exact hcovers

/-- Answers after stubs have been pasted: what there was no answer for is pending where a stub is one for
it. -/
def pasted (f : Answers) (stubs : List (Keyword × String)) : Answers := fun text => (f text).or
  (if stubs.any (stubCovers · text) then some (.error (.pending "Not implemented")) else none)

theorem Gives.paste {r : Registry σ} {f : Answers} (h : r.Gives f) (stubs : List (Keyword × String)) :
    (r.paste stubs).Gives (pasted f stubs) := by
  intro text state
  rw [pasted, definitions_paste, List.find?_append, Option.map_or, h text state]
  refine congrArg (f text).or ?_
  cases hfind : (stubs.filterMap (stubDefinition? (σ := σ))).find? (·.covers text) with
  | none =>
    have hnone : ¬ stubs.any (stubCovers · text) = true := by
      intro hany
      obtain ⟨d, hd, hcovers⟩ := any_stubCovers_iff.1 hany
      exact List.find?_eq_none.1 hfind d hd hcovers
    rw [if_neg hnone]
    rfl
  | some d =>
    have hmem := List.mem_of_find?_eq_some hfind
    have hcovers : d.covers text = true := by simpa using List.find?_some hfind
    have hany := any_stubCovers_iff.2 ⟨d, hmem, hcovers⟩
    rw [if_pos hany, Option.map_some, action_of_mem_stubs hmem]
    rfl

end Registry

namespace Answers

variable {f g : Answers}

theorem exists_snippet {steps : List Step} {step : Step} (hstep : step ∈ steps)
    (h : f step.description = none) (optOut : Bool) :
    ∃ run ∈ f.runSteps optOut steps, run.snippet? = some step.snippet := by
  induction steps generalizing optOut with
  | nil => cases hstep
  | cons first steps ih =>
    rcases List.mem_cons.1 hstep with rfl | hstep
    · refine ⟨f.runStep step optOut, List.mem_cons_self, ?_⟩
      rw [runStep, h]
      rfl
    · obtain ⟨run, hrun, hsnippet⟩ := ih hstep
        (optOut || !(f.runStep first optOut).outcome.isSuccess)
      exact ⟨run, List.mem_cons_of_mem _ hrun, hsnippet⟩

end Answers

/-- What becomes of the record of a scenario when stubs have been registered. -/
structure ScenarioRecord.Implemented (a b : ScenarioRecord) : Prop where
  featureName : b.featureName = a.featureName
  name : b.name = a.name
  line : b.line = a.line
  kept : a.status ≠ .undefined → b.status = a.status ∧ b.message = a.message
  stubbed : a.status = .undefined → b.outcome = .pending "Not implemented"

theorem implemented_of_outcome {a b : ScenarioRecord} (hfeature : b.featureName = a.featureName)
    (hname : b.name = a.name) (hline : b.line = a.line) (h : b.outcome = a.outcome.implemented) :
    a.Implemented b := by
  refine ⟨hfeature, hname, hline, fun hstatus => ?_, fun hstatus => ?_⟩
  · have hkept : a.outcome.implemented = a.outcome := by
      unfold ScenarioRecord.status at hstatus
      cases ha : a.outcome with
      | notImplemented step =>
        rw [ha] at hstatus
        exact absurd rfl hstatus
      | success | pending _ | failure _ => rfl
    rw [hkept] at h
    exact ⟨congrArg Outcome.status h, by rw [ScenarioRecord.message, ScenarioRecord.message, h]⟩
  · unfold ScenarioRecord.status at hstatus
    rw [h]
    cases ha : a.outcome with
    | notImplemented step => rfl
    | success | pending _ | failure _ =>
      rw [ha] at hstatus
      cases hstatus

theorem status_ne_of_implemented {as bs : List ScenarioRecord}
    (h : List.Forall₂ ScenarioRecord.Implemented as bs) : ∀ b ∈ bs, b.status ≠ .undefined := by
  induction h with
  | nil => simp
  | @cons a b as bs hab _ ih =>
    refine List.forall_mem_cons.2 ⟨?_, ih⟩
    by_cases ha : a.status = .undefined
    · rw [ScenarioRecord.status, hab.stubbed ha]
      decide
    · rw [(hab.kept ha).1]
      exact ha

namespace Answers

variable {f g : Answers}

/-- The steps of the features. -/
def stepsOf (features : List Feature) : List Step :=
  features.flatMap fun feature => feature.scenarios.flatMap (·.steps)

theorem implemented_records {features : List Feature}
    (h : ∀ step ∈ stepsOf features, Completed f g step.description) :
    List.Forall₂ ScenarioRecord.Implemented (f.records features) (g.records features) := by
  induction features with
  | nil => exact .nil
  | cons feature features ih =>
    rw [stepsOf, List.flatMap_cons, List.forall_mem_append] at h
    obtain ⟨hfirst, hrest⟩ := h
    refine List.rel_append ?_ (ih hrest)
    dsimp only
    rw [List.forall₂_map_left_iff, List.forall₂_map_right_iff, List.forall₂_same]
    intro scenario hscenario
    have hsteps : ∀ step ∈ scenario.steps, Completed f g step.description := fun step hstep =>
      hfirst step (List.mem_flatMap.2 ⟨scenario, hscenario, hstep⟩)
    exact implemented_of_outcome rfl rfl rfl (worst_runSteps hsteps)

theorem status_records_ne {features : List Feature}
    (h : ∀ step ∈ stepsOf features, g step.description ≠ none) :
    ∀ s ∈ (g.records features).flatMap (·.steps), s.status ≠ .undefined := by
  intro s hs
  obtain ⟨r, hr, hs⟩ := List.mem_flatMap.1 hs
  obtain ⟨feature, hfeature, hr⟩ := List.mem_flatMap.1 hr
  obtain ⟨scenario, hscenario, rfl⟩ := List.mem_map.1 hr
  obtain ⟨run, hrun, rfl⟩ := List.mem_map.1 hs
  refine status_runSteps_ne (fun step hstep => h step ?_) false run hrun
  exact List.mem_flatMap.2 ⟨feature, hfeature, List.mem_flatMap.2 ⟨scenario, hscenario, hstep⟩⟩

/-- If each stub that the features leave is pasted, each of their steps has an answer. -/
theorem completed_pasted {features : List Feature} {stubs : List (Keyword × String)}
    (hstubs : ∀ run ∈ f.stepRuns features, ∀ x, run.snippet? = some x →
      ∃ stub ∈ stubs, stubText stub.1 stub.2 = x)
    (hsize : ∀ stub ∈ stubs, Pattern.compile stub.2 ≠ .error ⟨stub.2, .oversized⟩) :
    ∀ step ∈ stepsOf features, Completed f (Registry.pasted f stubs) step.description := by
  intro step hstep
  obtain ⟨feature, hfeature, hstep⟩ := List.mem_flatMap.1 hstep
  obtain ⟨scenario, hscenario, hstep⟩ := List.mem_flatMap.1 hstep
  rw [Completed, Registry.pasted]
  cases hf : f step.description with
  | some result => rfl
  | none =>
    obtain ⟨run, hrun, hsnippet⟩ := exists_snippet hstep hf false
    have hmem : run ∈ f.stepRuns features :=
      List.mem_flatMap.2 ⟨feature, hfeature, List.mem_flatMap.2 ⟨scenario, hscenario, hrun⟩⟩
    obtain ⟨stub, hstub, htext⟩ := hstubs run hmem step.snippet hsnippet
    rw [Step.snippet_eq] at htext
    have hpattern : stub.2 = Description.pattern step.description := (stubText_inj.1 htext).2
    have hnot := hsize stub hstub
    rw [hpattern] at hnot
    obtain ⟨p, hcompile, hmatch⟩ := Pattern.exists_compile_pattern step.description hnot
    have hcovers : Registry.stubCovers stub step.description = true := by
      rw [Registry.stubCovers, hpattern, hcompile]
      exact (hmatch _).2 (Description.variant_refl _)
    have hany : stubs.any (Registry.stubCovers · step.description) = true :=
      List.any_eq_true.2 ⟨stub, hstub, hcovers⟩
    rw [if_pos hany]
    rfl

end Answers

namespace Session

variable {σ : Type}

/-- Pasting the stubs closes the loop: if the actions of a registry look at nothing but their arguments,
and one definition for each stub that the features have left is registered, in whatever order, then the
same features leave no step and no scenario undefined in a new suite, what was undefined is pending, and
every other scenario ends as before. -/
theorem run_paste (config config' : Config) (r : Registry σ) (hsteady : r.Steady)
    (features : List Feature) (stubs : List (Keyword × String))
    (hstubs : (stubs.map fun stub => stubText stub.1 stub.2).Perm
      ((fresh config r).run (features.map .feature)).suite.snippets)
    (hsize : ∀ stub ∈ stubs, Pattern.compile stub.2 ≠ .error ⟨stub.2, .oversized⟩) :
    let first := (fresh config r).run (features.map .feature)
    let second := (fresh config' (first.registry.paste stubs)).run (features.map .feature)
    (∀ s ∈ stepRecords second.records, s.status ≠ .undefined) ∧
      (∀ s ∈ scenarioRecords second.records, s.status ≠ .undefined) ∧
      List.Forall₂ ScenarioRecord.Implemented (scenarioRecords first.records)
        (scenarioRecords second.records) := by
  intro first second
  obtain ⟨f, hf⟩ := hsteady.exists_gives
  obtain ⟨hgives, hrecords, hsnippets⟩ := run_features (s := fresh config r) hf features
  obtain ⟨-, hrecords', -⟩ :=
    run_features (s := fresh config' (first.registry.paste stubs)) (hgives.paste stubs) features
  have hfound : ∀ run ∈ f.stepRuns features, ∀ x, run.snippet? = some x →
      ∃ stub ∈ stubs, stubText stub.1 stub.2 = x := by
    intro run hrun x hx
    have hmem := hstubs.mem_iff.2 ((hsnippets x).2 (.inr ⟨run, hrun, hx⟩))
    exact List.mem_map.1 hmem
  have hcompleted := Answers.completed_pasted hfound hsize
  have hsome : ∀ step ∈ Answers.stepsOf features,
      Registry.pasted f stubs step.description ≠ none := by
    intro step hstep hnone
    exact nomatch (hcompleted step hstep).symm.trans hnone
  have hpaired := Answers.implemented_records hcompleted
  have hfirst : scenarioRecords first.records = f.records features := hrecords
  have hsecond : scenarioRecords second.records = (Registry.pasted f stubs).records features :=
    hrecords'
  rw [stepRecords, hfirst, hsecond]
  exact ⟨Answers.status_records_ne hsome, status_ne_of_implemented hpaired, hpaired⟩

/-- A registry in which texts with an `x` pass and other ones with a `y` fail. -/
def sampleRegistry : Registry Unit where
  definitions := [
    ⟨.Given, ⟨"x", .one (.one 'x'), []⟩, fun _ state => (.returned (.ok ()), state), false⟩,
    ⟨.Then, ⟨"y", .one (.one 'y'), []⟩,
      fun _ state => (.returned (.error (.failure "no y")), state), false⟩]
  state := ()

/-- A feature with scenarios that are undefined, fail and pass. -/
def sampleFeature : Feature where
  name := "Samples"
  scenarios := [
    ⟨"first", [⟨.Given, "an x", 3⟩, ⟨.When, "I take \"3\"", 4⟩, ⟨.Then, "why", 5⟩], 2⟩,
    ⟨"second", [⟨.Given, "why", 7⟩, ⟨.When, "I take \"-4\"", 8⟩], 6⟩,
    ⟨"third", [⟨.Given, "an x", 10⟩], 9⟩]

theorem run_paste_sample :
    let stubs := [(Keyword.When, Description.pattern "I take \"12\"")]
    let first := (fresh {} sampleRegistry).run ([sampleFeature].map .feature)
    let second := (fresh {} (first.registry.paste stubs)).run ([sampleFeature].map .feature)
    (∀ s ∈ stepRecords second.records, s.status ≠ .undefined) ∧
      (∀ s ∈ scenarioRecords second.records, s.status ≠ .undefined) ∧
      List.Forall₂ ScenarioRecord.Implemented (scenarioRecords first.records)
        (scenarioRecords second.records) := by
  have hsteady : sampleRegistry.Steady := by
    intro d hd args state state'
    simp only [sampleRegistry, List.mem_cons, List.not_mem_nil, or_false] at hd
    rcases hd with rfl | rfl <;> rfl
  have hsnippets : ((fresh {} sampleRegistry).run ([sampleFeature].map .feature)).suite.snippets =
      [stubText .When (Description.pattern "I take \"12\"")] := by decide +kernel
  have hok : (Pattern.compile (Description.pattern "I take \"12\"")).isOk = true := by decide +kernel
  refine run_paste {} {} sampleRegistry hsteady [sampleFeature]
    [(.When, Description.pattern "I take \"12\"")] ?_ ?_
  · rw [hsnippets]
    exact .refl _
  · intro stub hstub herror
    rw [List.mem_singleton.1 hstub] at herror
    rw [herror] at hok
    cases hok

end Session
end Acceptance
