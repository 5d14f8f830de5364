import Acceptance.Proofs.Chronicle
import Acceptance.Proofs.Masks
import Acceptance.Proofs.Steady
import Acceptance.Report.Summary
import Mathlib.Data.String.Basic

/-!
The stubs that a suite collects: one for each shape of the steps that ended undefined in a scenario, in
ascending order.
-/
namespace Acceptance

namespace StepRun

/-- A step has a stub just if it ended undefined, and that is its own. -/
theorem snippet?_ofMatch (step : Step) (m : Match) : (ofMatch step m).snippet? =
    if (ofMatch step m).status = .undefined then some step.snippet else none := by
  cases m with
  | unmatched => rfl
  | optedOut => rfl
  | executed result =>
    cases result with
    | ok _ => rfl
    | error e => cases e <;> rfl

end StepRun

namespace Registry

variable {σ : Type}

theorem exists_ofMatch_of_mem_runSteps {r : Registry σ} {optOut : Bool} {steps : List Step}
    {run : StepRun} (h : run ∈ (r.runSteps optOut steps).value) :
    ∃ (step : Step) (m : Match), run = .ofMatch step m := by
  induction steps generalizing r optOut with
  | nil => cases h
  | cons step steps ih =>
    rcases List.mem_cons.1 h with rfl | h
    · exact ⟨step, (r.find step.description optOut).value, rfl⟩
    · exact ih h

end Registry

namespace Suite

/-- The texts are in strictly ascending order. -/
def Ascending (texts : List String) : Prop := texts.Pairwise (· < ·)

theorem ascending_insertSnippet {texts : List String} (h : Ascending texts) (s : String) :
    Ascending (insertSnippet s texts) := by
  induction texts with
  | nil => exact List.pairwise_singleton _ s
  | cons t ts ih =>
    obtain ⟨ht, hts⟩ := List.pairwise_cons.1 h
    rw [insertSnippet]
    split
    next hst =>
      refine List.pairwise_cons.2 ⟨?_, h⟩
      intro u hu
      rcases List.mem_cons.1 hu with rfl | hu
      · exact hst
      · exact String.lt_trans hst (ht u hu)
    next hst =>
      split
      next => exact h
      next hne =>
        refine List.pairwise_cons.2 ⟨?_, ih hts⟩
        intro u hu
        rcases mem_insertSnippet.1 hu with rfl | hu
        · exact lt_of_le_of_ne (not_lt.1 hst) (Ne.symm hne)
        · exact ht u hu

theorem ascending_addSteps {s : Suite} (h : Ascending s.snippets) (runs : List StepRun) :
    Ascending (runs.foldl addStep s).snippets := by
  induction runs generalizing s with
  | nil => exact h
  | cons run runs ih =>
    refine ih ?_
    unfold addStep
    cases run.snippet? with
    | none => exact h
    | some snippet => exact ascending_insertSnippet h snippet

theorem kept_ascending : Kept fun s => Ascending s.snippets := by
  refine ⟨fun s status h => h, fun s name run h => ?_, fun s name h => h, fun s status h => ?_⟩
  · exact ascending_addSteps h run.steps
  · rwa [snippets_tallyFeature]

end Suite

/-- The steps that ended undefined in runs of scenarios. -/
def undefinedSteps (made : List (String × ScenarioRun)) : List Step :=
  ((made.flatMap (·.2.steps)).filter (·.status = .undefined)).map (·.step)

namespace Session

variable {σ : Type}

theorem mem_snippets_call (s : Session σ) (c : Call) (x : String) :
    x ∈ (s.call c).suite.snippets ↔ x ∈ s.suite.snippets ∨
      ∃ run ∈ (runsOf s.registry c).flatMap (·.2.steps), run.snippet? = some x := by
  have hfeature (f : Feature) :
      x ∈ (s.suite.addFeature f.name (s.registry.runScenarios f.scenarios).value).snippets ↔
        x ∈ s.suite.snippets ∨
          ∃ run ∈ (((s.registry.runScenarios f.scenarios).value.map (f.name, ·)).flatMap (·.2.steps)),
            run.snippet? = some x := by
    rw [List.flatMap_map]
    exact Suite.mem_snippets_addFeature
  cases c with
  | step step optOut => simp [runsOf, call, Suite.testStep, Suite.countStep]
  | scenario name scenario =>
    simp only [runsOf, List.flatMap_singleton]
    exact Suite.mem_snippets_addSteps
  | feature f => exact hfeature f
  | test f =>
    rw [suite_call_test]
    exact hfeature f

theorem mem_snippets_run (s : Session σ) (calls : List Call) (x : String) :
    x ∈ (s.run calls).suite.snippets ↔ x ∈ s.suite.snippets ∨
      ∃ run ∈ (s.chronicle calls).flatMap (·.2.steps), run.snippet? = some x := by
  unfold run
  induction calls generalizing s with
  | nil => simp [chronicle]
  | cons c calls ih =>
    rw [List.foldl_cons, ih, mem_snippets_call, chronicle, List.flatMap_append, or_assoc]
    simp only [List.mem_append, or_and_right, exists_or]

/-- The stubs of runs are those of their undefined steps. -/
theorem exists_snippet?_iff (s : Session σ) (calls : List Call) (x : String) :
    (∃ run ∈ (s.chronicle calls).flatMap (·.2.steps), run.snippet? = some x) ↔
      ∃ step ∈ undefinedSteps (s.chronicle calls), step.snippet = x := by
  have hrun : ∀ run ∈ (s.chronicle calls).flatMap (·.2.steps),
      run.snippet? = some x ↔ run.status = .undefined ∧ run.step.snippet = x := by
    intro run hrun
    obtain ⟨m, hm, hrun⟩ := List.mem_flatMap.1 hrun
    obtain ⟨r, scenario, heq⟩ := exists_of_mem_chronicle hm
    rw [heq] at hrun
    obtain ⟨step, found, rfl⟩ := Registry.exists_ofMatch_of_mem_runSteps hrun
    rw [StepRun.snippet?_ofMatch, StepRun.step_ofMatch]
    split
    next h => simp [h]
    next h => simp [h]
  constructor
  · rintro ⟨run, hmem, hx⟩
    obtain ⟨hstatus, hx⟩ := (hrun run hmem).1 hx
    exact ⟨run.step, List.mem_map.2 ⟨run, List.mem_filter.2 ⟨hmem, by simpa using hstatus⟩, rfl⟩, hx⟩
  · rintro ⟨step, hstep, hx⟩
    obtain ⟨run, hmem, rfl⟩ := List.mem_map.1 hstep
    obtain ⟨hmem, hstatus⟩ := List.mem_filter.1 hmem
    exact ⟨run, hmem, (hrun run hmem).2 ⟨by simpa using hstatus, hx⟩⟩

end Session

/-- The code points of a text. -/
def codes (s : String) : List Nat := s.toList.map Char.toNat

theorem lex_codes_of_lt {s t : String} (h : s < t) : List.Lex (· < ·) (codes s) (codes t) := by
  have hmap {l l' : List Char} (h : List.Lex (· < ·) l l') :
      List.Lex (· < ·) (l.map Char.toNat) (l'.map Char.toNat) := by
    induction h with
    | nil => exact .nil
    | cons _ ih => exact .cons ih
    | rel hlt => exact .rel hlt
  exact hmap (String.lt_iff_toList_lt.1 h)

/-- The texts are in ascending order by their code points, they are just the stubs of the steps, and there
is one for each shape that these have. -/
structure StubsFor (undefined : List Step) (texts : List String) : Prop where
  ascending : texts.Pairwise fun x y => List.Lex (· < ·) (codes x) (codes y)
  mem_iff : ∀ x, x ∈ texts ↔ ∃ step ∈ undefined, step.snippet = x
  shapes : ∀ a ∈ undefined, ∀ b ∈ undefined, a.snippet = b.snippet ↔ a.SameShape b
  one_each : ∀ step ∈ undefined,
    ∃! x, x ∈ texts ∧ ∃ other ∈ undefined, other.SameShape step ∧ other.snippet = x

namespace Session

variable {σ : Type}

/-- Whatever calls are made of a fresh suite, it has one stub for each shape of the steps that ended
undefined in scenarios, in ascending order, and shows them line by line. Steps that are run directly leave
none. -/
theorem stubsFor_run (config : Config) (r : Registry σ) (calls : List Call) :
    let s := (fresh config r).run calls
    StubsFor (undefinedSteps ((fresh config r).chronicle calls)) s.suite.snippets ∧
      s.suite.snippetText.toList = ['\n'].intercalate (s.suite.snippets.map String.toList) ∧
      ∀ step optOut, (s.call (.step step optOut)).suite.snippets = s.suite.snippets := by
  intro s
  have hmem (x : String) : x ∈ s.suite.snippets ↔
      ∃ step ∈ undefinedSteps ((fresh config r).chronicle calls), step.snippet = x := by
    have hfresh : x ∉ (fresh config r).suite.snippets := List.not_mem_nil
    rw [mem_snippets_run, or_iff_right hfresh, exists_snippet?_iff]
  have hfresh : Suite.Ascending (fresh config r).suite.snippets := List.Pairwise.nil
  have hascending : Suite.Ascending s.suite.snippets := kept_run Suite.kept_ascending hfresh calls
  refine ⟨⟨hascending.imp lex_codes_of_lt, hmem, fun a _ b _ => a.snippet_eq_iff b, ?_⟩, ?_, fun _ _ => rfl⟩
  · intro step hstep
    refine ⟨step.snippet, ⟨(hmem _).2 ⟨step, hstep, rfl⟩, step, hstep, ⟨rfl, rfl⟩, rfl⟩, ?_⟩
    rintro x ⟨-, other, -, hshape, rfl⟩
    exact (other.snippet_eq_iff step).2 hshape
  · exact String.toList_intercalate

end Session
end Acceptance
