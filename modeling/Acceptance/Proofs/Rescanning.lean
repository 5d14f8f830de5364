import Acceptance.Proofs.Canonical
import Acceptance.Proofs.TextBytes

/-!
Scanning what was scanned. The features of a text without carriage returns can be printed, so scanning the
printed text finds them again.
-/
namespace Acceptance.Feature
open Outline

/-- The lines of a text without carriage returns are clean. -/
theorem isClean_of_mem_lines {text : List Char} (h : '\r' ∉ text) :
    ∀ line ∈ Text.lines text, IsClean line := by
  intro line hline
  exact ⟨Text.notMem_linesWith (Text.notMem_cut '\n' text) '\r' line hline,
    Text.notMem_linesWith (Text.notMem_cut_of_notMem '\n' h) '\r' line hline⟩

theorem isRest_ofList {d : List Char} (hne : d ≠ []) (hnewline : '\n' ∉ d) (hret : '\r' ∉ d) :
    IsRest (String.ofList d) :=
  ⟨by simpa [← String.toList_inj] using hne, by simpa using hnewline, by simpa using hret⟩

theorem isRest_of_append {start d : List Char} (hne : d ≠ []) (h : IsClean (start ++ d)) :
    IsRest (String.ofList d) :=
  isRest_ofList hne (fun hmem => h.newline (List.mem_append_right _ hmem))
    fun hmem => h.ret (List.mem_append_right _ hmem)

/-- What is open can be printed. -/
def ScanState.Printable : ScanState → Prop
  | .seeking | .stopped => True
  | .inFeature f => f.Printable
  | .inScenario f s => f.Printable ∧ s.Printable

theorem Printable.addScenario {f : Feature} (hf : f.Printable) {s : Scenario} (hs : s.Printable) :
    Printable { f with scenarios := f.scenarios ++ [s] } := by
  refine ⟨hf.name, hf.description, ?_⟩
  intro s' hs'
  rcases List.mem_append.1 hs' with hs' | hs'
  · exact hf.scenarios s' hs'
  · rw [List.mem_singleton.1 hs']
    exact hs

theorem Printable.addLine {f : Feature} (hf : f.Printable) {line : List Char} (h : IsPlain line) :
    Printable { f with description := f.description ++ "\n" ++ String.ofList line } := by
  obtain ⟨lines, hdescription, hlines⟩ := hf.description
  refine ⟨hf.name, ⟨lines ++ [line], ?_, ?_⟩, hf.scenarios⟩
  · simp [hdescription]
  · intro line' hline'
    rcases List.mem_append.1 hline' with hline' | hline'
    · exact hlines line' hline'
    · rw [List.mem_singleton.1 hline']
      exact h

theorem printable_feature? {st : ScanState} (h : st.Printable) : ∀ f ∈ st.feature?, f.Printable := by
  intro f hf
  cases st with
  | seeking | stopped => cases hf
  | inFeature f' =>
    obtain rfl := Option.some.inj hf
    exact h
  | inScenario f' s =>
    obtain rfl := Option.some.inj hf
    exact h.1.addScenario h.2

theorem printable_newFeature {line name : List Char} (h : IsClean line)
    (hname : featureName? line = some name) : Printable { name := String.ofList name } := by
  obtain ⟨rfl, hne⟩ := restAfter?_eq_some_iff.1 hname
  exact ⟨isRest_of_append hne h, ⟨[], rfl, by simp⟩, by simp⟩

theorem printable_newScenario {line d : List Char} (h : IsClean line)
    (hd : scenarioText? line = some d) (n : Nat) : (newScenario d n).Printable := by
  obtain ⟨rfl, hne⟩ := restAfter?_eq_some_iff.1 hd
  exact ⟨isRest_of_append hne h, by simp [newScenario]⟩

theorem isRest_of_mem_steps {line : List Char} (h : IsClean line) (n : Nat) :
    ∀ s ∈ steps [(line, n)], IsRest s.description := by
  intro s hs
  cases hstep : stepText? line with
  | none => simp [steps, hstep] at hs
  | some step =>
    obtain ⟨k, d⟩ := step
    obtain ⟨rfl, hne⟩ := stepText?_eq_some_iff.1 hstep
    simp only [steps, List.filterMap_cons, hstep, Option.map_some, List.filterMap_nil,
      List.mem_singleton] at hs
    rw [hs]
    exact isRest_of_append hne h

/-- Reading a line keeps what is open printable, and what it ends is printable. -/
theorem printable_read {st : ScanState} (h : st.Printable) (n : Nat) {line : List Char}
    (hline : IsClean line) :
    (st.read n line).state.Printable ∧ ∀ f ∈ (st.read n line).ended, f.Printable := by
  cases hf : featureName? line with
  | some name =>
    have hof : Line.of line = .feature name := by rw [of_eq, hf]
    have hnew := printable_newFeature hline hf
    have hended := printable_feature? h
    cases st <;> simp only [ScanState.read, hof] <;> exact ⟨hnew, hended⟩
  | none =>
    cases st with
    | seeking =>
      obtain ⟨hstate, hended⟩ := read_outside (.inl rfl) n hf
      rw [hstate, hended]
      exact ⟨trivial, by simp⟩
    | stopped =>
      obtain ⟨hstate, hended⟩ := read_outside (.inr rfl) n hf
      rw [hstate, hended]
      exact ⟨trivial, by simp⟩
    | inFeature f =>
      cases hs : scenarioText? line with
      | some d =>
        have hof : Line.of line = .scenario d := by rw [of_eq, hf, hs]
        simp only [ScanState.read, hof]
        exact ⟨⟨h, printable_newScenario hline hs n⟩, by simp⟩
      | none =>
        obtain ⟨hstate, hended⟩ := read_inFeature_text f n hf hs
        rw [hstate, hended]
        exact ⟨Printable.addLine h ⟨hline, hf, hs⟩, by simp⟩
    | inScenario f s =>
      obtain ⟨hfeature, hscenario⟩ := h
      cases hs : scenarioText? line with
      | some d =>
        have hof : Line.of line = .scenario d := by rw [of_eq, hf, hs]
        simp only [ScanState.read, hof]
        exact ⟨⟨hfeature.addScenario hscenario, printable_newScenario hline hs n⟩, by simp⟩
      | none =>
        cases hb : isBody line with
        | true =>
          obtain ⟨hstate, hended⟩ := read_inScenario_body f s n hf hs hb
          rw [hstate, hended]
          refine ⟨⟨hfeature, hscenario.description, ?_⟩, by simp⟩
          exact List.forall_mem_append.2 ⟨hscenario.steps, isRest_of_mem_steps hline n⟩
        | false =>
          -- a foreign line ends the feature, the open scenario included
          have hof : Line.of line = .other := by
            cases ht : stepText? line <;> simp_all [isBody, of_eq]
          simp only [ScanState.read, hof]
          have hopen : (ScanState.inScenario f s).Printable := ⟨hfeature, hscenario⟩
          exact ⟨trivial, printable_feature? hopen⟩

theorem printable_scanFrom {st : ScanState} (h : st.Printable) (n : Nat) {lines : List (List Char)}
    (hlines : ∀ line ∈ lines, IsClean line) :
    (scanFrom st n lines).1.Printable ∧ ∀ f ∈ (scanFrom st n lines).2.features, f.Printable := by
  induction lines generalizing st n with
  | nil => exact ⟨h, by simp [scanFrom]⟩
  | cons line lines ih =>
    obtain ⟨hline, hrest⟩ := List.forall_mem_cons.1 hlines
    obtain ⟨hstate, hended⟩ := printable_read h n hline
    obtain ⟨hfinal, hfeatures⟩ := ih hstate (n + 1) hrest
    refine ⟨hfinal, ?_⟩
    simp only [scanFrom, List.mem_append, Option.mem_toList]
    rintro f (hf | hf)
    · exact hended f hf
    · exact hfeatures f hf

/-- What is found in a text without carriage returns can be printed. -/
theorem printable_of_mem_scanAll {text : String} (h : '\r' ∉ text.toList) :
    ∀ f ∈ (scanAll text).features, f.Printable := by
  have hseeking : ScanState.seeking.Printable := trivial
  obtain ⟨hfinal, hfeatures⟩ := printable_scanFrom hseeking 1 (isClean_of_mem_lines h)
  simp only [scanAll, scanLines, List.mem_append, Option.mem_toList]
  rintro f (hf | hf)
  · exact hfeatures f hf
  · exact printable_feature? hfinal f hf

theorem scanAll_eq_found (text : String) : (scanAll text).features = found .seeking 1 text.toList :=
  scanFrom_features .seeking 1 (Text.lines text.toList)

theorem scanAll_of_printable {fs : List Feature} (h : ∀ f ∈ fs, f.Printable) :
    (scanAll (printed fs)).features = placed [] fs := by
  rw [scanAll_eq_found, printed, String.toList_ofList]
  exact found_printed h .seeking []

/-! Where a feature was printed makes no difference but the lines. -/

theorem unplaced_placedSteps (before : List Char) (ss : List Step) :
    (placedSteps before ss).map Step.unplaced = ss.map Step.unplaced := by
  induction ss generalizing before with
  | nil => rfl
  | cons s ss ih => simp [placedSteps, ih, Step.unplaced]

theorem unplaced_placedScenarios (before : List Char) (ss : List Scenario) :
    (placedScenarios before ss).map Scenario.unplaced = ss.map Scenario.unplaced := by
  induction ss generalizing before with
  | nil => rfl
  | cons s ss ih => simp [placedScenarios, ih, Scenario.unplaced, unplaced_placedSteps]

theorem unplaced_placed (before : List Char) (fs : List Feature) :
    (placed before fs).map unplaced = fs.map unplaced := by
  induction fs generalizing before with
  | nil => rfl
  | cons f fs ih => simp [placed, ih, unplaced, unplaced_placedScenarios]

/-- Scanning undoes printing up to the lines, which are those of the printed text. What is found in any
text without carriage returns can be printed, and is found again. -/
theorem scanAll_printed :
    (∀ fs : List Feature, (∀ f ∈ fs, f.Printable) → (scanAll (printed fs)).features = placed [] fs) ∧
      ∀ text : String, '\r' ∉ text.toList →
        (∀ f ∈ (scanAll text).features, f.Printable) ∧
        (scanAll (printed (scanAll text).features)).features.map unplaced =
          (scanAll text).features.map unplaced := by
  refine ⟨fun fs h => scanAll_of_printable h, fun text h => ?_⟩
  have hprintable := printable_of_mem_scanAll h
  refine ⟨hprintable, ?_⟩
  rw [scanAll_of_printable hprintable, unplaced_placed]

/-- Features whose texts look almost like headers and steps. -/
def almostHeaders : List Feature :=
  [{ name := " "
     description := "\n    Given nothing\n Feature: x"
     scenarios := [⟨"empty", [], 0⟩, ⟨"  Scenario: x", [⟨.But, "And so on", 0⟩, ⟨.And, " ", 0⟩], 0⟩] },
   { name := "Feature: " }]

theorem printable_almostHeaders : ∀ f ∈ almostHeaders, f.Printable := by
  have hfirst : ∀ s ∈ [(⟨"empty", [], 0⟩ : Scenario),
      ⟨"  Scenario: x", [⟨.But, "And so on", 0⟩, ⟨.And, " ", 0⟩], 0⟩], s.Printable := by
    simp only [List.forall_mem_cons]
    refine ⟨⟨⟨by decide, by decide, by decide⟩, by simp⟩,
      ⟨⟨by decide, by decide, by decide⟩, ?_⟩, by simp⟩
    simp only [List.forall_mem_cons]
    exact ⟨⟨by decide, by decide, by decide⟩, ⟨by decide, by decide, by decide⟩, by simp⟩
  simp only [almostHeaders, List.forall_mem_cons]
  refine ⟨⟨⟨by decide, by decide, by decide⟩, ?_, hfirst⟩,
    ⟨⟨by decide, by decide, by decide⟩, ⟨[], by decide, by simp⟩, by simp⟩, by simp⟩
  refine ⟨["    Given nothing".toList, " Feature: x".toList], by decide, ?_⟩
  simp only [List.forall_mem_cons]
  exact ⟨⟨⟨by decide, by decide⟩, by decide, by decide⟩,
    ⟨⟨by decide, by decide⟩, by decide, by decide⟩, by simp⟩

theorem scanAll_printed_almostHeaders :
    (∀ f ∈ almostHeaders, f.Printable) ∧
      (scanAll (printed almostHeaders)).features = placed [] almostHeaders ∧
      '\r' ∉ "x\nFeature: a\n  Scenario: b\n\n    Given c\nd".toList ∧
      (∀ f ∈ (scanAll "x\nFeature: a\n  Scenario: b\n\n    Given c\nd").features, f.Printable) ∧
      (scanAll (printed
          (scanAll "x\nFeature: a\n  Scenario: b\n\n    Given c\nd").features)).features.map unplaced =
        (scanAll "x\nFeature: a\n  Scenario: b\n\n    Given c\nd").features.map unplaced := by
  have hret : '\r' ∉ "x\nFeature: a\n  Scenario: b\n\n    Given c\nd".toList := by decide
  exact ⟨printable_almostHeaders, scanAll_printed.1 almostHeaders printable_almostHeaders, hret,
    scanAll_printed.2 _ hret⟩

end Acceptance.Feature
