import Acceptance.Proofs.Outline

/-!
Canonical texts of features. A list of features that can be printed is found again in its text, with each
scenario and each step at the line where it was printed, and what is found in a text can be printed.
-/
namespace Acceptance

namespace Step

def canonical (s : Step) : List Char :=
  "    ".toList ++ s.keyword.name.toList ++ ' ' :: (s.description.toList ++ ['\n'])

/-- The step without the line where it stands. -/
def unplaced (s : Step) : Step := { s with line := 0 }

end Step

namespace Scenario

def header (s : Scenario) : List Char := "  Scenario: ".toList ++ s.description.toList ++ ['\n']

def canonical (s : Scenario) : List Char := s.header ++ s.steps.flatMap Step.canonical

def unplaced (s : Scenario) : Scenario := { s with line := 0, steps := s.steps.map Step.unplaced }

end Scenario

namespace Feature

/-- The header and the description, in front of which a line feed stands unless it is empty. -/
def header (f : Feature) : List Char :=
  "Feature: ".toList ++ f.name.toList ++ f.description.toList ++ ['\n']

def canonical (f : Feature) : List Char := f.header ++ f.scenarios.flatMap Scenario.canonical

def unplaced (f : Feature) : Feature := { f with scenarios := f.scenarios.map Scenario.unplaced }

def printed (fs : List Feature) : String := String.ofList (fs.flatMap canonical)

/-- The text can be the rest of a line. -/
structure IsRest (s : String) : Prop where
  nonempty : s ≠ ""
  newline : '\n' ∉ s.toList
  ret : '\r' ∉ s.toList

/-- The text can be a line. -/
structure IsClean (line : List Char) : Prop where
  newline : '\n' ∉ line
  ret : '\r' ∉ line

/-- The text can be a line of a description. -/
structure IsPlain (line : List Char) : Prop extends IsClean line where
  feature : Outline.featureName? line = none
  scenario : Outline.scenarioText? line = none

end Feature

open Feature

structure Scenario.Printable (s : Scenario) : Prop where
  description : IsRest s.description
  steps : ∀ step ∈ s.steps, IsRest step.description

namespace Feature

structure Printable (f : Feature) : Prop where
  name : IsRest f.name
  description : ∃ lines : List (List Char), f.description.toList = lines.flatMap ('\n' :: ·) ∧
    ∀ line ∈ lines, IsPlain line
  scenarios : ∀ s ∈ f.scenarios, s.Printable

/-- The number of the line that begins behind a text. -/
def lineAfter (before : List Char) : Nat := before.count '\n' + 1

/-- Steps that are printed behind a text, with the lines where they stand. -/
def placedSteps (before : List Char) : List Step → List Step
  | [] => []
  | s :: more =>
    { s with line := lineAfter before } :: placedSteps (before ++ s.canonical) more

def placedScenarios (before : List Char) : List Scenario → List Scenario
  | [] => []
  | s :: more =>
    { s with line := lineAfter before, steps := placedSteps (before ++ s.header) s.steps } ::
      placedScenarios (before ++ s.canonical) more

def placed (before : List Char) : List Feature → List Feature
  | [] => []
  | f :: more =>
    { f with scenarios := placedScenarios (before ++ f.header) f.scenarios } ::
      placed (before ++ f.canonical) more

namespace Outline

/-- What a scanner will have found when it goes on from a state, with a text whose first line is `n`. -/
def found (st : ScanState) (n : Nat) (text : List Char) : List Feature :=
  expected st ((Text.lines text).zipIdx n)

theorem lines_append {line : List Char} (hnewline : '\n' ∉ line) (hret : '\r' ∉ line)
    (rest : List Char) : Text.lines (line ++ '\n' :: rest) = line :: Text.lines rest := by
  have hkeep : Text.dropRet '\r' line = line := if_neg fun h => hret (List.mem_of_getLast? h)
  simp only [Text.lines, Text.linesWith, Text.cut_append_newline _ _ _ hnewline, List.map_cons,
    hkeep, List.cons_append]

theorem found_line {line : List Char} (hnewline : '\n' ∉ line) (hret : '\r' ∉ line) (st : ScanState)
    (n : Nat) (rest : List Char) : found st n (line ++ '\n' :: rest) =
      expected st ((line, n) :: (Text.lines rest).zipIdx (n + 1)) := by
  rw [found, lines_append hnewline hret, List.zipIdx_cons]

theorem lineAfter_line {line : List Char} (hnewline : '\n' ∉ line) (before : List Char) :
    lineAfter (before ++ (line ++ ['\n'])) = lineAfter before + 1 := by
  simp [lineAfter, List.count_eq_zero.2 hnewline]

theorem found_nil (st : ScanState) (n : Nat) : found st n [] = st.feature?.toList := expected_nil st

/-! A line that begins like one kind of header or step is none of another kind. -/

theorem restAfter?_append {start rest : List Char} (h : rest ≠ []) :
    restAfter? start (start ++ rest) = some rest := restAfter?_eq_some_iff.2 ⟨rfl, h⟩

theorem restAfter?_eq_none {start line : List Char} (h : ∀ rest, line ≠ start ++ rest) :
    restAfter? start line = none := by
  rw [Option.eq_none_iff_forall_not_mem]
  intro rest hrest
  exact h rest (restAfter?_eq_some_iff.1 hrest).1

theorem scenarioText?_scenarioLine {d : List Char} (h : d ≠ []) :
    scenarioText? ("  Scenario: ".toList ++ d) = some d := by
  rw [scenarioText?, restAfter?_append h]

theorem featureName?_featureLine {name : List Char} (h : name ≠ []) :
    featureName? ("Feature: ".toList ++ name) = some name := by
  rw [featureName?, restAfter?_append h]

theorem featureName?_scenarioLine (d : List Char) :
    featureName? ("  Scenario: ".toList ++ d) = none :=
  restAfter?_eq_none fun rest h => by simp at h

def stepLine (k : Keyword) (d : List Char) : List Char := "    ".toList ++ k.name.toList ++ ' ' :: d

theorem featureName?_stepLine (k : Keyword) (d : List Char) : featureName? (stepLine k d) = none :=
  restAfter?_eq_none fun rest h => by simp [stepLine] at h

theorem scenarioText?_stepLine (k : Keyword) (d : List Char) : scenarioText? (stepLine k d) = none :=
  restAfter?_eq_none fun rest h => by simp [stepLine] at h

theorem stepText?_stepLine (k : Keyword) {d : List Char} (h : d ≠ []) :
    stepText? (stepLine k d) = some (k, d) := by
  refine stepText?_eq_some_iff.2 ⟨?_, h⟩
  simp [stepLine]

theorem canonical_step (s : Step) :
    s.canonical = stepLine s.keyword s.description.toList ++ ['\n'] := by
  simp [Step.canonical, stepLine]

theorem notMem_stepLine {c : Char} (hc : c = '\n' ∨ c = '\r') (k : Keyword) {d : List Char}
    (hd : c ∉ d) : c ∉ stepLine k d := by
  have hkeyword : c ∉ k.name.toList := by
    rcases hc with rfl | rfl <;> cases k <;> decide
  rcases hc with rfl | rfl <;> simp [stepLine, hkeyword, hd]

/-! Going on through what is printed. -/

theorem found_step {s : Step} (h : IsRest s.description) (f : Feature) (scenario : Scenario)
    (before rest : List Char) :
    found (.inScenario f scenario) (lineAfter before) (s.canonical ++ rest) =
      found (.inScenario f
        { scenario with steps := scenario.steps ++ [{ s with line := lineAfter before }] })
        (lineAfter (before ++ s.canonical)) rest := by
  have hne : s.description.toList ≠ [] := by simpa using h.nonempty
  have hnewline := notMem_stepLine (.inl rfl) s.keyword h.newline
  have hret := notMem_stepLine (.inr rfl) s.keyword h.ret
  have hstep := stepText?_stepLine s.keyword hne
  have hbody : isBody (stepLine s.keyword s.description.toList) = true := by simp [isBody, hstep]
  have hsteps : steps [(stepLine s.keyword s.description.toList, lineAfter before)] =
      [{ s with line := lineAfter before }] := by
    simp [steps, hstep]
  rw [canonical_step, List.append_assoc, List.singleton_append, found_line hnewline hret,
    lineAfter_line hnewline, expected_inScenario_body (featureName?_stepLine _ _)
    (scenarioText?_stepLine _ _) hbody, hsteps]
  rfl

theorem found_steps {steps : List Step} (h : ∀ s ∈ steps, IsRest s.description) (f : Feature)
    (scenario : Scenario) (before rest : List Char) :
    found (.inScenario f scenario) (lineAfter before) (steps.flatMap Step.canonical ++ rest) =
      found (.inScenario f { scenario with steps := scenario.steps ++ placedSteps before steps })
        (lineAfter (before ++ steps.flatMap Step.canonical)) rest := by
  induction steps generalizing scenario before with
  | nil => simp [placedSteps]
  | cons s steps ih =>
    obtain ⟨hs, hsteps⟩ := List.forall_mem_cons.1 h
    rw [List.flatMap_cons, List.append_assoc, found_step hs, ih hsteps]
    simp [placedSteps, List.append_assoc]

/-- A scenario header goes on with what is open, and opens a scenario of its own. -/
theorem found_scenarioHeader {s : Scenario} (h : IsRest s.description) {st : ScanState} {f : Feature}
    (hst : st.feature? = some f) (before rest : List Char) :
    found st (lineAfter before) (s.header ++ rest) =
      found (.inScenario f { s with line := lineAfter before, steps := [] })
        (lineAfter (before ++ s.header)) rest := by
  have hne : s.description.toList ≠ [] := by simpa using h.nonempty
  have hnewline : '\n' ∉ "  Scenario: ".toList ++ s.description.toList := by
    simp [h.newline]
  have hret : '\r' ∉ "  Scenario: ".toList ++ s.description.toList := by
    simp [h.ret]
  have hscenario := scenarioText?_scenarioLine hne
  have hnew : newScenario s.description.toList (lineAfter before) =
      { s with line := lineAfter before, steps := [] } := by
    simp [newScenario]
  unfold Scenario.header
  rw [List.append_assoc _ ['\n'], List.singleton_append, found_line hnewline hret,
    lineAfter_line hnewline]
  cases st with
  | seeking | stopped => cases hst
  | inFeature f' =>
    obtain rfl : f' = f := Option.some.inj hst
    rw [expected_inFeature_scenario (featureName?_scenarioLine _) hscenario, hnew]
    rfl
  | inScenario f' s' =>
    obtain rfl := Option.some.inj hst
    rw [expected_inScenario_scenario (featureName?_scenarioLine _) hscenario, hnew]
    rfl

/-- Scenarios that are printed behind an open feature become scenarios of it. -/
theorem found_scenarios {ss : List Scenario} (h : ∀ s ∈ ss, s.Printable) {st : ScanState}
    {f : Feature} (hst : st.feature? = some f) (before rest : List Char) :
    ∃ st', st'.feature? =
        some { f with scenarios := f.scenarios ++ placedScenarios before ss } ∧
      found st (lineAfter before) (ss.flatMap Scenario.canonical ++ rest) =
        found st' (lineAfter (before ++ ss.flatMap Scenario.canonical)) rest := by
  induction ss generalizing st f before with
  | nil => exact ⟨st, by simp [hst, placedScenarios], by simp⟩
  | cons s ss ih =>
    obtain ⟨hs, hss⟩ := List.forall_mem_cons.1 h
    have hopen : (ScanState.inScenario f { s with
        line := lineAfter before
        steps := placedSteps (before ++ s.header) s.steps }).feature? =
          some { f with scenarios := f.scenarios ++ [{ s with
            line := lineAfter before
            steps := placedSteps (before ++ s.header) s.steps }] } := rfl
    -- the next header closes this scenario, so the others go on from a feature that has it
    obtain ⟨st', hst', hfound⟩ := ih hss hopen (before ++ s.canonical)
    refine ⟨st', ?_, ?_⟩
    · rw [hst', placedScenarios]
      simp [List.append_assoc]
    · rw [List.flatMap_cons, ← List.append_assoc before, ← hfound, Scenario.canonical,
        List.append_assoc, List.append_assoc, found_scenarioHeader hs.description hst,
        found_steps hs.steps]
      simp [List.append_assoc]

theorem found_plain {line : List Char} (h : IsPlain line) (f : Feature) (before rest : List Char) :
    found (.inFeature f) (lineAfter before) (line ++ '\n' :: rest) =
      found (.inFeature { f with description := f.description ++ "\n" ++ String.ofList line })
        (lineAfter (before ++ (line ++ ['\n']))) rest := by
  rw [found_line h.newline h.ret, expected_inFeature_text h.feature h.scenario,
    lineAfter_line h.newline]
  rfl

theorem found_description {lines : List (List Char)} (h : ∀ line ∈ lines, IsPlain line) (f : Feature)
    (before rest : List Char) :
    found (.inFeature f) (lineAfter before) (lines.flatMap (· ++ ['\n']) ++ rest) =
      found (.inFeature
        { f with description := f.description ++ String.ofList (lines.flatMap ('\n' :: ·)) })
        (lineAfter (before ++ lines.flatMap (· ++ ['\n']))) rest := by
  induction lines generalizing f before with
  | nil => simp
  | cons line lines ih =>
    obtain ⟨hline, hlines⟩ := List.forall_mem_cons.1 h
    rw [List.flatMap_cons, List.append_assoc, List.append_assoc, List.singleton_append,
      found_plain hline, ih hlines]
    simp [String.append_assoc]

theorem flatMap_lineFeed (lines : List (List Char)) :
    lines.flatMap ('\n' :: ·) ++ ['\n'] = '\n' :: lines.flatMap (· ++ ['\n']) := by
  induction lines with
  | nil => rfl
  | cons line lines ih => simp [ih]

/-- A feature header ends what is open, and opens a feature with its description. -/
theorem found_header {f : Feature} (h : f.Printable) (st : ScanState) (before rest : List Char) :
    found st (lineAfter before) (f.header ++ rest) =
      st.feature?.toList ++
        found (.inFeature { f with scenarios := [] }) (lineAfter (before ++ f.header)) rest := by
  obtain ⟨lines, hdescription, hlines⟩ := h.description
  have hne : f.name.toList ≠ [] := by simpa using h.name.nonempty
  have hnewline : '\n' ∉ "Feature: ".toList ++ f.name.toList := by
    simp [h.name.newline]
  have hret : '\r' ∉ "Feature: ".toList ++ f.name.toList := by
    simp [h.name.ret]
  have hheader : f.header =
      (("Feature: ".toList ++ f.name.toList) ++ ['\n']) ++ lines.flatMap (· ++ ['\n']) := by
    unfold Feature.header
    rw [hdescription, List.append_assoc, flatMap_lineFeed]
    simp only [List.append_assoc, List.singleton_append]
  have hopen : (⟨f.name, "" ++ String.ofList (lines.flatMap ('\n' :: ·)), []⟩ : Feature) =
      { f with scenarios := [] } := by
    rw [← hdescription]
    simp
  rw [hheader, List.append_assoc, List.append_assoc, List.singleton_append,
    found_line hnewline hret, expected_header (featureName?_featureLine hne), String.ofList_toList,
    ← hopen, ← List.append_assoc before, ← found_description hlines { name := f.name },
    lineAfter_line hnewline]
  rfl

/-- Printed features end what is open and are found, the last of them when what follows has been read. -/
theorem found_printed_append {fs : List Feature} (h : ∀ f ∈ fs, f.Printable) (st : ScanState)
    (before rest : List Char) :
    ∃ ended st', ended ++ st'.feature?.toList = st.feature?.toList ++ placed before fs ∧
      found st (lineAfter before) (fs.flatMap Feature.canonical ++ rest) =
        ended ++ found st' (lineAfter (before ++ fs.flatMap Feature.canonical)) rest := by
  induction fs generalizing st before with
  | nil => exact ⟨[], st, by simp [placed], by simp⟩
  | cons f fs ih =>
    obtain ⟨hf, hfs⟩ := List.forall_mem_cons.1 h
    have hopen : (ScanState.inFeature { f with scenarios := [] }).feature? =
        some { f with scenarios := [] } := rfl
    obtain ⟨st₁, hst₁, hscenarios⟩ := found_scenarios hf.scenarios hopen (before ++ f.header)
      (fs.flatMap Feature.canonical ++ rest)
    have hcanonical : before ++ f.header ++ f.scenarios.flatMap Scenario.canonical =
        before ++ f.canonical := List.append_assoc _ _ _
    rw [hcanonical] at hscenarios
    obtain ⟨ended, st', hended, hfound⟩ := ih hfs st₁ (before ++ f.canonical)
    refine ⟨st.feature?.toList ++ ended, st', ?_, ?_⟩
    · rw [List.append_assoc, hended, hst₁, placed]
      rfl
    · rw [List.flatMap_cons, List.append_assoc, Feature.canonical, List.append_assoc,
        found_header hf, hscenarios, hfound, List.append_assoc, List.append_assoc, Feature.canonical]

theorem found_printed {fs : List Feature} (h : ∀ f ∈ fs, f.Printable) (st : ScanState)
    (before : List Char) : found st (lineAfter before) (fs.flatMap Feature.canonical) =
      st.feature?.toList ++ placed before fs := by
  obtain ⟨ended, st', hended, hfound⟩ := found_printed_append h st before []
  rw [List.append_nil, found_nil] at hfound
  rw [hfound, hended]

end Outline

end Feature
end Acceptance
