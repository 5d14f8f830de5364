import Acceptance.Feature.Scan
import Mathlib.Data.List.Basic

/-!
What a feature text says, read off its lines without a scanner: which lines are headers, how far the
block of a header reaches, and what stands in it. The scanner finds just that.
-/
namespace Acceptance.Feature
namespace Outline

/-- A line and its number. -/
abbrev NumberedLine := List Char × Nat

/-- The pieces between line feeds. A carriage return before a line feed is dropped, and so is an empty
last piece. -/
def linesOf (text : List Char) : List (List Char) :=
  let pieces := text.splitOn '\n'
  pieces.dropLast.map (Text.dropRet '\r') ++ pieces.getLast?.toList.filter (!·.isEmpty)

/-- What follows `start` in a line that begins so and goes on. -/
def restAfter? (start line : List Char) : Option (List Char) :=
  if start <+: line ∧ start.length < line.length then some (line.drop start.length) else none

def featureName? (line : List Char) : Option (List Char) := restAfter? "Feature: ".toList line

def scenarioText? (line : List Char) : Option (List Char) := restAfter? "  Scenario: ".toList line

def stepText? (line : List Char) : Option (Keyword × List Char) :=
  [Keyword.Given, .When, .Then, .But, .And].findSome? fun k =>
    (restAfter? ("    " ++ k.name ++ " ").toList line).map (k, ·)

/-- Lines that may stand among the scenarios of a feature. -/
def isBody (line : List Char) : Bool :=
  (scenarioText? line).isSome || (stepText? line).isSome || line.all Text.isBlank

def untilFeature (ls : List NumberedLine) : List NumberedLine :=
  ls.takeWhile fun l => (featureName? l.1).isNone

def untilScenario (ls : List NumberedLine) : List NumberedLine :=
  ls.takeWhile fun l => (scenarioText? l.1).isNone

def untilForeign (ls : List NumberedLine) : List NumberedLine := ls.takeWhile fun l => isBody l.1

/-- The lines of a block from its first scenario on, as far as they belong to scenarios. -/
def body (block : List NumberedLine) : List NumberedLine :=
  untilForeign (block.dropWhile fun l => (scenarioText? l.1).isNone)

/-- The lines before the first scenario of a block, each behind a line feed. -/
def description (block : List NumberedLine) : List Char :=
  (untilScenario block).flatMap fun l => '\n' :: l.1

def steps (ls : List NumberedLine) : List Step :=
  ls.filterMap fun l => (stepText? l.1).map fun (k, d) => ⟨k, String.ofList d, l.2⟩

/-- For each scenario header in the lines of a body, a scenario with the steps up to the next one. -/
def scenarios (ls : List NumberedLine) : List Scenario :=
  ls.tails.filterMap fun
    | [] => none
    | l :: rest => (scenarioText? l.1).map fun d => ⟨String.ofList d, steps (untilScenario rest), l.2⟩

/-- For each feature header a feature, whose block ends before the next one. -/
def features (ls : List NumberedLine) : List Feature :=
  ls.tails.filterMap fun
    | [] => none
    | l :: rest => (featureName? l.1).map fun name =>
      let block := untilFeature rest
      ⟨String.ofList name, String.ofList (description block), scenarios (body block)⟩

theorem restAfter?_eq_some_iff {start line rest : List Char} :
    restAfter? start line = some rest ↔ line = start ++ rest ∧ rest ≠ [] := by
  unfold restAfter?
  constructor
  · intro h
    split at h
    next hs =>
      obtain ⟨⟨t, rfl⟩, hlen⟩ := hs
      rw [List.drop_left, Option.some.injEq] at h
      subst h
      refine ⟨rfl, ?_⟩
      rintro rfl
      simp at hlen
    next => simp at h
  · rintro ⟨rfl, hne⟩
    have hlen : start.length < (start ++ rest).length := by
      have := List.length_pos_of_ne_nil hne
      simp
      omega
    rw [if_pos ⟨List.prefix_append start rest, hlen⟩, List.drop_left]

theorem stepStart_unique {k k' : Keyword} {d d' : List Char}
    (h : ("    " ++ k.name ++ " ").toList ++ d = ("    " ++ k'.name ++ " ").toList ++ d') :
    k = k' ∧ d = d' := by
  cases k <;> cases k' <;> simp [Keyword.name] at h ⊢ <;> exact h

/-- A step line is one in one way only. -/
theorem stepText?_eq_some_iff {line d : List Char} {k : Keyword} :
    stepText? line = some (k, d) ↔ line = ("    " ++ k.name ++ " ").toList ++ d ∧ d ≠ [] := by
  have sound {k : Keyword} {d : List Char} (h : stepText? line = some (k, d)) :
      line = ("    " ++ k.name ++ " ").toList ++ d ∧ d ≠ [] := by
    obtain ⟨k', -, hk⟩ := List.exists_of_findSome?_eq_some h
    obtain ⟨d', hd, he⟩ := Option.map_eq_some_iff.1 hk
    cases he
    exact restAfter?_eq_some_iff.1 hd
  refine ⟨sound, fun h => ?_⟩
  have hsome : (stepText? line).isSome := by
    rw [stepText?, List.findSome?_isSome_iff]
    refine ⟨k, by cases k <;> simp, ?_⟩
    rw [restAfter?_eq_some_iff.2 h]
    rfl
  obtain ⟨⟨k', d'⟩, hl⟩ := Option.isSome_iff_exists.1 hsome
  obtain ⟨rfl, rfl⟩ := stepStart_unique ((sound hl).1.symm.trans h.1)
  exact hl

theorem more?_eq_restAfter? (start line : List Char) :
    Line.more? start line = restAfter? start line := by
  have hafter (rest : List Char) : Line.after? start line = some rest ↔ line = start ++ rest := by
    fun_induction Line.after? start line with
    | case1 s => simp [eq_comm]
    | case2 c start => simp
    | case3 start c s ih => simpa using ih
    | case4 c start d s hne => simp [Ne.symm hne]
  ext rest
  rw [restAfter?_eq_some_iff, Line.more?, Option.filter_eq_some_iff, hafter]
  simp

theorem step?_eq_stepText? (line : List Char) : Line.step? line = stepText? line := by
  have hstart (k : Keyword) : Line.stepStart k = ("    " ++ k.name ++ " ").toList := by
    simp [Line.stepStart]
  simp only [Line.step?, stepText?, Keyword.all, more?_eq_restAfter?, hstart]

/-- The class of a line, by what the line is not and what it is. -/
theorem of_eq (line : List Char) :
    Line.of line =
      match featureName? line, scenarioText? line, stepText? line with
      | some name, _, _ => .feature name
      | none, some d, _ => .scenario d
      | none, none, some (k, d) => .step k d
      | none, none, none => if line.all Text.isBlank then .blank else .other := by
  have hf : Line.more? Line.featureStart line = featureName? line := more?_eq_restAfter? _ _
  have hs : Line.more? Line.scenarioStart line = scenarioText? line := more?_eq_restAfter? _ _
  rw [Line.of, hf, hs, step?_eq_stepText?]
  cases featureName? line with
  | some name => rfl
  | none =>
    cases scenarioText? line with
    | some d => rfl
    | none =>
      cases stepText? line with
      | some s => rfl
      | none => rfl

/-- Cutting at an element is splitting there, with what is left apart. -/
theorem cut_eq_splitOn {α : Type} [DecidableEq α] (newline : α) (s : List α) :
    s.splitOn newline = (Text.cut newline s).1 ++ [(Text.cut newline s).2] := by
  induction s with
  | nil => rfl
  | cons c s ih =>
    rw [List.splitOn_cons_eq_if_modifyHead, ih]
    simp only [Text.cut, beq_iff_eq]
    split
    · rfl
    · cases (Text.cut newline s).1 <;> rfl

theorem lines_eq_linesOf (text : List Char) : Text.lines text = linesOf text := by
  simp only [Text.lines, Text.linesWith, linesOf, cut_eq_splitOn, List.dropLast_concat,
    List.getLast?_concat, Option.toList_some]
  congr 1
  cases (Text.cut '\n' text).2 <;> rfl

/-- What a scanner will have found when it goes on through `ls` from a state. A feature that is open gets
the rest of its block, and a scenario that is open its steps up to the next one. -/
def expected (st : ScanState) (ls : List NumberedLine) : List Feature :=
  match st with
  | .seeking | .stopped => features ls
  | .inFeature f =>
    let block := untilFeature ls
    { f with
      description := f.description ++ String.ofList (description block)
      scenarios := f.scenarios ++ scenarios (body block) } :: features ls
  | .inScenario f s =>
    let rest := untilForeign (untilFeature ls)
    let s := { s with steps := s.steps ++ steps (untilScenario rest) }
    { f with scenarios := f.scenarios ++ s :: scenarios rest } :: features ls

theorem expected_nil (st : ScanState) : expected st [] = st.feature?.toList := by
  cases st <;> simp [expected, features, scenarios, steps, description, body, untilFeature,
    untilScenario, untilForeign, ScanState.feature?]

section Cons

variable {l : NumberedLine} {ls : List NumberedLine}

theorem features_cons_header {name : List Char} (h : featureName? l.1 = some name) :
    features (l :: ls) = ⟨String.ofList name, String.ofList (description (untilFeature ls)),
      scenarios (body (untilFeature ls))⟩ :: features ls := by
  simp [features, h]

theorem features_cons_other (h : featureName? l.1 = none) : features (l :: ls) = features ls := by
  simp [features, h]

theorem untilFeature_cons_other (h : featureName? l.1 = none) :
    untilFeature (l :: ls) = l :: untilFeature ls := by
  simp [untilFeature, h]

theorem scenarios_cons_header {d : List Char} (h : scenarioText? l.1 = some d) :
    scenarios (l :: ls) = ⟨String.ofList d, steps (untilScenario ls), l.2⟩ :: scenarios ls := by
  simp [scenarios, h]

theorem scenarios_cons_other (h : scenarioText? l.1 = none) :
    scenarios (l :: ls) = scenarios ls := by
  simp [scenarios, h]

theorem untilScenario_cons_header {d : List Char} (h : scenarioText? l.1 = some d) :
    untilScenario (l :: ls) = [] := by
  simp [untilScenario, h]

theorem untilScenario_cons_other (h : scenarioText? l.1 = none) :
    untilScenario (l :: ls) = l :: untilScenario ls := by
  simp [untilScenario, h]

theorem untilForeign_cons_of_isBody (h : isBody l.1 = true) :
    untilForeign (l :: ls) = l :: untilForeign ls := by
  simp [untilForeign, h]

theorem body_cons_header {d : List Char} (h : scenarioText? l.1 = some d) :
    body (l :: ls) = l :: untilForeign ls := by
  simp [body, untilForeign, isBody, h]

theorem body_cons_other (h : scenarioText? l.1 = none) : body (l :: ls) = body ls := by
  simp [body, h]

/-! What is expected behind a line, for each kind of line and each state. -/

theorem expected_header {name : List Char} (h : featureName? l.1 = some name) (st : ScanState) :
    expected st (l :: ls) =
      st.feature?.toList ++ expected (.inFeature { name := String.ofList name }) ls := by
  have hblock : untilFeature (l :: ls) = [] := by simp [untilFeature, h]
  cases st <;> simp [expected, hblock, features_cons_header h, ScanState.feature?, description,
    scenarios, body, untilScenario, untilForeign, steps]

theorem expected_outside (h : featureName? l.1 = none) {st : ScanState}
    (hst : st = .seeking ∨ st = .stopped) : expected st (l :: ls) = expected st ls := by
  rcases hst with rfl | rfl <;> exact features_cons_other h

theorem expected_inFeature_scenario {d : List Char} (hf : featureName? l.1 = none)
    (hs : scenarioText? l.1 = some d) (f : Feature) :
    expected (.inFeature f) (l :: ls) = expected (.inScenario f (newScenario d l.2)) ls := by
  simp only [expected, features_cons_other hf, untilFeature_cons_other hf, description,
    untilScenario_cons_header hs, body_cons_header hs, scenarios_cons_header hs]
  simp [newScenario]

theorem expected_inFeature_text (hf : featureName? l.1 = none) (hs : scenarioText? l.1 = none)
    (f : Feature) :
    expected (.inFeature f) (l :: ls) =
      expected (.inFeature
        { f with description := f.description ++ "\n" ++ String.ofList l.1 }) ls := by
  simp only [expected, features_cons_other hf, untilFeature_cons_other hf, description,
    untilScenario_cons_other hs, body_cons_other hs]
  simp [String.append_assoc]

theorem expected_inScenario_scenario {d : List Char} (hf : featureName? l.1 = none)
    (hs : scenarioText? l.1 = some d) (f : Feature) (s : Scenario) :
    expected (.inScenario f s) (l :: ls) =
      expected (.inScenario { f with scenarios := f.scenarios ++ [s] } (newScenario d l.2)) ls := by
  have hb : isBody l.1 = true := by simp [isBody, hs]
  simp only [expected, features_cons_other hf, untilFeature_cons_other hf,
    untilForeign_cons_of_isBody hb, untilScenario_cons_header hs, scenarios_cons_header hs]
  simp [newScenario, steps]

/-- A line of the body that is no header adds the step that it is, if it is one. -/
theorem expected_inScenario_body (hf : featureName? l.1 = none) (hs : scenarioText? l.1 = none)
    (hb : isBody l.1 = true) (f : Feature) (s : Scenario) :
    expected (.inScenario f s) (l :: ls) =
      expected (.inScenario f { s with steps := s.steps ++ steps [l] }) ls := by
  have hsteps (rest : List NumberedLine) : steps (l :: rest) = steps [l] ++ steps rest :=
    List.filterMap_append (l := [l])
  simp only [expected, features_cons_other hf, untilFeature_cons_other hf,
    untilForeign_cons_of_isBody hb, untilScenario_cons_other hs, scenarios_cons_other hs,
    hsteps (untilScenario _), List.append_assoc]

theorem expected_inScenario_foreign (hf : featureName? l.1 = none) (hb : isBody l.1 = false)
    (f : Feature) (s : Scenario) :
    expected (.inScenario f s) (l :: ls) =
      (ScanState.inScenario f s).feature?.toList ++ expected .stopped ls := by
  have hforeign : untilForeign (l :: untilFeature ls) = [] := by simp [untilForeign, hb]
  simp only [expected, features_cons_other hf, untilFeature_cons_other hf, hforeign]
  simp [untilScenario, steps, scenarios, ScanState.feature?]

end Cons

theorem of_ne_feature {line : List Char} (hf : featureName? line = none) (name : List Char) :
    Line.of line ≠ .feature name := by
  rw [of_eq, hf]
  split <;> simp_all
  split <;> simp

theorem of_ne_scenario {line : List Char} (hs : scenarioText? line = none) (d : List Char) :
    Line.of line ≠ .scenario d := by
  rw [of_eq, hs]
  split <;> simp_all
  split <;> simp

theorem of_eq_other {line : List Char} (hf : featureName? line = none) (hb : isBody line = false) :
    Line.of line = .other := by
  cases hs : scenarioText? line <;> cases ht : stepText? line <;> simp_all [isBody, of_eq]

theorem of_ne_other {line : List Char} (hb : isBody line = true) : Line.of line ≠ .other := by
  rw [of_eq]
  cases featureName? line with
  | some name => simp
  | none => cases hs : scenarioText? line <;> cases ht : stepText? line <;> simp_all [isBody]

/-- Outside a feature every line but a header is passed over. -/
theorem read_outside {st : ScanState} (hst : st = .seeking ∨ st = .stopped) (n : Nat)
    {line : List Char} (hf : featureName? line = none) :
    (st.read n line).state = st ∧ (st.read n line).ended = none := by
  have hne := of_ne_feature hf
  rcases hst with rfl | rfl <;> unfold ScanState.read <;> split <;> simp_all

theorem read_inFeature_text (f : Feature) (n : Nat) {line : List Char}
    (hf : featureName? line = none) (hs : scenarioText? line = none) :
    (ScanState.read (.inFeature f) n line).state =
        .inFeature { f with description := f.description ++ "\n" ++ String.ofList line } ∧
      (ScanState.read (.inFeature f) n line).ended = none := by
  have hne := of_ne_feature hf
  have hne' := of_ne_scenario hs
  unfold ScanState.read
  split <;> simp_all

theorem read_inScenario_body (f : Feature) (s : Scenario) (n : Nat) {line : List Char}
    (hf : featureName? line = none) (hs : scenarioText? line = none) (hb : isBody line = true) :
    (ScanState.read (.inScenario f s) n line).state =
        .inScenario f { s with steps := s.steps ++ steps [(line, n)] } ∧
      (ScanState.read (.inScenario f s) n line).ended = none := by
  cases ht : stepText? line with
  | some kd =>
    have hline : Line.of line = .step kd.1 kd.2 := by rw [of_eq, hf, hs, ht]
    simp [ScanState.read, hline, steps, ht]
  | none =>
    have hblank : line.all Text.isBlank = true := by simpa [isBody, hs, ht] using hb
    have hline : Line.of line = .blank := by simp only [of_eq, hf, hs, ht, hblank, if_true]
    simp [ScanState.read, hline, steps, ht]

/-- Reading a line ends what has to be ended and keeps what is still expected. -/
theorem expected_read (st : ScanState) (n : Nat) (line : List Char) (ls : List NumberedLine) :
    expected st ((line, n) :: ls) =
      (st.read n line).ended.toList ++ expected (st.read n line).state ls := by
  cases hf : featureName? line with
  | some name =>
    have hline : Line.of line = .feature name := by rw [of_eq, hf]
    rw [expected_header hf]
    cases st <;> simp only [ScanState.read, hline]
  | none =>
    cases st with
    | seeking =>
      obtain ⟨hstate, hended⟩ := read_outside (.inl rfl) n hf
      rw [expected_outside hf (.inl rfl), hstate, hended]
      rfl
    | stopped =>
      obtain ⟨hstate, hended⟩ := read_outside (.inr rfl) n hf
      rw [expected_outside hf (.inr rfl), hstate, hended]
      rfl
    | inFeature f =>
      cases hs : scenarioText? line with
      | some d =>
        have hline : Line.of line = .scenario d := by rw [of_eq, hf, hs]
        rw [expected_inFeature_scenario hf hs]
        simp only [ScanState.read, hline, Option.toList_none, List.nil_append]
      | none =>
        obtain ⟨hstate, hended⟩ := read_inFeature_text f n hf hs
        rw [expected_inFeature_text hf hs, hstate, hended]
        rfl
    | inScenario f s =>
      cases hs : scenarioText? line with
      | some d =>
        have hline : Line.of line = .scenario d := by rw [of_eq, hf, hs]
        rw [expected_inScenario_scenario hf hs]
        simp only [ScanState.read, hline, Option.toList_none, List.nil_append]
      | none =>
        cases hb : isBody line with
        | true =>
          obtain ⟨hstate, hended⟩ := read_inScenario_body f s n hf hs hb
          rw [expected_inScenario_body hf hs hb, hstate, hended]
          rfl
        | false =>
          have hline : Line.of line = .other := of_eq_other hf hb
          rw [expected_inScenario_foreign hf hb]
          simp only [ScanState.read, hline]

/-- From any state the scanner finds what is expected. -/
theorem scanFrom_features (st : ScanState) (n : Nat) (lines : List (List Char)) :
    (scanFrom st n lines).2.features ++ (scanFrom st n lines).1.feature?.toList =
      expected st (lines.zipIdx n) := by
  induction lines generalizing st n with
  | nil => rw [List.zipIdx_nil, expected_nil]; rfl
  | cons line lines ih =>
    rw [List.zipIdx_cons, expected_read, ← ih]
    simp only [scanFrom, List.append_assoc]

/-- The features of a text are those of its outline: for each header line, wherever it stands, the
feature that its block describes. -/
theorem scanAll_features (text : String) :
    (scanAll text).features = features ((linesOf text.toList).zipIdx 1) := by
  rw [← lines_eq_linesOf]
  exact scanFrom_features .seeking 1 (Text.lines text.toList)

end Outline
end Acceptance.Feature
