import Acceptance.Proofs.Outline
import Mathlib.Data.List.DropRight

/-!
The log of a scan. Where a line stands is told by the lines before it alone: outside every feature, in the
description of one, or among its scenarios. That and the class of the line decide what the log says of it,
and a line of which it says nothing is found again in the features of the text.
-/
namespace Acceptance.Feature

/-- What the log may say of a line. -/
inductive Note where
  | header (name : String)
  | skipped
  | ended (scenario feature : String) (line : List Char)
  deriving DecidableEq, Repr

namespace Note

def name? : Note → Option String
  | header name => some name
  | skipped | ended .. => none

def level : Note → Level
  | header _ | skipped => .debug
  | ended .. => .warn

/-- How the log says it of line `n`. -/
def message (n : Nat) : Note → String
  | header name => s!"line {n}: feature '{name}'"
  | skipped => s!"line {n}: skipped outside a feature"
  | ended scenario feature line =>
    let shown := String.ofList (Text.quoted line)
    s!"line {n}: unrecognised line in scenario '{scenario}' ends feature '{feature}': {shown}"

def entry (n : Nat) (note : Note) : LogEntry := ⟨note.level, note.message n⟩

end Note

/-- The log that says something or nothing of each line, of which line `n` is the first. -/
def logOf (n : Nat) (notes : List (Option Note)) : List LogEntry :=
  (notes.zipIdx n).filterMap fun (note, i) => note.map (·.entry i)

theorem logOf_cons (n : Nat) (note : Option Note) (notes : List (Option Note)) :
    logOf n (note :: notes) = (note.map (·.entry n)).toList ++ logOf (n + 1) notes := by
  unfold logOf
  rw [List.zipIdx_cons, List.filterMap_cons]
  cases note <;> rfl

namespace Outline

def isHeader (line : List Char) : Bool := (featureName? line).isSome

/-- The lines behind the last feature header. -/
def lastBlock (before : List (List Char)) : List (List Char) := before.rtakeWhile fun l => !isHeader l

/-- The lines of a block from its first scenario header on. -/
def fromScenario (block : List (List Char)) : List (List Char) :=
  block.dropWhile fun l => (scenarioText? l).isNone

inductive Place where
  | outside | description | scenarios
  deriving DecidableEq, Repr

/-- What a block makes of the line behind it, by its lines from the first scenario header on. -/
def placeBehind (reached : List (List Char)) : Place :=
  if reached.isEmpty then .description else if reached.all isBody then .scenarios else .outside

/-- Where a line stands that comes after these. No feature is open before the first feature header, and
none after a line that belongs to no scenario, up to the next feature header. -/
def place (before : List (List Char)) : Place :=
  if before.any isHeader then placeBehind (fromScenario (lastBlock before)) else .outside

/-- Where the next line stands when this one is no feature header. -/
def Place.next (line : List Char) : Place → Place
  | outside => outside
  | description => if (scenarioText? line).isSome then scenarios else description
  | scenarios => if isBody line then scenarios else outside

section Place

variable {before : List (List Char)} {line : List Char}

theorem lastBlock_append_header (h : isHeader line = true) : lastBlock (before ++ [line]) = [] :=
  List.rtakeWhile_concat_neg _ _ _ (by simp [h])

theorem place_append_header (h : isHeader line = true) :
    place (before ++ [line]) = .description := by
  rw [place, if_pos (by simp [h]), lastBlock_append_header h]
  rfl

theorem fromScenario_append (block : List (List Char)) :
    fromScenario (block ++ [line]) =
      if (fromScenario block).isEmpty then if (scenarioText? line).isSome then [line] else []
      else fromScenario block ++ [line] := by
  unfold fromScenario
  rw [List.dropWhile_append]
  cases hs : scenarioText? line <;> simp [hs]

theorem placeBehind_append (block : List (List Char)) :
    placeBehind (fromScenario (block ++ [line])) = (placeBehind (fromScenario block)).next line := by
  rw [fromScenario_append]
  cases fromScenario block with
  | nil =>
    cases hs : scenarioText? line with
    | none => simp [placeBehind, Place.next, hs]
    | some d => simp [placeBehind, Place.next, hs, isBody]
  | cons l more =>
    have hall : (l :: more ++ [line]).all isBody = ((l :: more).all isBody && isBody line) := by
      simp only [List.all_append, List.all_cons, List.all_nil, Bool.and_true]
    unfold placeBehind
    cases hmore : (l :: more).all isBody <;> cases hline : isBody line <;>
      simp_all [Place.next]

theorem lastBlock_append (h : isHeader line = false) :
    lastBlock (before ++ [line]) = lastBlock before ++ [line] :=
  List.rtakeWhile_concat_pos _ _ _ (by simp [h])

theorem place_append (h : isHeader line = false) :
    place (before ++ [line]) = (place before).next line := by
  unfold place
  rw [lastBlock_append h, placeBehind_append, List.any_append]
  cases before.any isHeader <;> simp [h, Place.next]

end Place

theorem isHeader_eq_false {line : List Char} (hf : featureName? line = none) :
    isHeader line = false := by
  rw [isHeader, hf]
  rfl

/-- What a state has the log say of a line. -/
def noteOf (st : ScanState) (line : List Char) : Option Note :=
  match featureName? line, st with
  | some name, _ => some (.header (String.ofList name))
  | none, .seeking => some .skipped
  | none, .stopped => some .skipped
  | none, .inFeature _ => none
  | none, .inScenario f s =>
    if isBody line then none else some (.ended s.description f.name line)

/-- The ways in which line `n` leads from a state to the next one, and what the log says of it then. -/
inductive Moves (n : Nat) (line : List Char) : ScanState → ScanState → Option Note → Prop
  | header {st : ScanState} {name : List Char} (hf : featureName? line = some name) :
      Moves n line st (.inFeature { name := String.ofList name }) (some (.header (String.ofList name)))
  | seeking (hf : featureName? line = none) : Moves n line .seeking .seeking (some .skipped)
  | stopped (hf : featureName? line = none) : Moves n line .stopped .stopped (some .skipped)
  | text {f : Feature} (hf : featureName? line = none) (hs : scenarioText? line = none) :
      Moves n line (.inFeature f)
        (.inFeature { f with description := f.description ++ "\n" ++ String.ofList line }) none
  | first {f : Feature} {d : List Char} (hf : featureName? line = none)
      (hs : scenarioText? line = some d) :
      Moves n line (.inFeature f) (.inScenario f (newScenario d n)) none
  | next {f : Feature} {s : Scenario} {d : List Char} (hf : featureName? line = none)
      (hs : scenarioText? line = some d) :
      Moves n line (.inScenario f s)
        (.inScenario { f with scenarios := f.scenarios ++ [s] } (newScenario d n)) none
  | body {f : Feature} {s : Scenario} (hf : featureName? line = none)
      (hs : scenarioText? line = none) (hb : isBody line = true) :
      Moves n line (.inScenario f s)
        (.inScenario f { s with steps := s.steps ++ steps [(line, n)] }) none
  | foreign {f : Feature} {s : Scenario} (hf : featureName? line = none) (hb : isBody line = false) :
      Moves n line (.inScenario f s) .stopped (some (.ended s.description f.name line))

theorem moves_read (st : ScanState) (n : Nat) (line : List Char) :
    Moves n line st (st.read n line).state (noteOf st line) := by
  unfold noteOf
  cases hf : featureName? line with
  | some name =>
    have hline : Line.of line = .feature name := by rw [of_eq, hf]
    have hstate : (st.read n line).state = .inFeature { name := String.ofList name } := by
      cases st <;> simp only [ScanState.read, hline]
    rw [hstate]
    exact .header hf
  | none =>
    cases st with
    | seeking =>
      rw [(read_outside (.inl rfl) n hf).1]
      exact .seeking hf
    | stopped =>
      rw [(read_outside (.inr rfl) n hf).1]
      exact .stopped hf
    | inFeature f =>
      cases hs : scenarioText? line with
      | some d =>
        have hline : Line.of line = .scenario d := by rw [of_eq, hf, hs]
        simp only [ScanState.read, hline]
        exact .first hf hs
      | none =>
        rw [(read_inFeature_text f n hf hs).1]
        exact .text hf hs
    | inScenario f s =>
      cases hs : scenarioText? line with
      | some d =>
        have hline : Line.of line = .scenario d := by rw [of_eq, hf, hs]
        have hb : isBody line = true := by simp [isBody, hs]
        simp only [ScanState.read, hline, hb, if_true]
        exact .next hf hs
      | none =>
        cases hb : isBody line with
        | true =>
          rw [(read_inScenario_body f s n hf hs hb).1]
          exact .body hf hs hb
        | false =>
          have hline : Line.of line = .other := of_eq_other hf hb
          simp only [ScanState.read, hline]
          exact .foreign hf hb

/-- The log says just that. -/
theorem entry_read (st : ScanState) (n : Nat) (line : List Char) :
    (st.read n line).entry = (noteOf st line).map (·.entry n) := by
  unfold noteOf
  cases hf : featureName? line with
  | some name =>
    have hline : Line.of line = .feature name := by rw [of_eq, hf]
    cases st <;>
      simp only [ScanState.read, hline, Option.map_some, Note.entry, Note.level, Note.message]
  | none =>
    have hne := of_ne_feature hf
    cases st with
    | seeking => unfold ScanState.read; split <;> simp_all [Note.entry, Note.level, Note.message]
    | stopped => unfold ScanState.read; split <;> simp_all [Note.entry, Note.level, Note.message]
    | inFeature f => unfold ScanState.read; split <;> simp_all
    | inScenario f s =>
      cases hb : isBody line with
      | true =>
        have hother := of_ne_other hb
        unfold ScanState.read
        split <;> simp_all
      | false =>
        have hline : Line.of line = .other := of_eq_other hf hb
        simp [ScanState.read, hline, Note.entry, Note.level, Note.message]

/-- Where the scanner is after the lines `before`, with the description that it has read so far. -/
inductive Stands : ScanState → List (List Char) → Prop
  | seeking {before : List (List Char)} (h : place before = .outside) : Stands .seeking before
  | stopped {before : List (List Char)} (h : place before = .outside) : Stands .stopped before
  | inFeature {f : Feature} {before : List (List Char)} (h : place before = .description)
      (htext : f.description.toList = (lastBlock before).flatMap ('\n' :: ·)) :
      Stands (.inFeature f) before
  | inScenario {f : Feature} {s : Scenario} {before : List (List Char)}
      (h : place before = .scenarios) : Stands (.inScenario f s) before

/-- One line more keeps the scanner where the lines say. -/
theorem Stands.moves {st st' : ScanState} {before : List (List Char)} {n : Nat} {line : List Char}
    {note : Option Note} (h : Stands st before) (hmoves : Moves n line st st' note) :
    Stands st' (before ++ [line]) := by
  cases hmoves with
  | header hf =>
    have hhead : isHeader line = true := by rw [isHeader, hf]; rfl
    refine .inFeature (place_append_header hhead) ?_
    rw [lastBlock_append_header hhead]
    rfl
  | seeking hf =>
    obtain h | h := h
    exact .seeking (by rw [place_append (isHeader_eq_false hf), h]; rfl)
  | stopped hf =>
    obtain _ | h := h
    exact .stopped (by rw [place_append (isHeader_eq_false hf), h]; rfl)
  | text hf hs =>
    obtain _ | _ | ⟨h, htext⟩ := h
    refine .inFeature (by rw [place_append (isHeader_eq_false hf), h, Place.next, hs]; rfl) ?_
    rw [lastBlock_append (isHeader_eq_false hf)]
    simp [htext]
  | first hf hs =>
    obtain _ | _ | ⟨h, -⟩ := h
    exact .inScenario (by rw [place_append (isHeader_eq_false hf), h, Place.next, hs]; rfl)
  | next hf hs =>
    obtain _ | _ | _ | h := h
    have hb : isBody line = true := by simp [isBody, hs]
    exact .inScenario (by rw [place_append (isHeader_eq_false hf), h, Place.next, hb]; rfl)
  | body hf hs hb =>
    obtain _ | _ | _ | h := h
    exact .inScenario (by rw [place_append (isHeader_eq_false hf), h, Place.next, hb]; rfl)
  | foreign hf hb =>
    obtain _ | _ | _ | h := h
    exact .stopped (by rw [place_append (isHeader_eq_false hf), h, Place.next, hb]; rfl)

/-- What the log says of each of some lines. -/
def notesFrom (st : ScanState) (n : Nat) : List (List Char) → List (Option Note)
  | [] => []
  | line :: more => noteOf st line :: notesFrom (st.read n line).state (n + 1) more

theorem log_scanFrom (st : ScanState) (n : Nat) (lines : List (List Char)) :
    (scanFrom st n lines).2.log = logOf n (notesFrom st n lines) := by
  induction lines generalizing st n with
  | nil => rfl
  | cons line lines ih =>
    rw [notesFrom, logOf_cons, ← ih, ← entry_read]
    rfl

theorem length_notes (st : ScanState) (n : Nat) (lines : List (List Char)) :
    (notesFrom st n lines).length = lines.length := by
  induction lines generalizing st n with
  | nil => rfl
  | cons line lines ih => rw [notesFrom, List.length_cons, List.length_cons, ih]

/-- What the log says of a line is what it says in the state that the lines before leave. -/
theorem getElem?_notes (st : ScanState) (n : Nat) (before : List (List Char)) (line : List Char)
    (after : List (List Char)) :
    (notesFrom st n (before ++ line :: after))[before.length]? =
      some (noteOf (scanFrom st n before).1 line) := by
  induction before generalizing st n with
  | nil => rfl
  | cons l before ih =>
    simp only [List.cons_append, notesFrom, List.length_cons, List.getElem?_cons_succ, ih, scanFrom]

theorem names_notes (st : ScanState) (n : Nat) (lines : List (List Char)) :
    (notesFrom st n lines).filterMap (·.bind Note.name?) =
      lines.filterMap fun line => (featureName? line).map String.ofList := by
  induction lines generalizing st n with
  | nil => rfl
  | cons line lines ih =>
    have hname : (noteOf st line).bind Note.name? = (featureName? line).map String.ofList := by
      unfold noteOf
      split <;> simp_all [Note.name?]
    simp only [notesFrom, List.filterMap_cons, hname, ih]

theorem names_features (n : Nat) (lines : List (List Char)) :
    (features (lines.zipIdx n)).map (·.name) =
      lines.filterMap fun line => (featureName? line).map String.ofList := by
  induction lines generalizing n with
  | nil => rfl
  | cons line lines ih =>
    rw [List.zipIdx_cons, List.filterMap_cons]
    cases h : featureName? line with
    | some name => rw [features_cons_header h, List.map_cons, ih]; rfl
    | none => rw [features_cons_other h, ih]; rfl

theorem stands_scanFrom {st : ScanState} {before : List (List Char)} (h : Stands st before) (n : Nat)
    (lines : List (List Char)) : Stands (scanFrom st n lines).1 (before ++ lines) := by
  induction lines generalizing st n before with
  | nil => rwa [List.append_nil]
  | cons line lines ih =>
    rw [List.append_cons]
    exact ih (h.moves (moves_read st n line)) (n + 1)

/-- The features that are ended and those that are still expected are the same after any lines. -/
theorem expected_append (st : ScanState) (n : Nat) (before after : List (List Char)) :
    expected st ((before ++ after).zipIdx n) =
      (scanFrom st n before).2.features ++
        expected (scanFrom st n before).1 (after.zipIdx (n + before.length)) := by
  induction before generalizing st n with
  | nil => rfl
  | cons line before ih =>
    rw [List.cons_append, List.zipIdx_cons, expected_read, ih, scanFrom, List.append_assoc,
      List.length_cons, Nat.add_right_comm, Nat.add_assoc]

/-- As many features are ended or open as there are headers. -/
theorem length_scanFrom (lines : List (List Char)) :
    (scanFrom .seeking 1 lines).2.features.length +
      (scanFrom .seeking 1 lines).1.feature?.toList.length = lines.countP isHeader := by
  rw [← List.length_append, scanFrom_features]
  change (features (lines.zipIdx 1)).length = _
  rw [← List.length_map (·.name), names_features, List.length_filterMap_eq_countP]
  simp only [Option.isSome_map]
  rfl

/-- The feature that the last feature header of `before` begins. -/
def Begun (fs : List Feature) (before : List (List Char)) (f : Feature) : Prop :=
  ∃ k, before.countP isHeader = k + 1 ∧ fs[k]? = some f

/-- While a feature is open, the first of those that are still expected is the one that the last header
began. -/
theorem begun_of_expected {before : List (List Char)} (rest : List (List Char)) {st : ScanState}
    (hst : (scanFrom .seeking 1 before).1 = st) {g : Feature} (hopen : st.feature? = some g)
    {f : Feature} {fs : List Feature}
    (h : expected st (rest.zipIdx (before.length + 1)) = f :: fs) :
    Begun (features ((before ++ rest).zipIdx 1)) before f := by
  have hall := expected_append .seeking 1 before rest
  have hlength := length_scanFrom before
  rw [hst, Nat.add_comm 1, h] at hall
  rw [hst, hopen] at hlength
  refine ⟨(scanFrom .seeking 1 before).2.features.length, hlength.symm, ?_⟩
  change (expected .seeking _)[_]? = _
  rw [hall, List.getElem?_append_right (Nat.le_refl _), Nat.sub_self]
  rfl

/-- Where the features hold a line that the log does not mention: as the next piece of a description, as
the header of a scenario or as a step. Blank lines among the scenarios are nowhere. -/
inductive Unlogged (fs : List Feature) (before : List (List Char)) (line : List Char) : Prop
  | description {f : Feature} (hf : Begun fs before f) (hplace : place before = .description)
      (rest : List Char) (h : f.description.toList =
        (lastBlock before).flatMap ('\n' :: ·) ++ '\n' :: line ++ rest)
  | scenario {f : Feature} {s : Scenario} (hf : Begun fs before f) (hs : s ∈ f.scenarios)
      (hnumber : s.line = before.length + 1) (hline : scenarioText? line = some s.description.toList)
  | step {f : Feature} {s : Scenario} {t : Step} (hf : Begun fs before f) (hs : s ∈ f.scenarios)
      (ht : t ∈ s.steps) (hnumber : t.line = before.length + 1)
      (hline : stepText? line = some (t.keyword, t.description.toList))
  | blank (hplace : place before = .scenarios) (hline : line.all Text.isBlank = true)

/-- What the log says of a line behind `before`, and why it may say nothing. -/
structure Explains (fs : List Feature) (before : List (List Char)) (line : List Char)
    (note : Option Note) : Prop where
  header_iff (name : String) :
    note = some (.header name) ↔ featureName? line = some name.toList
  skipped_iff : note = some .skipped ↔ isHeader line = false ∧ place before = .outside
  warn_iff : note.map Note.level = some .warn ↔
    isHeader line = false ∧ place before = .scenarios ∧ isBody line = false
  names {scenario feature : String} {shown : List Char}
    (h : note = some (.ended scenario feature shown)) :
    shown = line ∧ ∃ f, Begun fs before f ∧ f.name = feature ∧
      f.scenarios.getLast?.map (·.description) = some scenario
  unlogged : note = none → Unlogged fs before line

section Explains

variable {before : List (List Char)} {line : List Char} (after : List (List Char))

/-- A scenario that is open after a line is in the feature, with the steps that it has. -/
theorem exists_scenario_of_expected {st : ScanState} (hst : (scanFrom .seeking 1 before).1 = st)
    {g : Feature} (hopen : st.feature? = some g) {f : Feature} {s : Scenario}
    (h : expected st ((line :: after).zipIdx (before.length + 1)) =
      expected (.inScenario f s) (after.zipIdx (before.length + 2))) :
    ∃ f', Begun (features ((before ++ line :: after).zipIdx 1)) before f' ∧
      ∃ s' ∈ f'.scenarios, s'.description = s.description ∧ s'.line = s.line ∧
        s.steps <+: s'.steps :=
  ⟨_, begun_of_expected (line :: after) hst hopen h, _, List.mem_append_right _ List.mem_cons_self,
    rfl, rfl, List.prefix_append _ _⟩

theorem unlogged_scenario {st : ScanState} (hst : (scanFrom .seeking 1 before).1 = st) {g : Feature}
    (hopen : st.feature? = some g) {f : Feature} {d : List Char} (hs : scenarioText? line = some d)
    (h : expected st ((line, before.length + 1) :: after.zipIdx (before.length + 2)) =
      expected (.inScenario f (newScenario d (before.length + 1))) (after.zipIdx (before.length + 2))) :
    Unlogged (features ((before ++ line :: after).zipIdx 1)) before line := by
  obtain ⟨f', hbegun, s', hmem, hdescription, hnumber, -⟩ :=
    exists_scenario_of_expected after hst hopen h
  exact .scenario hbegun hmem hnumber (by rw [hs, hdescription, newScenario, String.toList_ofList])

theorem unlogged_text {f : Feature} (hst : (scanFrom .seeking 1 before).1 = .inFeature f)
    (hplace : place before = .description)
    (htext : f.description.toList = (lastBlock before).flatMap ('\n' :: ·))
    (hf : featureName? line = none) (hs : scenarioText? line = none) :
    Unlogged (features ((before ++ line :: after).zipIdx 1)) before line := by
  have hbegun := begun_of_expected (line :: after) hst rfl (expected_inFeature_text hf hs f)
  refine .description hbegun hplace (description (untilFeature (after.zipIdx (before.length + 2)))) ?_
  simp only [String.toList_append, htext, String.toList_ofList]
  simp

theorem unlogged_body {f : Feature} {s : Scenario}
    (hst : (scanFrom .seeking 1 before).1 = .inScenario f s) (hplace : place before = .scenarios)
    (hf : featureName? line = none) (hs : scenarioText? line = none) (hb : isBody line = true) :
    Unlogged (features ((before ++ line :: after).zipIdx 1)) before line := by
  cases ht : stepText? line with
  | some kd =>
    obtain ⟨f', hbegun, s', hmem, -, -, hsteps⟩ := exists_scenario_of_expected
      after hst rfl (expected_inScenario_body hf hs hb f s)
    have hstep : ⟨kd.1, String.ofList kd.2, before.length + 1⟩ ∈ s'.steps := by
      refine hsteps.subset (List.mem_append_right _ ?_)
      simp [steps, ht]
    exact .step hbegun hmem hstep rfl (by rw [ht, String.toList_ofList])
  | none => exact .blank hplace (by simpa [isBody, hs, ht] using hb)

theorem explains_skipped {fs : List Feature} (hf : featureName? line = none)
    (hplace : place before = .outside) : Explains fs before line (some .skipped) where
  header_iff := by simp [hf]
  skipped_iff := by simp [isHeader_eq_false hf, hplace]
  warn_iff := by simp [hplace, Note.level]
  names := by simp
  unlogged := by simp

theorem explains_none {fs : List Feature} (hf : featureName? line = none)
    (hplace : place before = .description ∨ place before = .scenarios ∧ isBody line = true)
    (h : Unlogged fs before line) : Explains fs before line none where
  header_iff := by simp [hf]
  skipped_iff := by rcases hplace with hplace | ⟨hplace, -⟩ <;> simp [hplace]
  warn_iff := by rcases hplace with hplace | ⟨hplace, hb⟩ <;> simp [*]
  names := by simp
  unlogged _ := h

/-- Whichever way a line leads on, the log explains it. -/
theorem explains_of_moves {st st' : ScanState} {note : Option Note}
    (hst : (scanFrom .seeking 1 before).1 = st) (h : Stands st before)
    (hmoves : Moves (before.length + 1) line st st' note) :
    Explains (features ((before ++ line :: after).zipIdx 1)) before line note := by
  cases hmoves with
  | @header _ name hf =>
    have hhead : isHeader line = true := by rw [isHeader, hf]; rfl
    refine ⟨fun name' => ?_, by simp [hhead], by simp [hhead, Note.level], by simp, by simp⟩
    rw [hf, Option.some.injEq, Option.some.injEq, Note.header.injEq]
    exact ⟨fun h => by rw [← h, String.toList_ofList], fun h => by rw [h, String.ofList_toList]⟩
  | seeking hf =>
    obtain h | _ := h
    exact explains_skipped hf h
  | stopped hf =>
    obtain _ | h := h
    exact explains_skipped hf h
  | @text f hf hs =>
    obtain _ | _ | ⟨h, htext⟩ := h
    exact explains_none hf (.inl h) (unlogged_text after hst h htext hf hs)
  | @first f d hf hs =>
    obtain _ | _ | ⟨h, -⟩ := h
    exact explains_none hf (.inl h)
      (unlogged_scenario after hst rfl hs (expected_inFeature_scenario hf hs f))
  | @next f s d hf hs =>
    obtain _ | _ | _ | h := h
    exact explains_none hf (.inr ⟨h, by simp [isBody, hs]⟩)
      (unlogged_scenario after hst rfl hs (expected_inScenario_scenario hf hs f s))
  | @body f s hf hs hb =>
    obtain _ | _ | _ | h := h
    exact explains_none hf (.inr ⟨h, hb⟩) (unlogged_body after hst h hf hs hb)
  | @foreign f s hf hb =>
    obtain _ | _ | _ | h := h
    refine ⟨by simp [hf], by simp [h], by simp [isHeader_eq_false hf, h, hb, Note.level],
      fun hended => ?_, by simp⟩
    obtain ⟨rfl, rfl, rfl⟩ := Note.ended.inj (Option.some.inj hended)
    have hbegun := begun_of_expected (line :: after) hst rfl (expected_inScenario_foreign hf hb f s)
    exact ⟨rfl, _, hbegun, rfl, by simp⟩

/-- What the log says of a line explains it. -/
theorem explains_noteOf (before : List (List Char)) (line : List Char) :
    Explains (features ((before ++ line :: after).zipIdx 1)) before line
      (noteOf (scanFrom .seeking 1 before).1 line) := by
  have hstart : Stands .seeking [] := .seeking rfl
  have hstands := stands_scanFrom hstart 1 before
  rw [List.nil_append] at hstands
  exact explains_of_moves after rfl hstands (moves_read _ _ line)

end Explains

/-- The log of a scan, line by line, and what it leaves out. -/
structure Accounted (lines : List (List Char)) (scanned : Scanned) (notes : List (Option Note)) :
    Prop where
  length_eq : notes.length = lines.length
  log_eq : scanned.log = logOf 1 notes
  names_eq : notes.filterMap (·.bind Note.name?) = scanned.features.map (·.name)
  explains {before after : List (List Char)} {line : List Char} {note : Option Note}
    (hlines : lines = before ++ line :: after) (hnote : notes[before.length]? = some note) :
    Explains scanned.features before line note
  apart {before between after : List (List Char)} {line line' : List Char} {note note' : Note}
    (hlines : lines = before ++ line :: between ++ line' :: after)
    (hnote : notes[before.length]? = some (some note)) (hwarn : note.level = .warn)
    (hnote' : notes[(before ++ line :: between).length]? = some (some note'))
    (hwarn' : note'.level = .warn) : ∃ l ∈ between, isHeader l = true

/-- Behind a line that ends a feature no feature is open up to the next header. -/
theorem place_of_foreign {before between : List (List Char)} {line : List Char}
    (hplace : place before = .scenarios) (hhead : isHeader line = false)
    (hb : isBody line = false) (h : ∀ l ∈ between, isHeader l = false) :
    place (before ++ line :: between) = .outside := by
  induction between using List.reverseRecOn with
  | nil => rw [place_append hhead, hplace, Place.next, hb]; rfl
  | append_singleton between l ih =>
    obtain ⟨hbetween, hl⟩ := List.forall_mem_append.1 h
    rw [← List.cons_append, ← List.append_assoc, place_append (hl l List.mem_cons_self),
      ih hbetween]
    rfl

/-- Nothing is dropped without a trace: the log accounts for the lines of a text in order, and each line
that it leaves out is found in the features, unless it is blank. -/
theorem accounted_scanAll (text : String) :
    ∃ notes, Accounted (linesOf text.toList) (scanAll text) notes := by
  rw [scanAll, lines_eq_linesOf]
  generalize linesOf text.toList = lines
  have hfeatures : (scanLines lines).features = features (lines.zipIdx 1) :=
    scanFrom_features .seeking 1 lines
  have hexplains {before after : List (List Char)} {line : List Char} {note : Option Note}
      (hlines : lines = before ++ line :: after)
      (hnote : (notesFrom .seeking 1 lines)[before.length]? = some note) :
      Explains (scanLines lines).features before line note := by
    rw [hfeatures]
    subst hlines
    obtain rfl := Option.some.inj ((getElem?_notes .seeking 1 before line after).symm.trans hnote)
    exact explains_noteOf after before line
  refine ⟨notesFrom .seeking 1 lines, length_notes _ _ _, log_scanFrom _ _ _, ?_, hexplains, ?_⟩
  · rw [names_notes, hfeatures, names_features]
  · intro before between after line line' note note' hlines hnote hwarn hnote' hwarn'
    by_contra hnone
    have hbetween : ∀ l ∈ between, isHeader l = false := by simpa using hnone
    obtain ⟨hhead, hplace, hb⟩ := (hexplains (hlines.trans (List.append_assoc ..)) hnote).warn_iff.1
      (congrArg some hwarn)
    obtain ⟨-, hplace', -⟩ := (hexplains hlines hnote').warn_iff.1 (congrArg some hwarn')
    rw [place_of_foreign hplace hhead hb hbetween] at hplace'
    cases hplace'

end Outline
end Acceptance.Feature
