import Acceptance.Proofs.Course
import Acceptance.Proofs.JsonText
import Acceptance.Report.Json
import Mathlib.Data.List.Forall2
import Mathlib.Data.List.TakeWhile

/-!
The JSON report, read back by the grammar of JSON texts. Every written value is read again as the value
that it is, so that the report lists the records; and two reports are the same text if and only if their
records show the same.
-/
namespace Acceptance
open JsonText (Tree Reads Means)

namespace Json

mutual

/-- What a value is read as. -/
def tree : Json → Tree
  | bool b => .bool b
  | num n => .number n
  | str s => .string s
  | arr items => .array (trees items)
  | obj members => .object (memberTrees members)

def trees : List Json → List Tree
  | [] => []
  | item :: more => item.tree :: trees more

def memberTrees : List (String × Json) → List (String × Tree)
  | [] => []
  | (name, value) :: more => (name, value.tree) :: memberTrees more

end

end Json

namespace JsonText
open Xml (isBlank skipBlanks numeral?)

/-! ### Numbers -/

theorem head?_toDigits_ne {n : Nat} (hn : 0 < n) : (Nat.toDigits 10 n).head? ≠ some '0' := by
  induction n using Nat.strongRecOn with
  | ind n ih =>
    by_cases hlt : n < 10
    · have hdigit : ∀ m < 10, 0 < m → Nat.digitChar m ≠ '0' := by decide
      rw [Nat.toDigits_of_lt_base hlt, List.head?_cons, Ne, Option.some.injEq]
      exact hdigit n hlt hn
    · have hle : 10 ≤ n := by omega
      have hne : Nat.toDigits 10 (n / 10) ≠ [] := Nat.toDigits_ne_nil
      rw [Nat.toDigits_of_base_le (by decide) hle, List.head?_append_of_ne_nil _ hne]
      exact ih (n / 10) (by omega) (by omega)

theorem isDigit_toDigits (n : Nat) : ∀ c ∈ Nat.toDigits 10 n, c.isDigit = true :=
  fun _ hc => Nat.isDigit_of_mem_toDigits (by decide) (by decide) hc

theorem isWhole_toDigits (n : Nat) : isWhole (Nat.toDigits 10 n) = true := by
  have hall : (Nat.toDigits 10 n).all Char.isDigit = true := List.all_eq_true.2 (isDigit_toDigits n)
  have hne : Nat.toDigits 10 n ≠ [] := Nat.toDigits_ne_nil
  have hdigits : isDigits (Nat.toDigits 10 n) = true := by
    simp [isDigits, hall, hne]
  unfold isWhole
  rw [hdigits]
  rcases Nat.eq_zero_or_pos n with rfl | hn
  · rfl
  · simp [head?_toDigits_ne hn]

theorem number?_toDigits (n : Nat) : number? (Nat.toDigits 10 n) = some (n : ℚ) := by
  have htake : (Nat.toDigits 10 n).takeWhile Char.isDigit = Nat.toDigits 10 n :=
    List.takeWhile_eq_self_iff.2 (isDigit_toDigits n)
  have hdrop : (Nat.toDigits 10 n).dropWhile Char.isDigit = [] :=
    List.dropWhile_eq_nil_iff.2 (isDigit_toDigits n)
  have hmagnitude : magnitude? (Nat.toDigits 10 n) = some (n : ℚ) := by
    simp [magnitude?, htake, hdrop, isWhole_toDigits, fraction?, exponent?, natural,
      Nat.ofDigitChars_ten_toDigits]
  rw [number?, hmagnitude]
  intro s hs
  have hminus := isDigit_toDigits n '-' (by rw [hs]; exact List.mem_cons_self)
  exact absurd hminus (by decide)

/-! ### Strings -/

theorem unit?_control : ∀ n < 0x20,
    unit? '0' '0' (Nat.digitChar (n / 16)) (Nat.digitChar (n % 16)) = some n := by
  decide

/-- Each character is read again from what is written for it. -/
theorem stringBody_escapeChar (c : Char) {s text rest : List Char} (more : StringBody s text rest) :
    StringBody (Json.escapeChar c ++ s) (c :: text) rest := by
  unfold Json.escapeChar
  split
  next => exact .escaped (.short rfl) more
  next => exact .escaped (.short rfl) more
  next => exact .escaped (.short rfl) more
  next => exact .escaped (.short rfl) more
  next => exact .escaped (.short rfl) more
  next => exact .escaped (.short rfl) more
  next => exact .escaped (.short rfl) more
  next hquote hslash _ _ _ _ _ =>
    split
    next hcontrol =>
      have hhigh : isHigh c.toNat = false := by simp [isHigh]; omega
      have hlow : isLow c.toNat = false := by simp [isLow]; omega
      refine .escaped ?_ more
      nth_rewrite 3 [← Char.ofNat_toNat c]
      exact .single (unit?_control c.toNat hcontrol) hhigh hlow
    next hcontrol => exact .literal (Nat.le_of_not_lt hcontrol) hquote hslash more

theorem stringBody_writeString (s rest : List Char) :
    StringBody (s.flatMap Json.escapeChar ++ '"' :: rest) s rest := by
  induction s with
  | nil => exact .close
  | cons c s ih =>
    rw [List.flatMap_cons, List.append_assoc]
    exact stringBody_escapeChar c ih

/-! ### Values -/

/-- A number that stands before the text ends there. -/
def EndsNumber (rest : List Char) : Prop := ∀ c ∈ rest.head?, isNumberChar c = false

theorem isBlank_of_isDigit {c : Char} (hc : c.isDigit = true) : isBlank c = false := by
  by_contra h
  have hblank : c = ' ' ∨ c = '\t' ∨ c = '\n' ∨ c = '\r' := by
    rw [Bool.not_eq_false] at h
    simpa [isBlank, or_assoc] using h
  rcases hblank with rfl | rfl | rfl | rfl <;> exact absurd hc (by decide)

theorem reads_toDigits (n : Nat) {rest : List Char} (hrest : EndsNumber rest) :
    Reads .value (Nat.toDigits 10 n ++ rest) (.number n) rest := by
  refine .number ?_ (number?_toDigits n)
  have hskip : skipBlanks (Nat.toDigits 10 n ++ rest) = Nat.toDigits 10 n ++ rest := by
    cases hdigits : Nat.toDigits 10 n with
    | nil => exact absurd hdigits Nat.toDigits_ne_nil
    | cons c more =>
      have hc : c.isDigit = true := isDigit_toDigits n c (by rw [hdigits]; exact List.mem_cons_self)
      exact List.dropWhile_cons_of_neg (by rw [isBlank_of_isDigit hc]; decide)
  have hnumber : ∀ c ∈ Nat.toDigits 10 n, isNumberChar c = true := by
    intro c hc
    rw [isNumberChar, isDigit_toDigits n c hc, Bool.true_or]
  have hend : rest.takeWhile isNumberChar = [] ∧ rest.dropWhile isNumberChar = rest := by
    cases rest with
    | nil => exact ⟨rfl, rfl⟩
    | cons c more =>
      have hc : isNumberChar c = false := hrest c rfl
      simp [hc]
  rw [hskip, List.span_eq_takeWhile_dropWhile, List.takeWhile_append_of_pos hnumber,
    List.dropWhile_append_of_pos hnumber, hend.1, hend.2, List.append_nil]

theorem label_writeString (name : String) (rest : List Char) :
    Label (Json.writeString name ++ ':' :: rest) name rest := by
  have hbody := stringBody_writeString name.toList (':' :: rest)
  have hname : String.ofList name.toList = name := String.ofList_toList
  rw [Json.writeString, List.cons_append, List.append_assoc]
  nth_rewrite 2 [← hname]
  exact .mk rfl hbody rfl

/-- No number goes on with such a character. -/
theorem endsNumber_cons {c : Char} (hc : isNumberChar c = false) (rest : List Char) :
    EndsNumber (c :: rest) := by
  rintro d ⟨⟩
  exact hc

mutual

/-- A written value is read as what it is. -/
theorem reads_write : (j : Json) → (rest : List Char) → EndsNumber rest →
    Reads .value (j.write ++ rest) j.tree rest
  | .bool true, _, _ => .true rfl
  | .bool false, _, _ => .false rfl
  | .num n, _, hrest => reads_toDigits n hrest
  | .str s, rest, _ => by
    have hbody := stringBody_writeString s.toList rest
    have hs : String.ofList s.toList = s := String.ofList_toList
    rw [Json.write, Json.writeString, List.cons_append, List.append_assoc, Json.tree]
    nth_rewrite 2 [← hs]
    exact .string rfl hbody
  | .arr [], _, _ => .noItems rfl rfl
  | .arr (item :: more), rest, _ =>
    .array rfl (reads_writeItems (item :: more) (List.cons_ne_nil _ _) rest)
  | .obj [], _, _ => .noMembers rfl rfl
  | .obj (member :: more), rest, _ =>
    .object rfl (reads_writeMembers (member :: more) (List.cons_ne_nil _ _) rest)

theorem reads_writeItems : (items : List Json) → items ≠ [] → (rest : List Char) →
    Reads .items (Json.writeItems items ++ [']'] ++ rest) (.array (Json.trees items)) rest
  | [item], _, rest => by
    have hitem := reads_write item (']' :: rest) (endsNumber_cons rfl _)
    rw [Json.writeItems, List.append_assoc]
    exact .lastItem hitem rfl
  | item :: next :: more, _, rest => by
    have hmore := reads_writeItems (next :: more) (List.cons_ne_nil _ _) rest
    have hitem := reads_write item (',' :: (Json.writeItems (next :: more) ++ [']'] ++ rest))
      (endsNumber_cons rfl _)
    have hwrite : Json.writeItems (item :: next :: more) ++ [']'] ++ rest =
        item.write ++ ',' :: (Json.writeItems (next :: more) ++ [']'] ++ rest) := by
      simp [Json.writeItems]
    rw [hwrite]
    exact .item hitem rfl hmore

theorem reads_writeMembers : (members : List (String × Json)) → members ≠ [] → (rest : List Char) →
    Reads .members (Json.writeMembers members ++ ['\x7d'] ++ rest)
      (.object (Json.memberTrees members)) rest
  | [(name, value)], _, rest => by
    have hvalue := reads_write value ('\x7d' :: rest) (endsNumber_cons rfl _)
    have hwrite : Json.writeMembers [(name, value)] ++ ['\x7d'] ++ rest =
        Json.writeString name ++ ':' :: (value.write ++ '\x7d' :: rest) := by
      simp [Json.writeMembers]
    rw [hwrite]
    exact .lastMember (label_writeString name _) hvalue rfl
  | (name, value) :: next :: more, _, rest => by
    have hmore := reads_writeMembers (next :: more) (List.cons_ne_nil _ _) rest
    have hvalue := reads_write value (',' :: (Json.writeMembers (next :: more) ++ ['\x7d'] ++ rest))
      (endsNumber_cons rfl _)
    have hwrite : Json.writeMembers ((name, value) :: next :: more) ++ ['\x7d'] ++ rest =
        Json.writeString name ++
          ':' :: (value.write ++ ',' :: (Json.writeMembers (next :: more) ++ ['\x7d'] ++ rest)) := by
      simp [Json.writeMembers]
    rw [hwrite]
    exact .member (label_writeString name _) hvalue rfl hmore

end

theorem means_text (j : Json) : Means j.text.toList j.tree := by
  have hread := reads_write j [] (by rintro c ⟨⟩)
  rw [List.append_nil] at hread
  rw [Json.text, String.toList_ofList]
  exact ⟨[], hread, rfl⟩

/-- The values of the members that have a name. -/
def Tree.values (name : String) : Tree → List Tree
  | object members => (members.filter fun m => m.1 = name).map (·.2)
  | _ => []

/-! ### Records -/

/-- Each of the members is there once, and a message only if there is one. -/
structure ShowsStep (t : Tree) (s : StepRecord) : Prop where
  keyword : t.values "keyword" = [.string s.keyword.name]
  text : t.values "text" = [.string s.description]
  line : t.values "line" = [.number s.line]
  status : t.values "status" = [.string s.status.label]
  message : t.values "message" = s.message.toList.map .string

structure ShowsScenario (t : Tree) (s : ScenarioRecord) : Prop where
  name : t.values "name" = [.string s.name]
  line : t.values "line" = [.number s.line]
  status : t.values "status" = [.string s.status.label]
  message : t.values "message" = s.message.toList.map .string
  steps : ∃ items, t.values "steps" = [.array items] ∧ List.Forall₂ ShowsStep items s.steps

/-- A feature has the status of its most severe scenario, and has passed if it has none. -/
structure ShowsFeature (t : Tree) (f : FeatureRecord) : Prop where
  name : t.values "name" = [.string f.name]
  status : ∃ o ∈ .success :: f.scenarios.map (·.outcome),
    (∀ s ∈ f.scenarios, s.outcome.severity ≤ o.severity) ∧
      t.values "status" = [.string o.status.label]
  scenarios : ∃ items, t.values "scenarios" = [.array items] ∧
    List.Forall₂ ShowsScenario items f.scenarios

def ShowsReport (t : Tree) (fs : List FeatureRecord) : Prop :=
  ∃ items, t.values "features" = [.array items] ∧ List.Forall₂ ShowsFeature items fs

theorem showsStep_json (s : StepRecord) : ShowsStep s.json.tree s := by
  obtain ⟨keyword, description, line, status, message⟩ := s
  cases message <;> constructor <;>
    simp [StepRecord.json, Json.member?, Json.tree, Json.memberTrees, Tree.values]

theorem forall₂_trees {α : Type} {R : Tree → α → Prop} {f : α → Json} (h : ∀ x, R (f x).tree x)
    (xs : List α) : List.Forall₂ R (Json.trees (xs.map f)) xs := by
  induction xs with
  | nil => exact .nil
  | cons x xs ih => exact .cons (h x) ih

theorem showsScenario_json (s : ScenarioRecord) : ShowsScenario s.json.tree s := by
  have hsteps := forall₂_trees showsStep_json s.steps
  cases hmessage : s.message <;> constructor <;>
    simp [ScenarioRecord.json, Json.member?, Json.tree, Json.memberTrees, Tree.values, hmessage, hsteps]

theorem showsFeature_json (f : FeatureRecord) : ShowsFeature f.json.tree f := by
  have hscenarios := forall₂_trees showsScenario_json f.scenarios
  have hworst := Outcome.worst_mem_cons (f.scenarios.map (·.outcome))
  have hvalues : f.json.tree.values "status" =
      [.string (Outcome.worst (f.scenarios.map (·.outcome))).status.label] := by
    simp [FeatureRecord.json, FeatureRecord.status, Json.tree, Json.memberTrees, Tree.values]
  refine ⟨?_, ⟨_, hworst, fun s hs => ?_, hvalues⟩, ?_⟩
  · simp [FeatureRecord.json, Json.tree, Json.memberTrees, Tree.values]
  · exact Outcome.severity_le_worst (List.mem_map_of_mem hs)
  · simp [FeatureRecord.json, Json.tree, Json.memberTrees, Tree.values, hscenarios]

theorem showsReport_json (fs : List FeatureRecord) :
    ShowsReport (Json.obj [("features", .arr (fs.map FeatureRecord.json))]).tree fs :=
  ⟨_, by simp [Json.tree, Json.memberTrees, Tree.values], forall₂_trees showsFeature_json fs⟩

end JsonText

/-! ### What is shown can be told from the text -/

/-- What the report shows of a scenario: its name, line, status and message, and its steps. -/
def ScenarioRecord.shown (s : ScenarioRecord) :
    String × Nat × Status × Option String × List StepRecord :=
  (s.name, s.line, s.status, s.message, s.steps)

/-- What the report shows of a feature: its name and status, and its scenarios. -/
def FeatureRecord.shown (f : FeatureRecord) :
    String × Status × List (String × Nat × Status × Option String × List StepRecord) :=
  (f.name, f.status, f.scenarios.map ScenarioRecord.shown)

theorem Status.label_injective : Function.Injective label := by
  intro a b h
  cases a <;> cases b <;> simp_all [label]

theorem Keyword.name_injective : Function.Injective name := by
  intro a b h
  cases a <;> cases b <;> simp_all [name]

namespace JsonText

theorem string_injective {a b : String} (h : [Tree.string a] = [Tree.string b]) : a = b :=
  Tree.string.inj (List.cons.inj h).1

theorem number_injective {n m : Nat} (h : [Tree.number n] = [Tree.number m]) : n = m :=
  Rat.natCast_inj.1 (Tree.number.inj (List.cons.inj h).1)

theorem message_injective {m m' : Option String}
    (h : m.toList.map Tree.string = m'.toList.map Tree.string) : m = m' := by
  cases m <;> cases m' <;> simp_all

theorem map_eq_of_forall₂ {α β : Type} {R : Tree → α → Prop} {f : α → β}
    (hR : ∀ {t x y}, R t x → R t y → f x = f y) {ts : List Tree} {xs ys : List α}
    (hx : List.Forall₂ R ts xs) (hy : List.Forall₂ R ts ys) : xs.map f = ys.map f := by
  induction hx generalizing ys with
  | nil => cases hy; rfl
  | cons h _ ih =>
    obtain _ | ⟨h', hy⟩ := hy
    rw [List.map_cons, List.map_cons, hR h h', ih hy]

theorem ShowsStep.unique {t : Tree} {s s' : StepRecord} (h : ShowsStep t s) (h' : ShowsStep t s') :
    s = s' := by
  have hkeyword := Keyword.name_injective (string_injective (h.keyword.symm.trans h'.keyword))
  have htext := string_injective (h.text.symm.trans h'.text)
  have hline := number_injective (h.line.symm.trans h'.line)
  have hstatus := Status.label_injective (string_injective (h.status.symm.trans h'.status))
  have hmessage := message_injective (h.message.symm.trans h'.message)
  cases s
  cases s'
  simp_all

theorem ShowsScenario.unique {t : Tree} {s s' : ScenarioRecord} (h : ShowsScenario t s)
    (h' : ShowsScenario t s') : s.shown = s'.shown := by
  have hname := string_injective (h.name.symm.trans h'.name)
  have hline := number_injective (h.line.symm.trans h'.line)
  have hstatus := Status.label_injective (string_injective (h.status.symm.trans h'.status))
  have hmessage := message_injective (h.message.symm.trans h'.message)
  obtain ⟨items, hitems, hsteps⟩ := h.steps
  obtain ⟨items', hitems', hsteps'⟩ := h'.steps
  obtain rfl := Tree.array.inj (List.cons.inj (hitems.symm.trans hitems')).1
  have hsame := map_eq_of_forall₂ (fun h h' => congrArg id (h.unique h')) hsteps hsteps'
  rw [List.map_id, List.map_id] at hsame
  rw [ScenarioRecord.shown, ScenarioRecord.shown, hname, hline, hstatus, hmessage, hsame]

theorem ShowsFeature.unique {t : Tree} {f f' : FeatureRecord} (h : ShowsFeature t f)
    (h' : ShowsFeature t f') : f.shown = f'.shown := by
  have hname := string_injective (h.name.symm.trans h'.name)
  obtain ⟨o, ho, hsevere, hstatus⟩ := h.status
  obtain ⟨o', ho', hsevere', hstatus'⟩ := h'.status
  have hsame := Status.label_injective (string_injective (hstatus.symm.trans hstatus'))
  have hf : f.status = o.status := Outcome.status_worst ho (List.forall_mem_map.2 hsevere)
  have hf' : f'.status = o'.status := Outcome.status_worst ho' (List.forall_mem_map.2 hsevere')
  obtain ⟨items, hitems, hscenarios⟩ := h.scenarios
  obtain ⟨items', hitems', hscenarios'⟩ := h'.scenarios
  obtain rfl := Tree.array.inj (List.cons.inj (hitems.symm.trans hitems')).1
  have hshown := map_eq_of_forall₂ (fun h h' => h.unique h') hscenarios hscenarios'
  rw [FeatureRecord.shown, FeatureRecord.shown, hname, hf, hf', hsame, hshown]

theorem ShowsReport.unique {t : Tree} {fs gs : List FeatureRecord} (h : ShowsReport t fs)
    (h' : ShowsReport t gs) : fs.map FeatureRecord.shown = gs.map FeatureRecord.shown := by
  obtain ⟨items, hitems, hfeatures⟩ := h
  obtain ⟨items', hitems', hfeatures'⟩ := h'
  obtain rfl := Tree.array.inj (List.cons.inj (hitems.symm.trans hitems')).1
  exact map_eq_of_forall₂ (fun h h' => h.unique h') hfeatures hfeatures'

end JsonText

/-! ### What is not shown is not in the text -/

theorem map_eq_of_factorsThrough {α β : Type} {f : α → β} {g : α → Json} (h : g.FactorsThrough f)
    {xs ys : List α} (hmap : xs.map f = ys.map f) : xs.map g = ys.map g := by
  have : Nonempty Json := ⟨.bool true⟩
  obtain ⟨e, rfl⟩ := (Function.factorsThrough_iff g).1 h
  rw [← List.map_map, hmap, List.map_map]

theorem ScenarioRecord.json_factorsThrough : Function.FactorsThrough json shown := by
  intro s s' h
  simp only [shown, Prod.mk.injEq] at h
  obtain ⟨hname, hline, hstatus, hmessage, hsteps⟩ := h
  rw [json, json, hname, hline, hstatus, hmessage, hsteps]

theorem FeatureRecord.json_factorsThrough : Function.FactorsThrough json shown := by
  intro f f' h
  simp only [shown, Prod.mk.injEq] at h
  obtain ⟨hname, hstatus, hscenarios⟩ := h
  rw [json, json, hname, hstatus,
    map_eq_of_factorsThrough ScenarioRecord.json_factorsThrough hscenarios]

namespace Report
open JsonText

/-- The report lists the records, and its text tells apart what it shows of them. -/
theorem reads_json (fs : List FeatureRecord) :
    ∃ t, (∀ v, Means (json fs).toList v ↔ v = t) ∧ ShowsReport t fs ∧
      ∀ gs, json fs = json gs ↔ fs.map FeatureRecord.shown = gs.map FeatureRecord.shown := by
  have hmeans (fs : List FeatureRecord) : Means (json fs).toList
      (Json.obj [("features", .arr (fs.map FeatureRecord.json))]).tree := means_text _
  refine ⟨_, fun v => ⟨fun hv => hv.unique (hmeans fs), ?_⟩, showsReport_json fs, fun gs => ⟨?_, ?_⟩⟩
  · rintro rfl
    exact hmeans fs
  · intro heq
    have hgs := hmeans gs
    rw [← heq] at hgs
    have hshows := showsReport_json gs
    rw [hgs.unique (hmeans fs)] at hshows
    exact (showsReport_json fs).unique hshows
  · intro hshown
    rw [json, json, map_eq_of_factorsThrough FeatureRecord.json_factorsThrough hshown]

end Report
end Acceptance
