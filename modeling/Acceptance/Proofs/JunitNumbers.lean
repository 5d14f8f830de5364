import Acceptance.Report.Junit
import Acceptance.Text.Lines

/-!
Reading a JUnit report back. No value in it holds a newline or a double quote, so each test suite has its
numbers of scenarios in a line of its own, between double quotes.
-/
namespace Acceptance.Report
open Text

theorem notMem_attrText {c : Char} (hc : c = '\n' ∨ c = '"') (s : String) : c ∉ attrText s := by
  intro hmem
  obtain ⟨d, -, hd⟩ := List.mem_flatMap.1 hmem
  unfold attrChar at hd
  split at hd
  · split at hd
    case h_7 =>
      obtain rfl := List.mem_singleton.1 hd
      rcases hc with rfl | rfl <;> contradiction
    all_goals
      rcases hc with rfl | rfl <;> revert hd <;> decide
  · rcases hc with rfl | rfl <;> revert hd <;> decide

theorem isXmlChar_of_isDigit {c : Char} (hc : c.isDigit = true) : isXmlChar c = true := by
  have hlt : 48 ≤ c.toNat ∧ c.toNat ≤ 57 := by
    simpa [Char.isDigit, UInt32.le_iff_toNat_le] using hc
  simp only [isXmlChar, Bool.or_eq_true, Bool.and_eq_true, decide_eq_true_eq]
  omega

theorem attrChar_of_isDigit {c : Char} (hc : c.isDigit = true) : attrChar c = [c] := by
  unfold attrChar
  rw [if_pos (isXmlChar_of_isDigit hc)]
  split <;> first | rfl | exact absurd hc (by decide)

/-- A number stands in the report as its decimal digits. -/
theorem attrText_toString (n : Nat) : attrText (toString n) = Nat.toDigits 10 n := by
  have hdigits : (toString n).toList = Nat.toDigits 10 n := Nat.toList_repr
  have hall : ∀ c ∈ Nat.toDigits 10 n, c.isDigit = true :=
    fun c hc => Nat.isDigit_of_mem_toDigits (by decide) (by decide) hc
  rw [attrText, hdigits]
  generalize Nat.toDigits 10 n = ds at hall
  induction ds with
  | nil => rfl
  | cons c ds ih =>
    obtain ⟨hc, hds⟩ := List.forall_mem_cons.1 hall
    rw [List.flatMap_cons, attrChar_of_isDigit hc, ih hds]
    rfl

/-- The number under a name, if the texts are those before and between the double quotes of a line:
names and values take turns. -/
def numberAmong? (name : String) : List (List Char) → Option Nat
  | before :: value :: more =>
    if (' ' :: name.toList ++ ['=']).isSuffixOf before then some (Nat.ofDigitChars 10 value 0)
    else numberAmong? name more
  | _ => none

/-- The number that a line has for an attribute, if the line is the beginning of a test suite. -/
def suiteNumber? (name : String) (line : List Char) : Option Nat :=
  if "  <testsuite ".toList.isPrefixOf line then numberAmong? name (cut '"' line).1 else none

/-- The numbers that the test suites of a document have for an attribute. -/
def suiteNumbers (name : String) (document : List Char) : List Nat :=
  (cut '\n' document).1.filterMap (suiteNumber? name)

theorem suiteNumbers_line (name : String) {line : List Char} (hline : '\n' ∉ line)
    (rest : List Char) :
    suiteNumbers name (line ++ '\n' :: rest) =
      (suiteNumber? name line).toList ++ suiteNumbers name rest := by
  rw [suiteNumbers, cut_append_newline '\n' line rest hline]
  cases h : suiteNumber? name line with
  | none => rw [List.filterMap_cons_none h]; rfl
  | some n => rw [List.filterMap_cons_some h]; rfl

theorem suiteNumbers_other (name : String) {line : List Char} (hline : '\n' ∉ line)
    (hother : "  <testsuite ".toList.isPrefixOf line = false) (rest : List Char) :
    suiteNumbers name (line ++ '\n' :: rest) = suiteNumbers name rest := by
  have hnone : suiteNumber? name line = none := by
    rw [suiteNumber?, hother]
    rfl
  rw [suiteNumbers_line name hline, hnone]
  rfl

theorem notMem_attr {name : String} (hname : '\n' ∉ name.toList) (value : String) :
    '\n' ∉ attr name value := by
  have hvalue := notMem_attrText (.inl rfl) value
  simp only [attr, List.mem_cons, List.mem_append, not_or]
  exact ⟨by decide, ⟨⟨hname, by decide⟩, hvalue⟩, by decide, List.not_mem_nil⟩

/-- An attribute is cut into its name, with what is before it, and its value. -/
theorem cut_attr {before : List Char} {name : String} (hbefore : '"' ∉ before)
    (hname : '"' ∉ name.toList) (value : String) (rest : List Char) :
    (cut '"' (before ++ attr name value ++ rest)).1 =
      (before ++ ' ' :: (name.toList ++ ['='])) :: attrText value :: (cut '"' rest).1 := by
  have hfirst : '"' ∉ before ++ ' ' :: (name.toList ++ ['=']) := by
    simp only [List.mem_append, List.mem_cons, not_or]
    exact ⟨hbefore, by decide, hname, by decide, List.not_mem_nil⟩
  have hshape : before ++ attr name value ++ rest =
      (before ++ ' ' :: (name.toList ++ ['='])) ++ '"' :: (attrText value ++ '"' :: rest) := by
    simp [attr]
  rw [hshape, cut_append_newline _ _ _ hfirst,
    cut_append_newline _ _ _ (notMem_attrText (.inr rfl) value)]

/-- The line that begins a test suite. -/
def suiteLine (name : String) (tests failures skipped : Nat) : List Char :=
  "  <testsuite".toList ++ attr "name" name ++ attr "tests" (toString tests) ++
    attr "failures" (toString failures) ++ attr "skipped" (toString skipped) ++ ['>']

theorem notMem_suiteLine (name : String) (tests failures skipped : Nat) :
    '\n' ∉ suiteLine name tests failures skipped := by
  unfold suiteLine
  simp only [List.mem_append, not_or]
  exact ⟨⟨⟨⟨⟨by decide, notMem_attr (by decide) _⟩, notMem_attr (by decide) _⟩,
    notMem_attr (by decide) _⟩, notMem_attr (by decide) _⟩, by decide⟩

theorem cut_suiteLine (name : String) (tests failures skipped : Nat) :
    (cut '"' (suiteLine name tests failures skipped)).1 =
      ["  <testsuite name=".toList, attrText name, " tests=".toList, Nat.toDigits 10 tests,
        " failures=".toList, Nat.toDigits 10 failures, " skipped=".toList,
        Nat.toDigits 10 skipped] := by
  have hshape : suiteLine name tests failures skipped =
      "  <testsuite".toList ++ attr "name" name ++ ([] ++ attr "tests" (toString tests) ++
        ([] ++ attr "failures" (toString failures) ++
          ([] ++ attr "skipped" (toString skipped) ++ ['>']))) := by
    unfold suiteLine
    simp only [List.append_assoc, List.nil_append]
  rw [hshape, cut_attr (by decide) (by decide), cut_attr (by decide) (by decide),
    cut_attr (by decide) (by decide), cut_attr (by decide) (by decide), attrText_toString,
    attrText_toString, attrText_toString]
  rfl

/-- The numbers of a test suite are read as they were written. -/
theorem suiteNumber?_suiteLine (name : String) (tests failures skipped : Nat) :
    suiteNumber? "tests" (suiteLine name tests failures skipped) = some tests ∧
      suiteNumber? "failures" (suiteLine name tests failures skipped) = some failures ∧
      suiteNumber? "skipped" (suiteLine name tests failures skipped) = some skipped := by
  have hprefix : "  <testsuite ".toList.isPrefixOf (suiteLine name tests failures skipped) = true :=
    rfl
  have hread (key : String) : suiteNumber? key (suiteLine name tests failures skipped) =
      numberAmong? key (cut '"' (suiteLine name tests failures skipped)).1 := if_pos hprefix
  have hdigits (n : Nat) : some (Nat.ofDigitChars 10 (Nat.toDigits 10 n) 0) = some n :=
    congrArg some Nat.ofDigitChars_ten_toDigits
  rw [hread, hread, hread, cut_suiteLine]
  exact ⟨hdigits tests, hdigits failures, hdigits skipped⟩

theorem suiteNumbers_testCase (name : String) (s : ScenarioRecord) (rest : List Char) :
    suiteNumbers name (testCase s ++ rest) = suiteNumbers name rest := by
  have hname : '\n' ∉ attr "name" s.name := notMem_attr (by decide) _
  have hclass : '\n' ∉ attr "classname" s.featureName := notMem_attr (by decide) _
  have hbegin : '\n' ∉ "    <testcase".toList ++ attr "name" s.name ++
      attr "classname" s.featureName := by
    simp only [List.mem_append, not_or]
    exact ⟨⟨by decide, hname⟩, hclass⟩
  cases hremark : remark? s.status with
  | none =>
    have hline : testCase s ++ rest = ("    <testcase".toList ++ attr "name" s.name ++
        attr "classname" s.featureName ++ " />".toList) ++ '\n' :: rest := by
      unfold testCase
      rw [hremark]
      simp
    rw [hline]
    refine suiteNumbers_other name ?_ rfl rest
    rw [List.mem_append, not_or]
    exact ⟨hbegin, by decide⟩
  | some child =>
    have hchild : '\n' ∉ child.toList := by
      cases hstatus : s.status <;> rw [hstatus] at hremark <;> cases hremark <;> decide
    have hlines : testCase s ++ rest = ("    <testcase".toList ++ attr "name" s.name ++
        attr "classname" s.featureName ++ ['>']) ++ '\n' ::
          (("      <".toList ++ child.toList ++ attr "message" (s.message.getD "") ++
            " />".toList) ++ '\n' :: ("    </testcase>".toList ++ '\n' :: rest)) := by
      unfold testCase
      rw [hremark]
      simp
    rw [hlines, suiteNumbers_other name ?_ rfl, suiteNumbers_other name ?_ rfl,
      suiteNumbers_other name (by decide) rfl]
    · simp only [List.mem_append, not_or]
      exact ⟨⟨⟨by decide, hchild⟩, notMem_attr (by decide) _⟩, by decide⟩
    · rw [List.mem_append, not_or]
      exact ⟨hbegin, by decide⟩

theorem suiteNumbers_testCases (name : String) (ss : List ScenarioRecord) (rest : List Char) :
    suiteNumbers name (ss.flatMap testCase ++ rest) = suiteNumbers name rest := by
  induction ss with
  | nil => rfl
  | cons s ss ih => rw [List.flatMap_cons, List.append_assoc, suiteNumbers_testCase, ih]

/-- The number of scenarios of a feature that the report marks by an element. -/
def marked (element : String) (f : FeatureRecord) : Nat :=
  (f.scenarios.filter (remark? ·.status == some element)).length

theorem suiteNumbers_testSuite (name : String) (f : FeatureRecord) (rest : List Char) :
    suiteNumbers name (testSuite f ++ rest) =
      (suiteNumber? name (suiteLine f.name f.scenarios.length (marked "failure" f)
        (marked "skipped" f))).toList ++ suiteNumbers name rest := by
  have hlines : testSuite f ++ rest = suiteLine f.name f.scenarios.length (marked "failure" f)
      (marked "skipped" f) ++ '\n' ::
        (f.scenarios.flatMap testCase ++ ("  </testsuite>".toList ++ '\n' :: rest)) := by
    unfold testSuite suiteLine marked
    simp
  rw [hlines, suiteNumbers_line name (notMem_suiteLine _ _ _ _), suiteNumbers_testCases,
    suiteNumbers_other name (by decide) rfl]

theorem suiteNumbers_junit (name : String) {count : FeatureRecord → Nat}
    (hcount : ∀ f : FeatureRecord, suiteNumber? name (suiteLine f.name f.scenarios.length
      (marked "failure" f) (marked "skipped" f)) = some (count f)) (fs : List FeatureRecord) :
    suiteNumbers name (junit fs).toList = fs.map count := by
  have hlines : (junit fs).toList = "<?xml version=\"1.0\" encoding=\"UTF-8\"?>".toList ++ '\n' ::
      ("<testsuites>".toList ++ '\n' :: (fs.flatMap testSuite ++
        ("</testsuites>".toList ++ '\n' :: []))) := by
    unfold junit
    simp
  rw [hlines, suiteNumbers_other name (by decide) rfl, suiteNumbers_other name (by decide) rfl]
  clear hlines
  induction fs with
  | nil => exact suiteNumbers_other name (by decide) rfl []
  | cons f fs ih =>
    rw [List.flatMap_cons, List.append_assoc, suiteNumbers_testSuite, hcount, ih]
    rfl

/-- What the test suites of a report say of their numbers of scenarios. -/
theorem suiteNumbers_junit_eq (fs : List FeatureRecord) :
    suiteNumbers "tests" (junit fs).toList = fs.map (·.scenarios.length) ∧
      suiteNumbers "failures" (junit fs).toList = fs.map (marked "failure") ∧
      suiteNumbers "skipped" (junit fs).toList = fs.map (marked "skipped") :=
  ⟨suiteNumbers_junit _ (fun f => (suiteNumber?_suiteLine f.name _ _ _).1) fs,
    suiteNumbers_junit _ (fun f => (suiteNumber?_suiteLine f.name _ _ _).2.1) fs,
    suiteNumbers_junit _ (fun f => (suiteNumber?_suiteLine f.name _ _ _).2.2) fs⟩

end Acceptance.Report
