import Acceptance.Proofs.JunitNumbers
import Acceptance.Proofs.Markup

/-!
A JUnit report as an XML document. It can be read in one way, as the tree of its records, and the markup of
the tree depends on nothing but the statuses of the scenarios.
-/
namespace Acceptance

namespace Xml.Node

def children : Node → List Node
  | element _ _ children => children
  | _ => []

def isElement (name : String) : Node → Bool
  | element n _ _ => n == name.toList
  | _ => false

mutual

/-- The node without the values of its attributes. -/
def markup : Node → Node
  | element name attributes children =>
    element name (attributes.map fun a => (a.1, [])) (markups children)
  | n => n

def markups : List Node → List Node
  | [] => []
  | n :: more => n.markup :: markups more

end

theorem markups_eq_map (ns : List Node) : markups ns = ns.map markup := by
  induction ns with
  | nil => rfl
  | cons n ns ih => rw [markups, ih, List.map_cons]

end Xml.Node

namespace Report
open Xml

/-! ### The tree of a report -/

/-- The characters of a text; one that XML does not allow is replaced. -/
def shown (s : String) : List Char := s.toList.map fun c => if isChar c then c else '\uFFFD'

def decimal (n : Nat) : List Char := (toString n).toList

/-- The child of a test case that says why the scenario did not pass. -/
def noteNodes (s : ScenarioRecord) : List Node :=
  match s.status, s.message with
  | .failed, some message => [.element "failure".toList [("message".toList, shown message)] []]
  | .pending, some message | .undefined, some message =>
    [.element "skipped".toList [("message".toList, shown message)] []]
  | _, _ => []

def caseNode (s : ScenarioRecord) : Node :=
  .element "testcase".toList
    [("name".toList, shown s.name), ("classname".toList, shown s.featureName)] (noteNodes s)

/-- A test suite, whose numbers are those of the elements in it. -/
def suiteNode (f : FeatureRecord) : Node :=
  let cases := f.scenarios.map caseNode
  let notes := cases.flatMap Node.children
  .element "testsuite".toList
    [("name".toList, shown f.name), ("tests".toList, decimal (cases.countP (·.isElement "testcase"))),
      ("failures".toList, decimal (notes.countP (·.isElement "failure"))),
      ("skipped".toList, decimal (notes.countP (·.isElement "skipped")))] cases

def reportNode (fs : List FeatureRecord) : Node :=
  .element "testsuites".toList [] (fs.map suiteNode)

/-- The document of a report. -/
def document (fs : List FeatureRecord) : Document where
  declaration := [("version".toList, "1.0".toList), ("encoding".toList, "UTF-8".toList)]
  nodes := [reportNode fs]

/-! ### The markup of a report -/

/-- The markup for a status of a scenario. -/
def noteMarkup : Status → List Node
  | .failed => [.element "failure".toList [("message".toList, [])] []]
  | .pending | .undefined => [.element "skipped".toList [("message".toList, [])] []]
  | .passed | .skipped => []

/-- The markup for the statuses of the scenarios of each feature. -/
def reportMarkup (statuses : List (List Status)) : Node :=
  .element "testsuites".toList [] (statuses.map fun suite =>
    .element "testsuite".toList
      [("name".toList, []), ("tests".toList, []), ("failures".toList, []), ("skipped".toList, [])]
      (suite.map fun status =>
        .element "testcase".toList [("name".toList, []), ("classname".toList, [])]
          (noteMarkup status)))

/-- A scenario that is marked has a message, which its mark shows. -/
theorem noteNodes_eq (s : ScenarioRecord) :
    noteNodes s = (remark? s.status).toList.map fun name =>
      .element name.toList [("message".toList, shown (s.message.getD ""))] [] := by
  obtain ⟨featureName, name, line, outcome, steps⟩ := s
  cases outcome <;> rfl

theorem markups_noteNodes (s : ScenarioRecord) :
    Node.markups (noteNodes s) = noteMarkup s.status := by
  rw [noteNodes_eq]
  cases s.status <;> rfl

theorem markup_caseNode (s : ScenarioRecord) :
    (caseNode s).markup = .element "testcase".toList
      [("name".toList, []), ("classname".toList, [])] (noteMarkup s.status) := by
  rw [← markups_noteNodes]
  rfl

theorem markup_suiteNode (f : FeatureRecord) :
    (suiteNode f).markup = .element "testsuite".toList
      [("name".toList, []), ("tests".toList, []), ("failures".toList, []), ("skipped".toList, [])]
      ((f.scenarios.map (·.status)).map fun status => .element "testcase".toList
        [("name".toList, []), ("classname".toList, [])] (noteMarkup status)) := by
  have hcases : Node.markups (f.scenarios.map caseNode) =
      (f.scenarios.map (·.status)).map fun status => .element "testcase".toList
        [("name".toList, []), ("classname".toList, [])] (noteMarkup status) := by
    rw [Node.markups_eq_map, List.map_map, List.map_map]
    exact List.map_congr_left fun s _ => markup_caseNode s
  rw [← hcases]
  rfl

theorem markup_reportNode (fs : List FeatureRecord) :
    (reportNode fs).markup = reportMarkup (fs.map fun f => f.scenarios.map (·.status)) := by
  have hsuites : Node.markups (fs.map suiteNode) =
      (reportMarkup (fs.map fun f => f.scenarios.map (·.status))).children := by
    rw [Node.markups_eq_map, List.map_map, reportMarkup, Node.children, List.map_map]
    exact List.map_congr_left fun f _ => markup_suiteNode f
  rw [reportNode, Node.markup, hsuites]
  rfl

/-! ### Values -/

theorem isXmlChar_eq (c : Char) : isXmlChar c = isChar c := by
  have hvalid : c.toNat < 0xD800 ∨ 0xDFFF < c.toNat ∧ c.toNat < 0x110000 := c.valid
  rw [Bool.eq_iff_iff]
  simp only [isXmlChar, isChar, charRanges, Text.Ranges.has, Text.Ranges.hasCode, Bool.or_eq_true,
    Bool.and_eq_true, beq_iff_eq, decide_eq_true_eq]
  omega

/-- A character is written as a reference to what is shown of it, or as it is. -/
theorem attrChar_cases (c : Char) :
    ('\r' ∉ attrChar c ∧ ∀ s, Reference (attrChar c ++ s) (if isChar c then c else '\uFFFD') s) ∨
      attrChar c = [c] ∧ isChar c = true ∧ c ≠ '"' ∧ c ≠ '<' ∧ c ≠ '&' ∧ c ≠ '\n' := by
  unfold attrChar
  rw [isXmlChar_eq]
  split
  case isFalse => exact .inl ⟨by decide, fun s => ⟨"#xFFFD".toList, rfl, by decide, by decide⟩⟩
  case isTrue hchar =>
    split
    · exact .inl ⟨by decide, fun s => ⟨"amp".toList, rfl, by decide, by decide⟩⟩
    · exact .inl ⟨by decide, fun s => ⟨"lt".toList, rfl, by decide, by decide⟩⟩
    · exact .inl ⟨by decide, fun s => ⟨"gt".toList, rfl, by decide, by decide⟩⟩
    · exact .inl ⟨by decide, fun s => ⟨"quot".toList, rfl, by decide, by decide⟩⟩
    · exact .inl ⟨by decide, fun s => ⟨"apos".toList, rfl, by decide, by decide⟩⟩
    · exact .inl ⟨by decide, fun s => ⟨"#10".toList, rfl, by decide, by decide⟩⟩
    · next hand hless _ hquote _ hnewline =>
      exact .inr ⟨rfl, hchar, hquote, hless, hand, hnewline⟩

theorem value_attrChar (c : Char) {s value rest : List Char}
    (more : AttributeValue '"' s value rest) :
    AttributeValue '"' (attrChar c ++ s) ((if isChar c then c else '\uFFFD') :: value) rest := by
  obtain ⟨-, href⟩ | ⟨hsame, hchar, hquote, hless, hand, -⟩ := attrChar_cases c
  · exact .reference (href s) more
  · rw [hsame, if_pos hchar]
    exact .literal hchar hquote hless hand more

theorem value_attrText (s : String) (rest : List Char) :
    AttributeValue '"' (attrText s ++ '"' :: rest) (shown s) rest := by
  unfold attrText shown
  induction s.toList with
  | nil => exact .close
  | cons c cs ih =>
    rw [List.flatMap_cons, List.append_assoc, List.map_cons]
    exact value_attrChar c ih

/-- The digits of a number are shown as they are. -/
theorem shown_toString (n : Nat) : shown (toString n) = decimal n := by
  have hdigits : (toString n).toList = Nat.toDigits 10 n := Nat.toList_repr
  have hall : ∀ c ∈ Nat.toDigits 10 n, (if isChar c then c else '\uFFFD') = c := by
    intro c hc
    have hdigit : c.isDigit = true := Nat.isDigit_of_mem_toDigits (by decide) (by decide) hc
    have hchar := isXmlChar_of_isDigit hdigit
    rw [isXmlChar_eq] at hchar
    exact if_pos hchar
  rw [shown, decimal, hdigits, List.map_congr_left hall, List.map_id']

/-! ### Tags -/

/-- A name is read up to a character that is not one of names. -/
theorem name_append {name : List Char} (hname : isName name = true) {c : Char}
    (hc : isNameChar c = false) (rest : List Char) : Name (name ++ c :: rest) name (c :: rest) := by
  have hall : ∀ d ∈ name, isNameChar d = true := by
    cases name with
    | nil => exact fun d hd => absurd hd List.not_mem_nil
    | cons d more =>
      rw [isName, Bool.and_eq_true, List.all_eq_true] at hname
      refine List.forall_mem_cons.2 ⟨?_, hname.2⟩
      rw [isNameChar, hname.1]
      rfl
  refine ⟨?_, hname⟩
  rw [List.span_eq_takeWhile_dropWhile, List.takeWhile_append_of_pos hall,
    List.dropWhile_append_of_pos hall, List.takeWhile_cons_of_neg (Bool.not_eq_true _ ▸ hc),
    List.dropWhile_cons_of_neg (Bool.not_eq_true _ ▸ hc), List.append_nil]

theorem isBlank_of_isNameStart {c : Char} (hc : isNameStart c = true) : isBlank c = false := by
  rw [← Bool.not_eq_true]
  intro hblank
  simp only [isBlank, Bool.or_eq_true, beq_iff_eq] at hblank
  rcases hblank with ((rfl | rfl) | rfl) | rfl <;> exact absurd hc (by decide)

theorem skipBlanks_name {name : List Char} (hname : isName name = true) (rest : List Char) :
    skipBlanks (name ++ rest) = name ++ rest := by
  cases name with
  | nil => cases hname
  | cons c more =>
    rw [isName, Bool.and_eq_true] at hname
    have hblank := isBlank_of_isNameStart hname.1
    exact List.dropWhile_cons_of_neg (Bool.not_eq_true _ ▸ hblank)

theorem attributes_attr {name : String} (hname : isName name.toList = true) (value : String)
    {s rest : List Char} {more : List Attribute} (hmore : Attributes s more rest)
    (hnew : name.toList ∉ more.map Prod.fst) :
    Attributes (attr name value ++ s) ((name.toList, shown value) :: more) rest := by
  have hshape : attr name value ++ s =
      ' ' :: (name.toList ++ '=' :: '"' :: (attrText value ++ '"' :: s)) := by
    simp [attr]
  have hread : Name (skipBlanks (name.toList ++ '=' :: '"' :: (attrText value ++ '"' :: s)))
      name.toList ('=' :: '"' :: (attrText value ++ '"' :: s)) := by
    rw [skipBlanks_name hname]
    exact name_append hname (by decide) _
  have hequals : skipBlanks ('=' :: '"' :: (attrText value ++ '"' :: s)) =
      '=' :: '"' :: (attrText value ++ '"' :: s) := rfl
  have hquote : skipBlanks ('"' :: (attrText value ++ '"' :: s)) =
      '"' :: (attrText value ++ '"' :: s) := rfl
  rw [hshape]
  exact .next (by decide) hread hequals hquote (.inl rfl) (value_attrText value s) hmore hnew

/-- A name is read up to the attribute behind it. -/
theorem name_attr {name : List Char} (hname : isName name = true) (key value : String)
    (s : List Char) : Name (name ++ (attr key value ++ s)) name (attr key value ++ s) :=
  name_append hname (by decide) _

theorem attributes_case (s : ScenarioRecord) {t rest : List Char} (hclose : Attributes t [] rest) :
    Attributes (attr "name" s.name ++ (attr "classname" s.featureName ++ t))
      [("name".toList, shown s.name), ("classname".toList, shown s.featureName)] rest := by
  have hname : "name".toList ∉ ["classname".toList] := by decide
  exact attributes_attr (by decide) _
    (attributes_attr (by decide) _ hclose List.not_mem_nil) hname

theorem attributes_suite (f : FeatureRecord) {t rest : List Char} (hclose : Attributes t [] rest) :
    Attributes (attr "name" f.name ++ (attr "tests" (toString f.scenarios.length) ++
        (attr "failures" (toString (marked "failure" f)) ++
          (attr "skipped" (toString (marked "skipped" f)) ++ t))))
      [("name".toList, shown f.name), ("tests".toList, shown (toString f.scenarios.length)),
        ("failures".toList, shown (toString (marked "failure" f))),
        ("skipped".toList, shown (toString (marked "skipped" f)))] rest := by
  have hname : "name".toList ∉ ["tests".toList, "failures".toList, "skipped".toList] := by decide
  have htests : "tests".toList ∉ ["failures".toList, "skipped".toList] := by decide
  have hfailures : "failures".toList ∉ ["skipped".toList] := by decide
  exact attributes_attr (by decide) _ (attributes_attr (by decide) _ (attributes_attr (by decide) _
    (attributes_attr (by decide) _ hclose List.not_mem_nil) hfailures) htests) hname

theorem attributes_declaration (fs : List FeatureRecord) {t rest : List Char}
    (hclose : Attributes t [] rest) :
    Attributes (attr "version" "1.0" ++ (attr "encoding" "UTF-8" ++ t)) (document fs).declaration
      rest := by
  have hversion : "version".toList ∉ ["encoding".toList] := by decide
  have hvalues : shown "1.0" = "1.0".toList ∧ shown "UTF-8" = "UTF-8".toList := by decide
  rw [document, ← hvalues.1, ← hvalues.2]
  exact attributes_attr (by decide) _
    (attributes_attr (by decide) _ hclose List.not_mem_nil) hversion

/-! ### Elements -/

theorem content_blanks (blanks : List Char) (hblanks : blanks.all isBlank = true)
    {s rest : List Char} {nodes : List Node} (h : Content s nodes rest) :
    Content (blanks ++ s) nodes rest := by
  induction blanks with
  | nil => exact h
  | cons c more ih =>
    rw [List.all_cons, Bool.and_eq_true] at hblanks
    exact .piece (.blank hblanks.1) (ih hblanks.2)

/-- An element whose end tag has a newline behind it. -/
theorem content_element {name : List Char} (hname : isName name = true) {t u s rest : List Char}
    {attributes : List Attribute} {children more : List Node} (hread : Name (name ++ t) name t)
    (hattributes : Attributes t attributes ('>' :: u))
    (hchildren : Content u children ('<' :: '/' :: (name ++ '>' :: '\n' :: s)))
    (hmore : Content s more rest) :
    Content ('<' :: (name ++ t)) (.element name attributes children :: more) rest :=
  .element hread hattributes hchildren (name_append hname (by decide) _) rfl
    (content_blanks ['\n'] rfl hmore)

theorem content_flatMap {α : Type} {text : α → List Char} {node : α → Node}
    (hread : ∀ (a : α) {s rest : List Char} {more : List Node}, Content s more rest →
      Content (text a ++ s) (node a :: more) rest)
    (as : List α) {s rest : List Char} {more : List Node} (hmore : Content s more rest) :
    Content (as.flatMap text ++ s) (as.map node ++ more) rest := by
  induction as with
  | nil => exact hmore
  | cons a as ih =>
    rw [List.flatMap_cons, List.append_assoc]
    exact hread a ih

theorem content_note {name : String} (hname : isName name.toList = true) (message : String)
    {s rest : List Char} {more : List Node} (hmore : Content s more rest) :
    Content ('<' :: (name.toList ++ (attr "message" message ++ ' ' :: '/' :: '>' :: s)))
      (.element name.toList [("message".toList, shown message)] [] :: more) rest := by
  have hattributes : Attributes (attr "message" message ++ ' ' :: '/' :: '>' :: s)
      [("message".toList, shown message)] ('/' :: '>' :: s) :=
    attributes_attr (by decide) message (.close rfl (.inr (.inl rfl))) List.not_mem_nil
  exact .empty (name_attr hname _ _ _) hattributes hmore

/-- The text of a test case is read as its node, whatever is read behind it. -/
theorem content_testCase (s : ScenarioRecord) {t rest : List Char} {more : List Node}
    (hmore : Content t more rest) : Content (testCase s ++ t) (caseNode s :: more) rest := by
  cases hremark : remark? s.status with
  | none =>
    have hnote : noteNodes s = [] := by
      rw [noteNodes_eq, hremark]
      rfl
    have hshape : testCase s ++ t = "    ".toList ++ '<' :: ("testcase".toList ++
        (attr "name" s.name ++ (attr "classname" s.featureName ++
          ' ' :: '/' :: '>' :: '\n' :: t))) := by
      unfold testCase
      rw [hremark]
      simp
    rw [hshape, caseNode, hnote]
    exact content_blanks _ (by decide) (.empty (name_attr (by decide) _ _ _)
      (attributes_case s (.close rfl (.inr (.inl rfl)))) (content_blanks ['\n'] rfl hmore))
  | some name =>
    have hname : isName name.toList = true := by
      cases hstatus : s.status <;> rw [hstatus] at hremark <;> cases hremark <;> decide
    have hnote : noteNodes s =
        [.element name.toList [("message".toList, shown (s.message.getD ""))] []] := by
      rw [noteNodes_eq, hremark]
      rfl
    have hshape : testCase s ++ t = "    ".toList ++ '<' :: ("testcase".toList ++
        (attr "name" s.name ++ (attr "classname" s.featureName ++ '>' ::
          ("\n      ".toList ++ '<' :: (name.toList ++ (attr "message" (s.message.getD "") ++
            ' ' :: '/' :: '>' :: ("\n    ".toList ++
              '<' :: '/' :: ("testcase".toList ++ '>' :: '\n' :: t)))))))) := by
      unfold testCase
      rw [hremark]
      simp
    rw [hshape, caseNode, hnote]
    -- in front of the end tag there is nothing but the note
    have hstop : Content ("\n    ".toList ++ '<' :: '/' :: ("testcase".toList ++ '>' :: '\n' :: t))
        [] ('<' :: '/' :: ("testcase".toList ++ '>' :: '\n' :: t)) :=
      content_blanks _ (by decide) .close
    have hchildren := content_blanks "\n      ".toList (by decide)
      (content_note hname (s.message.getD "") hstop)
    exact content_blanks _ (by decide) (content_element (by decide) (name_attr (by decide) _ _ _)
      (attributes_case s (.close rfl (.inl rfl))) hchildren hmore)

/-- The numbers of a test suite are the numbers of the elements in it. -/
theorem countP_notes (element : String) (ss : List ScenarioRecord) :
    ((ss.map caseNode).flatMap Node.children).countP (·.isElement element) =
      (ss.filter (remark? ·.status == some element)).length := by
  induction ss with
  | nil => rfl
  | cons s ss ih =>
    have hchildren : (caseNode s).children = noteNodes s := rfl
    rw [List.map_cons, List.flatMap_cons, List.countP_append, ih, hchildren, noteNodes_eq,
      List.filter_cons]
    cases hremark : remark? s.status with
    | none => simp
    | some name =>
      have hsame : (name.toList == element.toList) = (some name == some element) := by
        rw [Bool.eq_iff_iff, beq_iff_eq, beq_iff_eq, String.toList_inj, Option.some.injEq]
      simp only [Option.toList_some, List.map_cons, List.map_nil, List.countP_singleton,
        Node.isElement, hsame]
      split <;> simp [Nat.add_comm]

theorem suiteNode_eq (f : FeatureRecord) :
    suiteNode f = .element "testsuite".toList
      [("name".toList, shown f.name), ("tests".toList, shown (toString f.scenarios.length)),
        ("failures".toList, shown (toString (marked "failure" f))),
        ("skipped".toList, shown (toString (marked "skipped" f)))] (f.scenarios.map caseNode) := by
  have htests : (f.scenarios.map caseNode).countP (·.isElement "testcase") = f.scenarios.length := by
    have hall : ∀ n ∈ f.scenarios.map caseNode, n.isElement "testcase" = true := by
      intro n hn
      obtain ⟨s, -, rfl⟩ := List.mem_map.1 hn
      exact beq_self_eq_true _
    rw [List.countP_eq_length.2 hall, List.length_map]
  rw [suiteNode, htests, countP_notes, countP_notes, shown_toString, shown_toString, shown_toString]
  rfl

theorem content_testSuite (f : FeatureRecord) {t rest : List Char} {more : List Node}
    (hmore : Content t more rest) : Content (testSuite f ++ t) (suiteNode f :: more) rest := by
  have hshape : testSuite f ++ t = "  ".toList ++ '<' :: ("testsuite".toList ++
      (attr "name" f.name ++ (attr "tests" (toString f.scenarios.length) ++
        (attr "failures" (toString (marked "failure" f)) ++
          (attr "skipped" (toString (marked "skipped" f)) ++ '>' :: '\n' ::
            (f.scenarios.flatMap testCase ++ ("  ".toList ++
              '<' :: '/' :: ("testsuite".toList ++ '>' :: '\n' :: t)))))))) := by
    unfold testSuite marked
    simp
  have hstop : Content ("  ".toList ++ '<' :: '/' :: ("testsuite".toList ++ '>' :: '\n' :: t)) []
      ('<' :: '/' :: ("testsuite".toList ++ '>' :: '\n' :: t)) :=
    content_blanks _ (by decide) .close
  have hchildren := content_blanks ['\n'] rfl
    (content_flatMap content_testCase f.scenarios hstop)
  rw [List.append_nil] at hchildren
  rw [hshape, suiteNode_eq]
  exact content_blanks _ (by decide) (content_element (by decide) (name_attr (by decide) _ _ _)
    (attributes_suite f (.close rfl (.inl rfl))) hchildren hmore)

/-- The text of a report is that of its document. -/
theorem document_reads (fs : List FeatureRecord) : (document fs).Reads (junit fs).toList := by
  have hbegin : "<?xml version=\"1.0\" encoding=\"UTF-8\"?>\n<testsuites>\n".toList =
      "<?xml".toList ++ (attr "version" "1.0" ++ (attr "encoding" "UTF-8" ++
        '?' :: '>' :: '\n' :: '<' :: ("testsuites".toList ++ ['>', '\n']))) := by decide
  have hend : "</testsuites>\n".toList = '<' :: '/' :: ("testsuites".toList ++ ['>', '\n']) := by
    decide
  have hshape : (junit fs).toList = "<?xml".toList ++ (attr "version" "1.0" ++
      (attr "encoding" "UTF-8" ++ '?' :: '>' :: '\n' :: '<' :: ("testsuites".toList ++
        '>' :: '\n' :: (fs.flatMap testSuite ++
          '<' :: '/' :: ("testsuites".toList ++ ['>', '\n']))))) := by
    unfold junit
    rw [String.toList_ofList, hbegin, hend]
    simp only [List.append_assoc, List.cons_append, List.nil_append]
  have hstop : Content ('<' :: '/' :: ("testsuites".toList ++ ['>', '\n'])) []
      ('<' :: '/' :: ("testsuites".toList ++ ['>', '\n'])) := .close
  have hchildren := content_blanks ['\n'] rfl (content_flatMap content_testSuite fs hstop)
  rw [List.append_nil] at hchildren
  have hroot : Name ("testsuites".toList ++ '>' :: '\n' :: (fs.flatMap testSuite ++
      '<' :: '/' :: ("testsuites".toList ++ ['>', '\n']))) "testsuites".toList
      ('>' :: '\n' :: (fs.flatMap testSuite ++
        '<' :: '/' :: ("testsuites".toList ++ ['>', '\n']))) :=
    name_append (by decide) (by decide) _
  refine ⟨⟨_, _, hshape, attributes_declaration fs (.close rfl (.inr (.inr rfl))), ?_⟩, ?_, ?_⟩
  · exact content_blanks ['\n'] rfl
      (content_element (by decide) hroot (.close rfl (.inl rfl)) hchildren .done)
  · exact ⟨["encoding".toList], by decide, rfl⟩
  · exact ⟨[], _, _, _, [], rfl, fun n hn => absurd hn List.not_mem_nil⟩

/-- A report can be read in one way, as the tree of its records, and the statuses of the scenarios alone
decide on its markup. -/
theorem reads_junit (fs : List FeatureRecord) :
    (∀ d : Document, d.Reads (junit fs).toList ↔ d = document fs) ∧
      (reportNode fs).markup = reportMarkup (fs.map fun f => f.scenarios.map (·.status)) := by
  refine ⟨fun d => ⟨fun h => h.unique (document_reads fs), ?_⟩, markup_reportNode fs⟩
  rintro rfl
  exact document_reads fs

end Report
end Acceptance
