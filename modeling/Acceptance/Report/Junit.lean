import Acceptance.Suite.Record

/-! The JUnit report: an XML document with a test suite for each feature and a test case for each
scenario. -/
namespace Acceptance.Report

/-- The characters that may occur in an XML 1.0 document. -/
def isXmlChar (c : Char) : Bool :=
  let n := c.toNat
  n == 0x9 || n == 0xA || n == 0xD || (0x20 ≤ n && n ≤ 0xD7FF) || (0xE000 ≤ n && n ≤ 0xFFFD) ||
    0x10000 ≤ n

/-- A character of an attribute value; one that XML does not allow is replaced. -/
def attrChar (c : Char) : List Char :=
  if isXmlChar c then
    match c with
    | '&' => "&amp;".toList
    | '<' => "&lt;".toList
    | '>' => "&gt;".toList
    | '"' => "&quot;".toList
    | '\'' => "&apos;".toList
    | '\n' => "&#10;".toList
    | c => [c]
  else "&#xFFFD;".toList

def attrText (s : String) : List Char := s.toList.flatMap attrChar

/-- An attribute with a space before it. -/
def attr (name : String) (value : String) : List Char :=
  ' ' :: (name.toList ++ "=\"".toList ++ attrText value ++ ['"'])

/-- The element that says that a scenario did not pass. -/
def remark? : Status → Option String
  | .failed => some "failure"
  | .pending | .undefined => some "skipped"
  | .passed | .skipped => none

def testCase (s : ScenarioRecord) : List Char :=
  "    <testcase".toList ++ attr "name" s.name ++ attr "classname" s.featureName ++
    match remark? s.status with
    | none => " />\n".toList
    | some name =>
      ">\n      <".toList ++ name.toList ++ attr "message" (s.message.getD "") ++
        " />\n    </testcase>\n".toList

def testSuite (f : FeatureRecord) : List Char :=
  let count := fun name => (f.scenarios.filter (remark? ·.status == some name)).length
  "  <testsuite".toList ++ attr "name" f.name ++
    attr "tests" (toString f.scenarios.length) ++
    attr "failures" (toString (count "failure")) ++
    attr "skipped" (toString (count "skipped")) ++ ">\n".toList ++
    f.scenarios.flatMap testCase ++ "  </testsuite>\n".toList

def junit (records : List FeatureRecord) : String :=
  String.ofList ("<?xml version=\"1.0\" encoding=\"UTF-8\"?>\n<testsuites>\n".toList ++
    records.flatMap testSuite ++ "</testsuites>\n".toList)

end Acceptance.Report
