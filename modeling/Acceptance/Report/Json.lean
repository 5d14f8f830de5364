import Acceptance.Json
import Acceptance.Suite.Record

/-! The JSON report: an object with an array of features, each with its scenarios and their steps. -/
namespace Acceptance

/-- A member that is left out if it has no value. -/
def Json.member? (name : String) (value : Option String) : List (String × Json) :=
  value.toList.map fun v => (name, .str v)

def StepRecord.json (s : StepRecord) : Json :=
  .obj ([("keyword", .str s.keyword.name), ("text", .str s.description), ("line", .num s.line),
    ("status", .str s.status.label)] ++ Json.member? "message" s.message)

def ScenarioRecord.json (s : ScenarioRecord) : Json :=
  .obj ([("name", .str s.name), ("line", .num s.line), ("status", .str s.status.label)] ++
    Json.member? "message" s.message ++ [("steps", .arr (s.steps.map StepRecord.json))])

def FeatureRecord.json (f : FeatureRecord) : Json :=
  .obj [("name", .str f.name), ("status", .str f.status.label),
    ("scenarios", .arr (f.scenarios.map ScenarioRecord.json))]

namespace Report

def json (records : List FeatureRecord) : String :=
  (Json.obj [("features", .arr (records.map FeatureRecord.json))]).text

end Report
end Acceptance
