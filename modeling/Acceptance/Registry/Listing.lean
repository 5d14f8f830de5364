import Acceptance.Json
import Acceptance.Registry.Basic
import Acceptance.Text.Quoted

/-! Listings of the definitions of a registry, for tools and for people. -/
namespace Acceptance

variable {σ : Type}

namespace Definition

def json (d : Definition σ) : Json :=
  .obj [("keyword", .str d.keyword.name), ("pattern", .str d.pattern.text), ("used", .bool d.used)]

/-- The fields that can be shown; the action cannot. -/
def fields (d : Definition σ) : List String :=
  [s!"keyword: {d.keyword.name}",
   "pattern: " ++ String.ofList (Text.quoted d.pattern.text.toList),
   s!"used: {d.used}"]

def compact (d : Definition σ) : String :=
  "StepDefinition \x7b " ++ ", ".intercalate (d.fields ++ [".."]) ++ " \x7d"

def prettyLines (d : Definition σ) : List String :=
  ["StepDefinition \x7b"] ++ d.fields.map (fun f => "    " ++ f ++ ",") ++ ["    ..", "\x7d,"]

end Definition

namespace Registry

/-- All definitions as a JSON array. -/
def dump (r : Registry σ) : String := (Json.arr (r.definitions.map Definition.json)).text

/-- All definitions on one line. -/
def compact (r : Registry σ) : String :=
  "StepRegistry \x7b definitions: [" ++ ", ".intercalate (r.definitions.map Definition.compact) ++ "] \x7d"

/-- All definitions with a field on each line. -/
def pretty (r : Registry σ) : String :=
  let inner :=
    if r.definitions.isEmpty then ["    definitions: [],"]
    else
      ["    definitions: ["] ++
        (r.definitions.flatMap Definition.prettyLines).map ("        " ++ ·) ++ ["    ],"]
  "\n".intercalate (["StepRegistry \x7b"] ++ inner ++ ["\x7d"])

end Registry
end Acceptance
