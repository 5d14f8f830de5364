import Acceptance.Pattern.Flaw
import Acceptance.Text.Category
import Acceptance.Text.Script
import Acceptance.Text.Trait

/-!
Properties of characters, as patterns ask for them. Of all properties general categories, scripts, letters,
case and white space are known here.
-/
namespace Acceptance.Pattern
open Text

/-- A question for the characters that a name stands for, or for those with a value of a property. -/
inductive Query where
  | named (name : List Char)
  | valued (property value : List Char)
  deriving DecidableEq, Repr

namespace Query

/-- What stands before the first separator and behind it. -/
def split? (separator : List Char) : List Char → Option (List Char × List Char)
  | [] => none
  | c :: rest =>
    if separator.isPrefixOf (c :: rest) then some ([], (c :: rest).drop separator.length)
    else (split? separator rest).map fun (before, after) => (c :: before, after)

/-- The question in braces, and whether it asks for the other characters. -/
def ofText (s : List Char) : Query × Bool :=
  match split? ['!', '='] s with
  | some (property, value) => (.valued property value, true)
  | none =>
    match split? [':'] s <|> split? ['='] s with
    | some (property, value) => (.valued property value, false)
    | none => (.named s, false)

/-- A name in lower case, without what joins words and without `is` before it. -/
def plainName (s : List Char) : String :=
  let hasIs := (s.take 2).map Char.toLower == ['i', 's']
  let body := if hasIs then s.drop 2 else s
  let kept := body.filter fun c => c.toNat < 128 && c != ' ' && c != '_' && c != '-'
  -- `isc` is the name of a property, not the category `c`
  if hasIs && kept.map Char.toLower == ['c'] then "isc" else String.ofList (kept.map Char.toLower)

/-- The set that goes by a name, if there is a set. -/
def setOf? (values : List (List String × Option Ranges)) (name : String) : Option (Option Ranges) :=
  (values.find? (·.1.contains name)).map (·.2)

def valuesOf? : String → Option (List (List String × Option Ranges))
  | "gc" | "generalcategory" => some categories
  | "sc" | "script" => some scripts
  | _ => none

def ranges : Query → Except Fault Ranges
  | named name =>
    let name := plainName name
    match setOf? traits name <|> setOf? categories name <|> setOf? scripts name with
    | some rs => rs.elim (.error .unknownPropertyValue) .ok
    | none => .error .unknownProperty
  | valued property value =>
    let property := plainName property
    match valuesOf? property with
    | some values => ((setOf? values (plainName value)).getD none).elim (.error .unknownPropertyValue) .ok
    | none =>
      -- a property that a character has or has not is not asked for by value
      .error (if (setOf? traits property).isSome then .unknownPropertyValue else .unknownProperty)

end Query
end Acceptance.Pattern
