import Acceptance.Text.Blank

/-! Settings of a suite. -/
namespace Acceptance

/-- A strict suite takes a feature with a scenario that did not pass for an error. -/
structure Config where
  strict : Bool := false
  deriving DecidableEq, Repr

namespace Config

def strictVariable : String := "STEPWISE_STRICT"

structure Error where
  variableName : String
  value : String
  deriving DecidableEq, Repr

def Error.message (e : Error) : String :=
  s!"invalid value '{e.value}' for {e.variableName}, expected one of: 1, true, yes, on, 0, false, no, off"

def yes : List String := ["1", "true", "TRUE", "True", "yes", "YES", "Yes", "on", "ON", "On"]

def no : List String := ["0", "false", "FALSE", "False", "no", "NO", "No", "off", "OFF", "Off"]

def readBool? (value : String) : Option Bool :=
  let v := String.ofList (Text.trim value.toList)
  if v ∈ yes then some true else if v ∈ no then some false else none

/-- The settings that variables prescribe; what is not set is off. -/
def ofLookup (lookup : String → Option String) : Except Error Config :=
  match lookup strictVariable with
  | none => .ok {}
  | some value =>
    match readBool? value with
    | some strict => .ok { strict }
    | none => .error ⟨strictVariable, value⟩

/-- A variable whose bytes are no text counts as not set. -/
def ofEnvironment (bytes : String → Option ByteArray) : Except Error Config :=
  ofLookup fun name => (bytes name).bind String.fromUTF8?

def withStrict (c : Config) (strict : Bool) : Config := { c with strict }

end Config
end Acceptance
