import Acceptance.Args
import Acceptance.Log
import Acceptance.Panic
import Acceptance.Pattern.Basic

/-!
Step definitions. The definition of a step is the first one registered whose pattern matches the text of
the step, whatever its keyword. Actions share a state of type `σ`.
-/
namespace Acceptance

inductive Reply where
  | returned (result : Except StepError Unit)
  | panicked (payload : Payload)

/-- A panic is a failure of the step. -/
def Reply.result : Reply → Except StepError Unit
  | returned result => result
  | panicked payload => .error (.failure s!"step panicked: {payload.message}")

abbrev Action (σ : Type) := Args → σ → Reply × σ

/-- What can be observed while a registry is used: log entries, calls of the action of a definition, by
its number among the definitions, and that a test is told of its failure. -/
inductive Event where
  | logged (entry : LogEntry)
  | invoked (definition : Nat) (args : Args)
  | failed
  deriving DecidableEq, Repr

namespace Event

def debug (message : String) : Event := logged ⟨.debug, message⟩

def info (message : String) : Event := logged ⟨.info, message⟩

def entry? : Event → Option LogEntry
  | logged entry => some entry
  | invoked _ _ | failed => none

end Event

structure Definition (σ : Type) where
  keyword : Keyword
  pattern : Pattern
  action : Action σ
  used : Bool := false

structure Registry (σ : Type) where
  definitions : List (Definition σ) := []
  state : σ

/-- A value, the registry after it was found, and the events on the way. -/
structure Run (σ α : Type) where
  value : α
  registry : Registry σ
  events : List Event

/-- What the registry has for the text of a step. -/
inductive Match where
  | unmatched
  | optedOut
  | executed (result : Except StepError Unit)

def Match.isMatch : Match → Bool
  | unmatched => false
  | optedOut | executed _ => true

/-- Whether the definition is one for a step with the text. -/
def Definition.covers {σ : Type} (d : Definition σ) (text : String) : Bool := d.pattern.isMatch text

namespace Registry

variable {σ : Type}

def register (r : Registry σ) (keyword : Keyword) (pattern : String) (action : Action σ) :
    Run σ (Except Pattern.Error Unit) :=
  match Pattern.compile pattern with
  | .error e =>
    ⟨.error e, r, [.logged ⟨.warn, s!"discarding {keyword.name} step definition: {e.message}"⟩]⟩
  | .ok p =>
    ⟨.ok (), { r with definitions := r.definitions ++ [{ keyword, pattern := p, action }] },
      [.debug s!"registered {keyword.name} step definition '{pattern}'"]⟩

/-- The first definition that matches the text, with its number. -/
def select (r : Registry σ) (text : String) : Option (Nat × Definition σ) :=
  (r.definitions.zipIdx.find? (·.1.covers text)).map Prod.swap

def markUsed (r : Registry σ) (i : Nat) : Registry σ :=
  { r with definitions := r.definitions.modify i ({ · with used := true }) }

/-- Runs the action of a definition on the arguments that its pattern takes from the text. -/
def invoke (r : Registry σ) (i : Nat) (d : Definition σ) (text : String) : Run σ Reply :=
  let args := d.pattern.captures text
  let (reply, state) := d.action args r.state
  ⟨reply, { r with state }, [.invoked i args]⟩

/-- Finds the definition of a step and runs its action, unless the step is to be skipped. -/
def find (r : Registry σ) (text : String) (optOut : Bool) : Run σ Match :=
  match r.select text with
  | none => ⟨.unmatched, r, [.debug s!"no step definition matches '{text}'"]⟩
  | some (i, d) =>
    if optOut then
      ⟨.optedOut, r.markUsed i, [.debug s!"skipping '{text}' after an earlier unsuccessful step"]⟩
    else
      let run := (r.markUsed i).invoke i d text
      ⟨.executed run.value.result, run.registry, run.events⟩

/-- The definitions that no text has selected so far. -/
def unused (r : Registry σ) : List (Definition σ) := r.definitions.filter (!·.used)

end Registry
end Acceptance
