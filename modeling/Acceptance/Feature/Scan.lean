import Acceptance.Feature.Basic
import Acceptance.Feature.Line
import Acceptance.Log
import Acceptance.Text.Lines
import Acceptance.Text.Quoted

/-!
Reading features from a text. Every feature header begins a feature; the lines up to its first scenario
are its description, and the first line after that which belongs to no scenario ends it.
-/
namespace Acceptance.Feature

inductive ScanState where
  | seeking
  | inFeature (f : Feature)
  | inScenario (f : Feature) (s : Scenario)
  | stopped
  deriving DecidableEq, Repr

namespace ScanState

/-- The feature that is being read, together with its last scenario. -/
def feature? : ScanState → Option Feature
  | inFeature f => some f
  | inScenario f s => some { f with scenarios := f.scenarios ++ [s] }
  | seeking | stopped => none

end ScanState

/-- What reading a line leads to: the new state, the feature that it ends, and a log entry. -/
structure ScanStep where
  state : ScanState
  ended : Option Feature := none
  entry : Option LogEntry := none

def newScenario (description : List Char) (n : Nat) : Scenario :=
  ⟨String.ofList description, [], n⟩

namespace ScanState

/-- Reads line `n`. -/
def read (st : ScanState) (n : Nat) (line : List Char) : ScanStep :=
  match st, Line.of line with
  | st, .feature name =>
    let name := String.ofList name
    ⟨inFeature { name }, st.feature?, some ⟨.debug, s!"line {n}: feature '{name}'"⟩⟩
  | seeking, _ => ⟨seeking, none, some ⟨.debug, s!"line {n}: skipped outside a feature"⟩⟩
  | stopped, _ => ⟨stopped, none, some ⟨.debug, s!"line {n}: skipped outside a feature"⟩⟩
  | inFeature f, .scenario description => ⟨inScenario f (newScenario description n), none, none⟩
  | inFeature f, _ =>
    ⟨inFeature { f with description := f.description ++ "\n" ++ String.ofList line }, none, none⟩
  | inScenario f s, .scenario description =>
    ⟨inScenario { f with scenarios := f.scenarios ++ [s] } (newScenario description n), none, none⟩
  | inScenario f s, .step k description =>
    let step : Step := ⟨k, String.ofList description, n⟩
    ⟨inScenario f { s with steps := s.steps ++ [step] }, none, none⟩
  | inScenario f s, .blank => ⟨inScenario f s, none, none⟩
  | inScenario f s, .other =>
    let shown := String.ofList (Text.quoted line)
    ⟨stopped, (inScenario f s).feature?, some ⟨.warn,
      s!"line {n}: unrecognised line in scenario '{s.description}' ends feature '{f.name}': {shown}"⟩⟩

end ScanState

structure Scanned where
  features : List Feature
  log : List LogEntry
  deriving DecidableEq, Repr

/-- The state after some lines, the features that ended in them and the log, of which line `n` is the
first. -/
def scanFrom (st : ScanState) (n : Nat) : List (List Char) → ScanState × Scanned
  | [] => (st, ⟨[], []⟩)
  | line :: more =>
    let step := st.read n line
    let (final, rest) := scanFrom step.state (n + 1) more
    (final, ⟨step.ended.toList ++ rest.features, step.entry.toList ++ rest.log⟩)

def scanLines (lines : List (List Char)) : Scanned :=
  let (final, scanned) := scanFrom .seeking 1 lines
  { scanned with features := scanned.features ++ final.feature?.toList }

/-- All features of a text. -/
def scanAll (text : String) : Scanned := scanLines (Text.lines text.toList)

/-- The first feature of a text. -/
def scan (text : String) : Option Feature := (scanAll text).features.head?

end Acceptance.Feature
