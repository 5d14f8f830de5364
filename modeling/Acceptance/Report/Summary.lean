import Acceptance.Suite.Basic

/-! Reports for people: a transcript of what ran, a summary and the stubs of what was undefined. -/
namespace Acceptance

structure TranscriptLine where
  depth : Nat
  text : String
  status : Status
  deriving DecidableEq, Repr

def TranscriptLine.shown (l : TranscriptLine) : String := "".pushn ' ' (2 * l.depth) ++ l.text

namespace ScenarioRecord

def transcript (s : ScenarioRecord) : List TranscriptLine :=
  ⟨1, s!"Scenario: {s.name}", s.status⟩ ::
    s.steps.map fun step => ⟨2, s!"{step.keyword.name} {step.description}", step.status⟩

end ScenarioRecord

def FeatureRecord.transcript (f : FeatureRecord) : List TranscriptLine :=
  ⟨0, s!"Feature: {f.name}", f.status⟩ :: f.scenarios.flatMap ScenarioRecord.transcript

namespace Suite

def summary (s : Suite) : String :=
  let scenarios := s.stats.scenarios
  let steps := s.stats.steps
  s!"{scenarios.total} scenario ({scenarios.undefined} undefined, {scenarios.failures} failures, {scenarios.pending} pending)\n" ++
    s!"{steps.total} steps ({steps.undefined} undefined, {steps.failures} failures, {steps.pending} pending, {steps.optout} optout)"

def snippetText (s : Suite) : String := "\n".intercalate s.snippets

def transcript (s : Suite) : List TranscriptLine := s.records.flatMap FeatureRecord.transcript

def snippetsHeader : String :=
  "You can implement step definition for undefined steps with these snippets:"

/-- The transcript, the summary and the snippets, apart from one another by empty lines. -/
def report (s : Suite) : String :=
  let transcript := String.join (s.transcript.map fun l => l.shown ++ "\n")
  transcript ++ (if transcript.isEmpty then "" else "\n") ++ s.summary ++ "\n" ++
    if s.snippets.isEmpty then "" else "\n" ++ snippetsHeader ++ "\n\n" ++ s.snippetText ++ "\n"

end Suite
end Acceptance
