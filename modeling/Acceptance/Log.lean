/-! Log entries. -/
namespace Acceptance

inductive Level where
  | debug | info | warn | error
  deriving DecidableEq, Repr

def Level.name : Level → String
  | debug => "DEBUG"
  | info => "INFO"
  | warn => "WARN"
  | error => "ERROR"

structure LogEntry where
  level : Level
  message : String
  deriving DecidableEq, Repr

def LogEntry.text (e : LogEntry) : String := s!"{e.level.name} {e.message}"

end Acceptance
