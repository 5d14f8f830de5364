import Acceptance.Outcome

/-! Counts of what ran. -/
namespace Acceptance

structure Counters where
  total : Nat := 0
  success : Nat := 0
  failures : Nat := 0
  pending : Nat := 0
  undefined : Nat := 0
  optout : Nat := 0
  deriving DecidableEq, Repr

namespace Counters

/-- Counts a status without raising the total. -/
def tally (c : Counters) : Status → Counters
  | .passed => { c with success := c.success + 1 }
  | .failed => { c with failures := c.failures + 1 }
  | .pending => { c with pending := c.pending + 1 }
  | .undefined => { c with undefined := c.undefined + 1 }
  | .skipped => { c with optout := c.optout + 1 }

def grow (c : Counters) : Counters := { c with total := c.total + 1 }

def count (c : Counters) (s : Status) : Counters := c.grow.tally s

def unsuccessful (c : Counters) : Nat := c.failures + c.pending + c.undefined

end Counters

/-- The counters of features count the scenarios that ran as part of a feature, apart from `total`, which
counts the features. -/
structure Stats where
  features : Counters := {}
  scenarios : Counters := {}
  steps : Counters := {}
  deriving DecidableEq, Repr

end Acceptance
