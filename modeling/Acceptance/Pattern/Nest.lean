import Acceptance.Pattern.Flaw

/-! How deep the parts of a pattern stand in one another. -/
namespace Acceptance.Pattern

/-- For each depth the first part of the pattern that stands there, from the outermost on. -/
abbrev Nest := List Stretch

namespace Nest

/-- Parts side by side; the first of them comes first in the pattern. -/
def beside : Nest → Nest → Nest
  | [], n => n
  | s :: m, [] => s :: m
  | s :: m, _ :: n => s :: beside m n

/-- Parts within a part. -/
def within (s : Stretch) (inner : Nest) : Nest := s :: inner

def limit : Nat := 250

/-- The first part that stands deeper than is allowed. -/
def tooDeep? (n : Nest) : Option Stretch := n[limit]?

theorem length_beside (m n : Nest) : (m.beside n).length = max m.length n.length := by
  fun_induction beside m n with
  | case1 => simp
  | case2 => simp
  | case3 s m t n ih => simp [ih]

end Nest
end Acceptance.Pattern
