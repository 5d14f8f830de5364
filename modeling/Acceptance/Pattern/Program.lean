import Acceptance.Pattern.Expr

/-!
The named groups of the preferred match. An expression becomes a program whose threads are run side
by side in order of preference; of threads that meet at one instruction only the first goes on, so
that a run takes time proportional to the text.
-/
namespace Acceptance.Pattern

inductive Bound where
  | start | stop
  deriving DecidableEq, Repr

inductive Instr where
  | accept
  | read (s : CharSet) (next : Nat)
  | check (l : Look) (next : Nat)
  | note (name : String) (b : Bound) (next : Nat)
  | fork (first second : Nat)
  deriving DecidableEq, Repr

abbrev Program := Array Instr

namespace Program

def setFork (prog : Program) (loop : Nat) (greedy : Bool) (entry next : Nat) : Program :=
  prog.setIfInBounds loop (if greedy then .fork entry next else .fork next entry)

/-- Appends the instructions of `e` that lead to `next`; gives the address of the first of them. -/
def compile : Expr CharSet → Nat → Program → Nat × Program
  | .empty, next, prog => (next, prog)
  | .look l, next, prog => (prog.size, prog.push (.check l next))
  | .one s, next, prog => (prog.size, prog.push (.read s next))
  | .group name e, next, prog =>
    let (entry, prog) := compile e prog.size (prog.push (.note name .stop next))
    (prog.size, prog.push (.note name .start entry))
  | .cat a b, next, prog =>
    let (entry, prog) := compile b next prog
    compile a entry prog
  | .alt a b, next, prog =>
    let (second, prog) := compile b next prog
    let (first, prog) := compile a next prog
    (prog.size, prog.push (.fork first second))
  | .star greedy e, next, prog =>
    let loop := prog.size
    let (entry, prog) := compile e loop (prog.push .accept)
    (loop, prog.setFork loop greedy entry next)
  | .plus greedy e, next, prog =>
    let loop := prog.size
    let (entry, prog) := compile e loop (prog.push .accept)
    (entry, prog.setFork loop greedy entry next)

/-- The program of `e`, whose first instruction accepts, and the address where it begins. -/
def ofExpr (e : Expr CharSet) : Nat × Program := compile e 0 #[.accept]

end Program

/-- Where groups began and ended last. -/
abbrev Notes := List ((String × Bound) × Nat)

namespace Notes

def put (notes : Notes) (name : String) (b : Bound) (pos : Nat) : Notes :=
  ((name, b), pos) :: notes.filter (·.1 != (name, b))

def get? (notes : Notes) (name : String) (b : Bound) : Option Nat := notes.lookup (name, b)

end Notes

/-- The state of a run at one place of the text; `reading` holds in order what waits for the next
character, and `accepted` the notes of a thread that has none to read. -/
structure Front where
  visited : Array Bool
  reading : List (CharSet × Nat × Notes)
  accepted : Option Notes

namespace Program

/-- Follows the threads on the stack up to the instructions that read, each instruction once. A
thread that accepts ends those below it. -/
def close (prog : Program) (g : Gap) (pos : Nat) : Nat → List (Nat × Notes) → Front → Front
  | 0, _, front => front
  | _ + 1, [], front => front
  | fuel + 1, (pc, notes) :: stack, front =>
    if front.visited.getD pc true then
      prog.close g pos fuel stack front
    else
      let front := { front with visited := front.visited.setIfInBounds pc true }
      match prog[pc]? with
      | none => prog.close g pos fuel stack front
      | some .accept => { front with accepted := some notes }
      | some (.read s next) =>
        prog.close g pos fuel stack { front with reading := (s, next, notes) :: front.reading }
      | some (.check l next) =>
        prog.close g pos fuel (if l.holds g then (next, notes) :: stack else stack) front
      | some (.note name b next) =>
        prog.close g pos fuel ((next, notes.put name b pos) :: stack) front
      | some (.fork first second) =>
        prog.close g pos fuel ((first, notes) :: (second, notes) :: stack) front

/-- Every instruction puts at most two threads on the stack, and once. -/
def closeAll (prog : Program) (g : Gap) (pos : Nat) (threads : List (Nat × Notes)) : Front :=
  let front := prog.close g pos (2 * prog.size + threads.length + 1) threads
    ⟨.replicate prog.size false, [], none⟩
  { front with reading := front.reading.reverse }

/-- The notes of the preferred match among the leftmost ones. New threads begin at `entry` until
something has been accepted. -/
def run (prog : Program) (entry : Nat) (threads : List (Nat × Notes)) (best : Option Notes)
    (before : Option Char) (pos : Nat) : List Char → Option Notes
  | [] =>
    let threads := if best.isNone then threads ++ [(entry, [])] else threads
    (prog.closeAll ⟨before, none⟩ pos threads).accepted.or best
  | c :: rest =>
    let threads := if best.isNone then threads ++ [(entry, [])] else threads
    let front := prog.closeAll ⟨before, some c⟩ pos threads
    let next := front.reading.filterMap fun (s, pc, notes) => if s.has c then some (pc, notes) else none
    let best := front.accepted.or best
    if next.isEmpty && best.isSome then best
    else prog.run entry next best (some c) (pos + 1) rest

end Program

namespace Expr

/-- The texts of the named groups in the preferred match, in the order of `names`; a group that took
no part is left out. -/
def captures (e : Expr CharSet) (names : List String) (text : List Char) : List (String × String) :=
  let (entry, prog) := Program.ofExpr e
  let notes := (prog.run entry [] none none 0 text).getD []
  names.filterMap fun name =>
    match notes.get? name .start, notes.get? name .stop with
    | some start, some stop => some (name, String.ofList ((text.drop start).take (stop - start)))
    | _, _ => none

end Expr
end Acceptance.Pattern
