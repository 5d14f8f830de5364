import Acceptance.Pattern.Machine
import Acceptance.Pattern.Openings

/-! The size of a pattern: how large the machines are that search for it. -/
namespace Acceptance.Pattern
open Text

namespace Shape

/-- The length of a shortest match; none if a set without characters lets nothing match. -/
def shortest : Shape → Option Nat
  | empty | look _ => some 0
  | text cs => some cs.length
  | words ws => (ws.map List.length).min?
  | set rs => if rs.isEmpty then none else some 1
  | group _ s => s.shortest
  | rep _ least _ s => s.shortest.map (least * ·)
  | cat a b => do return (← a.shortest) + (← b.shortest)
  | alt a b => do return min (← a.shortest) (← b.shortest)

/-- Whether every match begins where `l` holds. -/
def startsAt (l : Look) : Shape → Bool
  | look m => m == l
  | empty | text _ | words _ | set _ => false
  | group _ s => s.startsAt l
  | rep _ least _ s => 0 < least && s.startsAt l
  | cat a b => a.startsAt l || (a.isWidthless && b.startsAt l)
  | alt a b => a.startsAt l && b.startsAt l

/-- Whether every match ends where `l` holds. -/
def endsAt (l : Look) : Shape → Bool
  | look m => m == l
  | empty | text _ | words _ | set _ => false
  | group _ s => s.endsAt l
  | rep _ least _ s => 0 < least && s.endsAt l
  | cat a b => b.endsAt l || (b.isWidthless && a.endsAt l)
  | alt a b => a.endsAt l && b.endsAt l

/-- Where a shape stands among alternatives. -/
inductive Rank where
  | alone | second | later
  deriving DecidableEq, Repr

/-- An alternative has been built. With the second one come the fork to the first two and the state where
all meet. -/
def Rank.close (r : Rank) (m : Machine) : Machine :=
  match r with
  | alone => m
  | second => (m.fork 2).plain 1
  | later => { m with bytes := m.bytes + Machine.linkSize }

/-- Adds the states of a repetition; `takes` says that no round takes nothing. -/
def buildRep (m : Machine) (part : Machine → Machine) (takes : Bool) (least : Nat) :
    Option Nat → Machine
  | none =>
    match least with
    | 0 => if takes then part (m.fork 2) else (((part m).fork 2).fork 2).plain 1
    | _ => (m.times least part).fork 2
  | some most =>
    if least = 0 ∧ most = 1 then (part (m.fork 2)).plain 1
    else
      let m := if least = 0 then m.plain 1 else m.times least part
      if least = most then m
      else (m.plain 1).times (most - least) fun m => part (m.fork 2)

/-- Adds the states of a shape. Parts are built in the order in which the machine reads; a machine that is
too large already is not repeated on. -/
def build (d : Direction) : Shape → Rank → Machine → Machine
  | empty, r, m | look _, r, m => r.close (m.plain 1)
  | text cs, r, m => r.close (m.plain (Text.Utf8.size cs))
  | words ws, r, m => r.close (m.words d ws)
  | set rs, r, m => r.close (m.set d rs)
  | group _ s, r, m =>
    match d with
    | .forward => r.close ((s.build d .alone (m.plain 1)).plain 1)
    | .backward => r.close (s.build d .alone m)
  | rep _ least most s, r, m =>
    let part := fun m : Machine => if m.isOversized then m else s.build d .alone m
    r.close (buildRep m part (s.shortest.any (0 < ·)) least most)
  | cat a b, r, m =>
    match d with
    | .forward => r.close (b.build d .alone (a.build d .alone m))
    | .backward => r.close (a.build d .alone (b.build d .alone m))
  | alt a b, r, m =>
    match r with
    | .alone => b.build d .second (a.build d .alone m)
    | _ => b.build d .later (r.close (a.build d .alone m))

/-- The machine for a shape. One that is not bound to the side where it starts begins with a loop over all
bytes; the forward one notes where a match begins and ends. -/
def machine (s : Shape) (d : Direction) : Machine :=
  let bound := match d with
    | .forward => s.startsAt .textStart
    | .backward => s.endsAt .textEnd
  let m := Machine.empty
  let m := if bound then m.plain 1 else ((m.fork 2).plain 1).choice 1
  match d with
  | .forward => (s.build d .alone (m.plain 1)).plain 2
  | .backward => (s.build d .alone m).plain 1

def isOversized (s : Shape) : Bool :=
  (s.machine .forward).isOversized || (s.machine .backward).isOversized

end Shape

namespace Tree

def ofTexts (ts : List (List Char)) : Tree := choice (ts.map fun cs => sequence (cs.map fun c => one (.one c)))

/-- The tree to search for; if there can be no machine for it, the texts that are its matches. -/
def searched? (t : Tree) : Option Tree :=
  if t.shape.isOversized then t.shape.literals?.map ofTexts else some t

end Tree
end Acceptance.Pattern
