import Acceptance.Pattern.Slots
import Acceptance.Text.Utf8

/-!
Machines that read texts in UTF-8 byte by byte, forward to find the end of a match or backward to find
its beginning. A machine has numbered states, which link to others or go on by ranges of bytes; what
counts here is how many states there are and how many bytes they take.
-/
namespace Acceptance.Pattern
open Text Utf8

inductive Direction where
  | forward | backward
  deriving DecidableEq, Repr

/-- What has been built of a machine. -/
structure Machine where
  states : Nat
  bytes : Nat
  deriving DecidableEq, Repr

namespace Machine

def empty : Machine := ⟨0, 0⟩

def stateSize : Nat := 32

def linkSize : Nat := 4

def rangeSize : Nat := 8

/-- A machine may not take more bytes than this. -/
def sizeLimit : Nat := 10485760

def isOversized (m : Machine) : Bool := sizeLimit < m.bytes

def plain (m : Machine) (n : Nat) : Machine := ⟨m.states + n, m.bytes + n * stateSize⟩

/-- One more state, which links to `n` others. -/
def fork (m : Machine) (n : Nat) : Machine := ⟨m.states + 1, m.bytes + stateSize + n * linkSize⟩

/-- One more state, which goes on by `n` ranges of bytes. -/
def choice (m : Machine) (n : Nat) : Machine := ⟨m.states + 1, m.bytes + stateSize + n * rangeSize⟩

/-- Builds a part `n` times, or as often as it takes for a part of one state to reach the limit. -/
def times (m : Machine) (n : Nat) (part : Machine → Machine) : Machine :=
  (min n (sizeLimit / stateSize + 1)).repeat part m

/-- Building the states that read one character, with those remembered that may be used again. -/
abbrev Building := StateM (Machine × Slots)

/-- The number of the state with the given key, which is built by `build` unless it is remembered. -/
def share (key : List Nat) (build : Machine → Machine) : Building Nat := fun (m, seen) =>
  match seen.get? key with
  | some n => (n, m, seen)
  | none => (m.states, build m, seen.put key m.states)

/-- Builds, from the end on, the state that reads sequences of less than `fuel` byte ranges and goes to
`stop`. Sequences that begin alike are together, and states that go on alike are shared. -/
def readers (stop : Nat) : Nat → List (List ByteRange) → Building Nat
  | 0, _ => pure stop
  | fuel + 1, seqs =>
    if seqs.all (·.isEmpty) then pure stop
    else do
      let groups := seqs.splitBy fun s t => s.head? == t.head?
      let links ← groups.mapM fun group => do
        let next ← readers stop fuel (group.map (·.drop 1))
        return match group with
        | ((first, last) :: _) :: _ => [first, last, next]
        | _ => []
      share links.flatten (·.choice links.length)

/-- Builds, from the beginning on, states that read a sequence of byte ranges backward and go to `stop`. -/
def readersBack (stop : Nat) (seq : List ByteRange) : Building Nat :=
  seq.foldlM (fun next (first, last) => share [next, first, last] (·.plain 1)) stop

/-- Adds the states that read one character of a set. Forward, up to 10000 states are remembered to be used
again, backward up to 1000. -/
def set (m : Machine) (d : Direction) (rs : Ranges) : Machine :=
  if rs.all (·.2 < 0x80) then (m.plain 1).choice rs.length
  else
    let seqs := Utf8.ofRanges rs
    match d with
    | .forward => ((readers m.states 5 seqs).run (m.plain 1, .new 10000)).2.1
    | .backward =>
      let start := (m.fork seqs.length).plain 1
      ((seqs.forM fun seq => discard (readersBack (m.states + 1) seq)).run (start, .new 1000)).2.1

/-- Cuts the words at those that are empty. -/
def chunks {α : Type} : List (List α) → List (List (List α))
  | [] => [[]]
  | [] :: ws => [] :: chunks ws
  | w :: ws =>
    match chunks ws with
    | [] => [[w]]
    | chunk :: more => (w :: chunk) :: more

/-- Adds the states that tell words apart from some letter on. Words are taken in their order of
preference: an empty word divides those before it from those after it, and only words of one chunk share
their first letters. -/
def trie : Nat → List (List UInt8) → Machine → Machine
  | 0, _, m => m
  | fuel + 1, ws, m =>
    if ws.all (·.isEmpty) then m
    else
      let ends := (ws.filter (·.isEmpty)).length - ((ws.takeWhile (·.isEmpty)).length - 1)
      let chunks := (chunks ws).filter (!·.isEmpty)
      chunks.foldl
        (fun (m : Machine) (chunk : List (List UInt8)) =>
          let letters := (chunk.filterMap (·.head?)).eraseDups
          let m := if letters.length = 1 then m.plain 1 else m.choice letters.length
          letters.foldl
            (fun m c => trie fuel
              (chunk.filterMap fun w => if w.head? = some c then some w.tail else none) m)
            m)
        (m.fork (ends + chunks.length))

/-- Adds the states that read one of some words. -/
def words (m : Machine) (d : Direction) (ws : List (List Char)) : Machine :=
  let ws := ws.map fun cs =>
    match d with
    | .forward => ofChars cs
    | .backward => (ofChars cs).reverse
  trie ((ws.map List.length).foldl max 0 + 1) ws (m.plain 1)

end Machine
end Acceptance.Pattern
