import Acceptance.Pattern.Tree

/-!
The shape that a pattern is reduced to before it is measured: runs of characters are texts, sets are
ranges, choices among single characters or sets are sets, and what all choices begin with stands
before them.
-/
namespace Acceptance.Pattern
open Text

/-- In `cat` and `alt` the first part is neither empty nor of the same kind. `words` is a choice among
two or more texts, `set` a set of other than one character. -/
inductive Shape where
  | empty
  | look (l : Look)
  | text (cs : List Char)
  | words (ws : List (List Char))
  | set (rs : Ranges)
  | group (number : Nat) (s : Shape)
  | rep (greedy : Bool) (least : Nat) (most : Option Nat) (s : Shape)
  | cat (a b : Shape)
  | alt (a b : Shape)
  deriving DecidableEq, Repr

namespace Shape

def ofSet (rs : Ranges) : Shape :=
  match rs with
  | [(first, last)] => if first = last then text [Char.ofNat first] else set rs
  | _ => set rs

/-- One shape after another. -/
def append : Shape → Shape → Shape
  | empty, t => t
  | cat a b, t => cat a (append b t)
  | s, empty => s
  | text cs, text ds => text (cs ++ ds)
  | text cs, cat (text ds) t => cat (text (cs ++ ds)) t
  | s, t => cat s t

def parts : Shape → List Shape
  | cat a b => a :: b.parts
  | s => [s]

def branches : Shape → List Shape
  | alt a b => a :: b.branches
  | words ws => ws.map text
  | s => [s]

def isCat : Shape → Bool
  | cat _ _ => true
  | _ => false

def text? : Shape → Option (List Char)
  | text cs => some cs
  | _ => none

/-- The ranges of a text of one character. -/
def char? : Shape → Option Ranges
  | text [c] => some [(c.toNat, c.toNat)]
  | _ => none

def set? : Shape → Option Ranges
  | set rs => some rs
  | _ => none

def alternatives : List Shape → Shape
  | [] => set []
  | [s] => s
  | s :: ss => alt s (alternatives ss)

/-- A choice among branches none of which is a choice. -/
def choice (ss : List Shape) : Shape :=
  match ss.mapM char? <|> ss.mapM set? with
  | some sets => ofSet (sets.foldr Ranges.union [])
  | none =>
    match ss, ss.mapM text? with
    | [s], _ => s
    | _, some ws => words ws
    | _, none => alternatives ss

def commonStart : List Shape → List Shape → List Shape
  | s :: ss, t :: ts => if s = t then s :: commonStart ss ts else []
  | _, _ => []

/-- What all branches begin with, and the branches without it, if all are sequences. -/
def lift? (ss : List Shape) : Option (List Shape × List (List Shape)) :=
  match ss.map parts with
  | first :: second :: more =>
    let start := (second :: more).foldl commonStart first
    if ss.all isCat && !start.isEmpty then
      some (start, (first :: second :: more).map (·.drop start.length))
    else none
  | _ => none

def sequence (ss : List Shape) : Shape := ss.foldr append empty

/-- A choice among any shapes. -/
def alternation : List Shape → Shape
  | [s] => s
  | ss =>
    let ss := ss.flatMap branches
    match lift? ss with
    | none => choice ss
    | some (start, rests) => (sequence start).append (choice ((rests.map sequence).flatMap branches))

/-- Whether every match is the empty text. -/
def isWidthless : Shape → Bool
  | empty | look _ => true
  | text _ | words _ | set _ => false
  | group _ s | rep _ _ _ s => s.isWidthless
  | cat a b | alt a b => a.isWidthless && b.isWidthless

/-- A repetition; what takes nothing is done at most once. -/
def repeated (greedy : Bool) (least : Nat) (most : Option Nat) (s : Shape) : Shape :=
  let (least, most) :=
    if s.isWidthless then (min least 1, some (min (most.getD 1) 1)) else (least, most)
  if most = some 0 then empty
  else if least = 1 ∧ most = some 1 then s
  else rep greedy least most s

end Shape

namespace Tree

/-- The shapes of the alternatives of a tree. -/
def branches : Tree → List Shape
  | empty => [.empty]
  | look l => [.look l]
  | one s => [.ofSet s.ranges]
  | group label t =>
    match label with
    | .plain => [.alternation t.branches]
    | .numbered n | .named n _ => [.group n (.alternation t.branches)]
  | cat a b => [(Shape.alternation a.branches).append (.alternation b.branches)]
  | alt a b => .alternation a.branches :: b.branches
  | rep greedy least most t => [.repeated greedy least most (.alternation t.branches)]

def shape (t : Tree) : Shape := .alternation t.branches

end Tree
end Acceptance.Pattern
