import Acceptance.Pattern.Shape
import Acceptance.Text.Utf8

/-!
The texts that matches begin with. A pattern whose matches are a few texts is searched for by these
alone.
-/
namespace Acceptance.Pattern
open Text

/-- Bytes that a match may begin with, and the text that they are if nothing of the match comes after
them. -/
structure Opening where
  bytes : List UInt8
  text : Option (List Char)
  deriving DecidableEq, Repr

namespace Opening

def ofChars (cs : List Char) : Opening := ⟨Utf8.ofChars cs, some cs⟩

def isWhole (o : Opening) : Bool := o.text.isSome

def continued (o : Opening) : Opening := { o with text := none }

def append (o p : Opening) : Opening :=
  ⟨o.bytes ++ p.bytes, do return (← o.text) ++ (← p.text)⟩

def shorten (n : Nat) (o : Opening) : Opening :=
  if o.bytes.length ≤ n then o else ⟨o.bytes.take n, none⟩

/-- Neighbours of the same bytes become one, which is whole if all of them are. -/
def merge (os : List Opening) : List Opening :=
  os.foldr
    (fun o merged =>
      match merged with
      | [] => [o]
      | p :: more =>
        if o.bytes = p.bytes then (if p.isWhole then o else o.continued) :: more else o :: merged)
    []

/-- Leaves out what begins with something that is preferred to it. -/
def minimize (os : List Opening) : List Opening :=
  os.foldl (fun kept o => if kept.any (·.bytes.isPrefixOf o.bytes) then kept else kept ++ [o]) []

/-- What all begin with. -/
def common : List Opening → List UInt8
  | [] => []
  | o :: os =>
    os.foldl (fun start p => ((start.zip p.bytes).takeWhile fun (b, c) => b == c).map (·.1)) o.bytes

end Opening

/-- The beginnings of matches in order of preference; none if they are too many to be told. -/
abbrev Openings := Option (List Opening)

namespace Openings

/-- Not more than this many are told. -/
def limit : Nat := 250

/-- What the matches of a set begin with, if it has no more than ten characters. -/
def ofSet (rs : Ranges) : Openings :=
  if 10 < rs.foldr (fun (first, last) n => last + 1 - first + n) 0 then none
  else some (rs.flatMap fun (first, last) =>
    (List.range' first (last + 1 - first)).map fun n => .ofChars [Char.ofNat n])

/-- A text is told up to its hundredth byte. -/
def ofText (cs : List Char) : Openings := some [.shorten 100 (.ofChars cs)]

def empty : Openings := ofText []

/-- Whether what comes after can add nothing. -/
def isSettled (os : Openings) : Bool := os.all fun os => os.all (!·.isWhole)

def continued (os : Openings) : Openings := os.map (·.map .continued)

/-- Beginnings of a part after those of the part before it. -/
def cross (os ps : Openings) : Openings :=
  match os with
  | none => none
  | some os =>
    match ps.filter fun ps => os.length * ps.length ≤ limit with
    | none => if os.any (·.bytes.isEmpty) then none else some (os.map .continued)
    | some ps =>
      let crossed := os.flatMap fun o =>
        if o.isWhole then ps.map o.append else [o]
      some ((Opening.merge crossed).map (.shorten 100))

def andThen (os ps : Openings) : Openings := if os.isSettled then os else os.cross ps

/-- Beginnings of one alternative, or else of another; if they are too many, four bytes each must do. -/
def union (os ps : Openings) : Openings := do
  let os ← os
  let ps ← ps
  if os.length + ps.length ≤ limit then return Opening.merge (os ++ ps)
  let os := Opening.merge (os.map (.shorten 4))
  let ps := Opening.merge (ps.map (.shorten 4))
  if os.length + ps.length ≤ limit then return Opening.merge (os ++ ps)
  none

/-- Beginnings of a repetition; they are told for ten rounds. -/
def repeated (greedy : Bool) (least : Nat) (most : Option Nat) (os : Openings) : Openings :=
  if least = 0 then
    let os := if most = some 1 then os else os.continued
    if greedy then os.union empty else empty.union os
  else
    let rounds := (min least 10).repeat (·.andThen os) empty
    if most = some least ∧ least ≤ 10 then rounds else rounds.continued

/-- First bytes below U+0080 that are common in most texts; bytes of other characters are, too. -/
def frequent : List Char := "\n\r (),-./0129:_abcdefghilmnoprstuvxy|".toList

def isRare (b : UInt8) : Bool := b < 0x80 && !frequent.any (·.toNat == b.toNat)

/-- Beginnings cut shorter while they are too many, each pair of numbers telling how short and how many
are too many. -/
def cut : List (Nat × Nat) → List Opening → List Opening
  | [], os => os
  | (length, count) :: more, os =>
    if os.length ≤ count then os else cut more (Opening.minimize (os.map (.shorten length)))

/-- The texts that are the matches, if a search for the beginnings finds them. If there are several, it is
a search for a rare first byte or a long beginning that they share, or for what is left when they are cut;
these tell less, unless what is left is of little use. -/
def texts? (os : List Opening) : Option (List (List Char)) :=
  let kept := Opening.minimize os
  let start := Opening.common kept
  let texts := kept.mapM (·.text)
  if kept.isEmpty || kept.any (·.bytes.isEmpty) then none
  else if 1 < os.length && start.length ≤ 3 && start.head?.any isRare then
    texts.filter fun _ => kept.all (·.bytes.length ≤ 1)
  else
    let shared := 4 < start.length || (1 < start.length && (texts.isNone || 16 < kept.length))
    let kept := if shared then kept.map (.shorten start.length) else kept
    let short := cut [(5, 10), (4, 10), (3, 64), (2, 64), (1, 10)] (Opening.merge kept)
    texts.filter fun _ =>
      kept.all (·.isWhole) &&
        (short.all (·.isWhole) || short.any (·.bytes.length ≤ 2) || 64 < short.length)

end Openings

namespace Shape

/-- What the matches of a shape begin with; `before` are the beginnings of the parts before it in a
sequence, or of the alternatives before it in a choice. -/
inductive Context where
  | alone
  | after (before : Openings)
  | orElse (before : Openings)

def Context.apply (c : Context) (os : Openings) : Openings :=
  match c with
  | alone => os
  | after before => before.andThen os
  | orElse before => before.union os

def openings : Shape → Context → Openings
  | empty, c | look _, c => c.apply .empty
  | text cs, c => c.apply (.ofText cs)
  | words ws, c => c.apply (ws.foldl (fun os w => os.union (.ofText w)) (some []))
  | set rs, c => c.apply (.ofSet rs)
  | group _ s, c => c.apply (s.openings .alone)
  | rep greedy least most s, c => c.apply (.repeated greedy least most (s.openings .alone))
  | cat a b, c =>
    match c with
    | .after before => b.openings (.after (before.andThen (a.openings .alone)))
    | _ => c.apply (b.openings (.after (a.openings .alone)))
  | alt a b, c =>
    match c with
    | .orElse before => b.openings (.orElse (before.union (a.openings .alone)))
    | _ => c.apply (b.openings (.orElse (a.openings .alone)))

/-- Whether there are no assertions and no groups to tell. -/
def isPlain : Shape → Bool
  | look _ | group _ _ => false
  | empty | text _ | words _ | set _ => true
  | rep _ _ _ s => s.isPlain
  | cat a b | alt a b => a.isPlain && b.isPlain

/-- The texts that the pattern is searched for by, if it is by texts alone. -/
def literals? (s : Shape) : Option (List (List Char)) :=
  if s.isPlain then
    match (s.openings .alone).bind Openings.texts?, s with
    | some texts, _ => some texts
    | none, words ws => if 3000 ≤ ws.length then some ws else none
    | none, _ => none
  else none

end Shape
end Acceptance.Pattern
