import Acceptance.Pattern.Class
import Acceptance.Pattern.Tree
import Acceptance.Text.Letter
import Acceptance.Text.Number

/-!
Reading a tree from the text of a pattern. The reader goes through the pattern once and keeps
the groups that are open; every round of it takes at least one character.
-/
namespace Acceptance.Pattern

/-- A part of the pattern. One that only sets flags has no tree. -/
structure Part where
  tree : Option Tree
  place : Stretch
  nest : Nest
  deriving Repr

/-- Parts side by side, last first, as one part. -/
def Part.join (place : Stretch) (make : List Tree → Tree) (parts : List Part) : Part :=
  let nest := parts.foldl (fun n p => p.nest.beside n) []
  ⟨some (make (parts.reverse.filterMap (·.tree))), place, .within place nest⟩

/-- The alternatives read so far of a group or of the pattern, and the parts of the one that is being
read, all last first. -/
structure Branches where
  start : List Char
  done : List Part
  last : List Char
  parts : List Part
  deriving Repr

namespace Branches

def new (start : List Char) : Branches := ⟨start, [], start, []⟩

def add (b : Branches) (p : Part) : Branches := { b with parts := p :: b.parts }

/-- The alternative that is being read, if it ends where `stop` is left of the pattern. -/
def alternative (b : Branches) (stop : List Char) : Part :=
  match b.parts with
  | [] => ⟨some .empty, ⟨b.last, stop⟩, []⟩
  | [p] => { p with tree := some (p.tree.getD .empty) }
  | parts => .join ⟨b.last, stop⟩ .sequence parts

def bar (b : Branches) (stop rest : List Char) : Branches :=
  { b with done := b.alternative stop :: b.done, last := rest, parts := [] }

/-- All alternatives, if the last ends where `stop` is left of the pattern. -/
def finish (b : Branches) (stop : List Char) : Part :=
  match b.done with
  | [] => b.alternative stop
  | done => .join ⟨b.start, stop⟩ .choice (b.alternative stop :: done)

end Branches

/-- A group that has been opened, with the flags and the branches around it. -/
structure Group where
  start : List Char
  label : Label
  flags : Flags
  branches : Branches

/-- What has been read, the groups that are open, the names of groups, the number of groups that are
numbered, and the first thing that is well formed but may not stand in the pattern. -/
structure Reader where
  flags : Flags
  branches : Branches
  groups : List Group
  names : List (String × Span)
  count : Nat
  refused : Option Flaw

namespace Reader

def new (pattern : List Char) : Reader := ⟨{}, .new pattern, [], [], 0, none⟩

def add (r : Reader) (p : Part) : Reader := { r with branches := r.branches.add p }

/-- Adds a part without parts. -/
def leaf (r : Reader) (t : Tree) (start stop : List Char) : Reader := r.add ⟨some t, ⟨start, stop⟩, []⟩

def refuse (r : Reader) (flaw : Option Flaw) : Reader := { r with refused := r.refused.or flaw }

/-- Adds a set of characters, which there may be a reason against. -/
def oneOf (r : Reader) (s : CharSet) (fault : Option Fault) (start stop : List Char) : Reader :=
  (r.leaf (.one s) start stop).refuse (fault.map (⟨·, .between start stop⟩))

def atom (r : Reader) (a : Atom) (start stop : List Char) : Reader :=
  match a with
  | .char c isByte =>
    r.oneOf (r.flags.caseless (.one c)) (r.flags.charFault? false isByte c) start stop
  | .set s fault => r.oneOf s fault start stop
  | .look l => r.leaf (.look l) start stop

/-- The part that a repetition is about, and the reader without it. -/
def operand (r : Reader) (start : List Char) : Except Flaw (Tree × Part × Reader) :=
  match r.branches.parts with
  | [] => fail .missingOperand (.here start)
  | p :: parts =>
    match p.tree with
    | none => fail .missingOperand (.here start)
    | some t => .ok (t, p, { r with branches := { r.branches with parts := parts } })

/-- Repeats the last part of the pattern; the operator ends where `stop` is left. -/
def repeated (r : Reader) (t : Tree) (p : Part) (least : Nat) (most : Option Nat) (lazy : Bool)
    (stop : List Char) : Reader :=
  let place : Stretch := ⟨p.place.start, stop⟩
  r.add ⟨some (.rep (lazy == r.flags.swapGreed) least most t), place, .within place p.nest⟩

/-- The question mark that makes a repetition lazy. -/
def readLazy : List Char → Bool × List Char
  | '?' :: rest => (true, rest)
  | rest => (false, rest)

/-- Reads a number of repetitions among white space. -/
def readCount (f : Flags) (start : List Char) : Except Flaw Nat × List Char :=
  let digits := start.dropWhile Text.isBlank
  let (run, stop) := f.takeWhile Char.isDigit digits
  let n := run.foldl (fun n c => 10 * n + (c.toNat - '0'.toNat)) 0
  let result :=
    if run.isEmpty then fail .emptyCount (.here digits)
    else if Nat.pow 2 32 ≤ n then fail .hugeCount (.between digits stop)
    else .ok n
  (result, stop.dropWhile Text.isBlank)

/-- Reads the bounds of a counted repetition, which follow the brace that `start` begins with. -/
def readBounds (f : Flags) (start : List Char) : Except Flaw ((Nat × Option Nat) × List Char) := do
  let inside := f.skip (start.drop 1)
  if inside.isEmpty then fail .unclosedCount (.between start inside)
  let (least, rest) := readCount f inside
  match rest with
  | [] => fail .unclosedCount (.between start [])
  | ',' :: rest =>
    match f.skip rest with
    | [] => fail .unclosedCount (.between start [])
    | '}' :: rest => return ((← least, none), rest)
    | rest =>
      let least ← least
      let (most, rest) := readCount f rest
      let most ← most
      match rest with
      | '}' :: rest => return ((least, some most), rest)
      | _ => fail .unclosedCount (.between start rest)
  | _ =>
    let least ← least
    match rest with
    | '}' :: rest => return ((least, some least), rest)
    | _ => fail .unclosedCount (.between start rest)

def readCounted (r : Reader) (start : List Char) : Except Flaw (Reader × List Char) := do
  let (t, p, r) ← r.operand start
  let ((least, most), rest) ← readBounds r.flags start
  let (lazy, rest) := readLazy (r.flags.skip rest)
  if most.any (· < least) then fail .reversedCount (.between start rest)
  return (r.repeated t p least most lazy rest, rest)

def readUncounted (r : Reader) (least : Nat) (most : Option Nat) (start : List Char) :
    Except Flaw (Reader × List Char) := do
  let (t, p, r) ← r.operand start
  let (lazy, rest) := readLazy (start.drop 1)
  return (r.repeated t p least most lazy rest, rest)

def isNameStart (c : Char) : Bool := c == '_' || Text.isLetter c

def isNameChar (c : Char) : Bool :=
  c == '_' || c == '.' || c == '[' || c == ']' || Text.isLetter c || Text.isNumber c

/-- Reads the name of a group up to `>`, which is taken too. -/
def readName (start : List Char) : List Char → Except Flaw (String × List Char)
  | [] => fail .unclosedName (.here [])
  | c :: rest =>
    if c = '>' then
      let name := start.take (start.length - (rest.length + 1))
      if name.isEmpty then fail .emptyName (.here start) else .ok (String.ofList name, rest)
    else if (if start.length = rest.length + 1 then isNameStart c else isNameChar c) then
      readName start rest
    else fail .badNameChar (.char (c :: rest))

/-- Opens a group whose inside begins with `rest`. -/
def opened (r : Reader) (start : List Char) (label : Label) (flags : Flags) (rest : List Char) : Reader :=
  { r with
    flags := flags
    branches := .new rest
    groups := ⟨start, label, r.flags, r.branches⟩ :: r.groups
    count := if label = .plain then r.count else r.count + 1 }

def openNamed (r : Reader) (start nameStart : List Char) : Except Flaw (Reader × List Char) := do
  let (name, rest) ← readName nameStart nameStart
  let span := Span.between nameStart ('>' :: rest)
  match r.names.lookup name with
  | some first => fail (.duplicateName first) span
  | none =>
    let r := { r with names := r.names ++ [(name, span)] }
    return (r.opened start (.named r.count name) r.flags rest, rest)

/-- Reads flags, either for a group or for the rest of the group that is open. -/
def readFlags (r : Reader) (start mark : List Char) : Except Flaw (Reader × List Char) := do
  let inside := mark.drop 1
  if inside.isEmpty then fail .unclosedGroup (.char start)
  let (flags, rest) ← r.flags.readOn [] inside
  match rest with
  | ')' :: rest =>
    if inside.length = rest.length + 1 then fail .missingOperand (.here mark)
    return ({ r with flags := flags }.add ⟨none, ⟨start, rest⟩, []⟩, rest)
  | _ => return (r.opened start .plain flags (rest.drop 1), rest.drop 1)

def openGroup (r : Reader) (start : List Char) : Except Flaw (Reader × List Char) :=
  match r.flags.skip (start.drop 1) with
  | '?' :: '=' :: rest | '?' :: '!' :: rest => fail .lookaround (.between start rest)
  | '?' :: '<' :: '=' :: rest | '?' :: '<' :: '!' :: rest => fail .lookaround (.between start rest)
  | '?' :: 'P' :: '<' :: rest => r.openNamed start rest
  | '?' :: '<' :: rest => r.openNamed start rest
  | '?' :: rest => r.readFlags start ('?' :: rest)
  | rest => .ok (r.opened start (.numbered r.count) r.flags rest, rest)

def closeGroup (r : Reader) (start : List Char) : Except Flaw (Reader × List Char) :=
  match r.groups with
  | [] => fail .unopenedGroup (.char start)
  | g :: groups =>
    let inside := r.branches.finish start
    let place : Stretch := ⟨g.start, start.drop 1⟩
    let tree := inside.tree.map (.group g.label)
    let branches := g.branches.add ⟨tree, place, .within place inside.nest⟩
    .ok ({ r with flags := g.flags, branches := branches, groups := groups }, start.drop 1)

/-- Reads one part of the pattern, of which `c :: rest` is left. -/
def part (r : Reader) (c : Char) (rest : List Char) : Except Flaw (Reader × List Char) :=
  let start := c :: rest
  match c with
  | '(' => r.openGroup start
  | ')' => r.closeGroup start
  | '|' => .ok ({ r with branches := r.branches.bar start rest }, rest)
  | '[' => do
    let (p, rest) ← Class.read r.flags start
    return ((r.add ⟨some (.one p.set), p.place, p.nest⟩).refuse p.refused, rest)
  | '?' => r.readUncounted 0 (some 1) start
  | '*' => r.readUncounted 0 none start
  | '+' => r.readUncounted 1 none start
  | '{' => r.readCounted start
  | '\\' => do
    let (a, rest) ← Escape.read r.flags rest
    return (r.atom a start rest, rest)
  | '.' => .ok (r.oneOf r.flags.dot (r.flags.setFault? r.flags.dot) start rest, rest)
  | '^' =>
    .ok (r.leaf (.look (if r.flags.multiLine then .lineStart r.flags.crlf else .textStart)) start rest, rest)
  | '$' =>
    .ok (r.leaf (.look (if r.flags.multiLine then .lineEnd r.flags.crlf else .textEnd)) start rest, rest)
  | _ => .ok (r.atom (.char c false) start rest, rest)

/-- Reads one part, or passes over white space and comments. -/
def step (r : Reader) (c : Char) (rest : List Char) : Except Flaw (Reader × List Char) :=
  if r.flags.verbose && (Text.isBlank c || c == '#') then .ok (r, r.flags.skip (c :: rest))
  else r.part c rest

/-- Reads the whole rest of the pattern. -/
def run : Nat → Reader → List Char → Except Flaw Reader
  | _, r, [] =>
    match r.groups with
    | [] => .ok r
    | g :: _ => fail .unclosedGroup (.char g.start)
  | 0, r, _ => .ok r
  | fuel + 1, r, c :: rest => do
    let (r, rest) ← r.step c rest
    run fuel r rest

/-- The tree of a pattern, and the names of its groups in their order. -/
def read (pattern : List Char) : Except Flaw (Tree × List String) := do
  let r ← run pattern.length (new pattern) pattern
  let whole := r.branches.finish []
  match whole.nest.tooDeep?, r.refused with
  | some place, _ => fail .tooDeep place.span
  | none, some flaw => .error flaw
  | none, none => return (whole.tree.getD .empty, r.names.map (·.1))

end Reader
end Acceptance.Pattern
