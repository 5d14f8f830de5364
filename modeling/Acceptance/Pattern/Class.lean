import Acceptance.Pattern.Escape
import Acceptance.Pattern.Nest

/-! Character classes in brackets, which may be nested and combined. -/
namespace Acceptance.Pattern

namespace Class

inductive Combination where
  | inter | diff | symmDiff
  deriving DecidableEq, Repr

def Combination.apply : Combination → CharSet → CharSet → CharSet
  | inter => .inter
  | diff => .diff
  | symmDiff => .symmDiff

/-- A part of a class, with the first thing in it that is well formed but may not stand there. -/
structure Part where
  set : CharSet
  place : Stretch
  nest : Nest
  refused : Option Flaw

def Part.combine (left : Part) (comb : Combination) (right : Part) : Part :=
  let place : Stretch := ⟨left.place.start, right.place.stop⟩
  { set := comb.apply left.set right.set
    place := place
    nest := .within place (left.nest.beside right.nest)
    refused := left.refused.or right.refused }

/-- The items read so far, as one part; an item more makes it a part around them. -/
structure Items where
  count : Nat
  part : Part

namespace Items

def new (rest : List Char) : Items := ⟨0, .none, ⟨rest, rest⟩, [], none⟩

def add (items : Items) (p : Part) : Items :=
  let before := items.part
  let start := if items.count = 0 then p.place.start else before.place.start
  let part : Part :=
    { set := .union before.set p.set
      place := ⟨start, p.place.stop⟩
      nest := before.nest.beside p.nest
      refused := before.refused.or p.refused }
  ⟨items.count + 1, part⟩

def finish (items : Items) (f : Flags) : Part :=
  let p := { items.part with set := f.caseless items.part.set }
  if items.count < 2 then p else { p with nest := .within p.place p.nest }

end Items

/-- A class that has been opened: its opening brackets and signs, and what has been read of it,
with the part left of a combination that still lacks its right part. -/
structure Open where
  opening : Stretch
  negated : Bool
  left : Option (Combination × Part)
  items : Items

namespace Open

def add (o : Open) (p : Part) : Open := { o with items := o.items.add p }

/-- What is inside the brackets so far. -/
def current (o : Open) (f : Flags) : Part :=
  let right := o.items.finish f
  match o.left with
  | none => right
  | some (comb, left) => left.combine comb right

def combine (o : Open) (f : Flags) (comb : Combination) (rest : List Char) : Open :=
  { o with left := some (comb, o.current f), items := .new rest }

/-- The class in its brackets, when `rest` is left of the pattern. -/
def finish (o : Open) (f : Flags) (rest : List Char) : Part :=
  let inside := o.current f
  let place : Stretch := ⟨o.opening.start, rest⟩
  let set := if o.negated then .compl inside.set else inside.set
  { set := set
    place := place
    nest := .within place inside.nest
    refused := inside.refused.or ((f.setFault? set).map (⟨·, place.span⟩)) }

end Open

def ranges (rs : List (Char × Char)) : CharSet :=
  rs.foldr (fun (first, last) s => .union (.range first last) s) .none

/-- The named sets of ASCII characters. -/
def named? : String → Option CharSet
  | "alnum" => some (ranges [('0', '9'), ('A', 'Z'), ('a', 'z')])
  | "alpha" => some (ranges [('A', 'Z'), ('a', 'z')])
  | "ascii" => some (.range '\x00' '\x7f')
  | "blank" => some (ranges [('\t', '\t'), (' ', ' ')])
  | "cntrl" => some (ranges [('\x00', '\x1f'), ('\x7f', '\x7f')])
  | "digit" => some (.range '0' '9')
  | "graph" => some (.range '!' '~')
  | "lower" => some (.range 'a' 'z')
  | "print" => some (.range ' ' '~')
  | "punct" => some (ranges [('!', '/'), (':', '@'), ('[', '\x60'), ('\x7b', '~')])
  | "space" => some (ranges [('\t', '\r'), (' ', ' ')])
  | "upper" => some (.range 'A' 'Z')
  | "word" => some (ranges [('0', '9'), ('A', 'Z'), ('_', '_'), ('a', 'z')])
  | "xdigit" => some (ranges [('0', '9'), ('A', 'F'), ('a', 'f')])
  | _ => none

/-- Reads the rest of a named set after `[:`, if it is one. -/
def readNamed? (rest : List Char) : Option (CharSet × List Char) :=
  let negated := rest.head? == some '^'
  let body := if negated then rest.drop 1 else rest
  match body.dropWhile (· != ':') with
  | ':' :: ']' :: rest =>
    (named? (String.ofList (body.takeWhile (· != ':')))).map fun s =>
      (if negated then .compl s else s, rest)
  | _ => none

def item (s : CharSet) (start stop : List Char) (refused : Option Flaw) : Part :=
  ⟨s, ⟨start, stop⟩, [], refused⟩

/-- Reads an opening bracket and, if there is one, the sign behind it. -/
def readSign (f : Flags) (start : List Char) : Bool × List Char :=
  match f.skip (start.drop 1) with
  | '^' :: rest => (true, f.skip rest)
  | inside => (false, inside)

/-- Opens a class. Hyphens, or else a closing bracket, at its beginning stand for themselves. -/
def readOpen (f : Flags) (start : List Char) : Except Flaw (Open × List Char) := do
  let (negated, inside) := readSign f start
  if inside.isEmpty then fail .unclosedClass (.between start [])
  let (hyphens, rest) := f.readWhile (· == '-') false inside
  let items := hyphens.foldl (fun items s => items.add (item (.one '-') s (s.drop 1) none)) (.new inside)
  match rest with
  | [] => fail .unclosedClass (.here start)
  | ']' :: after =>
    if items.count = 0 then
      let rest := f.skip after
      if rest.isEmpty then fail .unclosedClass (.between start [])
      let items := items.add (item (.one ']') (']' :: after) after none)
      return (⟨⟨start, rest⟩, negated, none, items⟩, rest)
    return (⟨⟨start, ']' :: after⟩, negated, none, items⟩, ']' :: after)
  | _ => return (⟨⟨start, rest⟩, negated, none, items⟩, rest)

def readAtom (f : Flags) : List Char → Except Flaw (Atom × List Char)
  | '\\' :: rest => Escape.read f rest
  | c :: rest => .ok (.char c false, rest)
  | [] => fail .unclosedClass (.here [])

def charRefused? (f : Flags) (c : Char) (isByte : Bool) (start stop : List Char) : Option Flaw :=
  (f.charFault? true isByte c).map (⟨·, .between start stop⟩)

def itemOf (f : Flags) (a : Atom) (start stop : List Char) : Except Flaw Part :=
  match a with
  | .char c isByte => .ok (item (.one c) start stop (charRefused? f c isByte start stop))
  | .set s fault => .ok (item s start stop (fault.map (⟨·, .between start stop⟩)))
  | .look _ => fail .classAssertion (.between start stop)

/-- A character at one end of a range. -/
def boundary (f : Flags) (a : Atom) (start stop : List Char) : Except Flaw (Char × Option Flaw) :=
  match a with
  | .char c isByte => .ok (c, charRefused? f c isByte start stop)
  | _ => fail .rangeOfClass (.between start stop)

/-- Reads a character, a class escape or a range. A hyphen before a bracket or another hyphen makes no
range. -/
def readItem (f : Flags) (innermost : Stretch) (start : List Char) :
    Except Flaw (Part × List Char) := do
  let (a, afterFirst) ← readAtom f start
  match f.skip afterFirst with
  | [] => fail .unclosedClass innermost.span
  | '-' :: afterHyphen =>
    if f.peek? afterHyphen = some ']' ∨ f.peek? afterHyphen = some '-' then
      return (← itemOf f a start afterFirst, '-' :: afterHyphen)
    let second := f.skip afterHyphen
    if second.isEmpty then fail .unclosedClass innermost.span
    let (b, stop) ← readAtom f second
    let (first, firstRefused) ← boundary f a start afterFirst
    let (last, lastRefused) ← boundary f b second stop
    if last < first then fail .reversedRange (.between start stop)
    return (item (.range first last) start stop (firstRefused.or lastRefused), stop)
  | rest => return (← itemOf f a start afterFirst, rest)

/-- Where reading stands: the outermost class is finished, or a class is open within others. -/
inductive Progress where
  | finished (p : Part)
  | within (o : Open) (outer : List Open)

/-- Reads on in the class `o`, which stands within `outer`: a bracket, an operator or an item. -/
def step (f : Flags) (o : Open) (outer : List Open) (left : List Char) :
    Except Flaw (Progress × List Char) := do
  let start := f.skip left
  match start with
  | [] => fail .unclosedClass o.opening.span
  | '[' :: ':' :: named =>
    match readNamed? named with
    | some (s, rest) => return (.within (o.add (item s start rest none)) outer, rest)
    | none =>
      let (inner, rest) ← readOpen f start
      return (.within inner (o :: outer), rest)
  | '[' :: _ =>
    let (inner, rest) ← readOpen f start
    return (.within inner (o :: outer), rest)
  | ']' :: rest =>
    match outer with
    | [] => return (.finished (o.finish f rest), rest)
    | around :: outer => return (.within (around.add (o.finish f rest)) outer, rest)
  | '&' :: '&' :: rest => return (.within (o.combine f .inter rest) outer, rest)
  | '-' :: '-' :: rest => return (.within (o.combine f .diff rest) outer, rest)
  | '~' :: '~' :: rest => return (.within (o.combine f .symmDiff rest) outer, rest)
  | _ =>
    let (p, rest) ← readItem f o.opening start
    return (.within (o.add p) outer, rest)

/-- Reads up to the end of the outermost class. -/
def run (f : Flags) : Nat → Open → List Open → List Char → Except Flaw (Part × List Char)
  | 0, o, _, _ => fail .unclosedClass o.opening.span
  | fuel + 1, o, outer, left => do
    match ← step f o outer left with
    | (.finished p, rest) => return (p, rest)
    | (.within o outer, rest) => run f fuel o outer rest

/-- Reads a class from its opening bracket on. Every round takes a character. -/
def read (f : Flags) (start : List Char) : Except Flaw (Part × List Char) := do
  let (o, rest) ← readOpen f start
  run f (rest.length + 1) o [] rest

end Class
end Acceptance.Pattern
