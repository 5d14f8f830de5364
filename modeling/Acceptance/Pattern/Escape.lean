import Acceptance.Pattern.Expr
import Acceptance.Pattern.Flags
import Acceptance.Pattern.Property

/-! Escape sequences: what a backslash and the characters after it stand for. -/
namespace Acceptance.Pattern

/-- A character may be given by the value of a byte. A set may come with a reason why it may not stand in
the pattern, which is well formed all the same. -/
inductive Atom where
  | char (c : Char) (isByte : Bool)
  | set (s : CharSet) (fault : Option Fault)
  | look (l : Look)
  deriving DecidableEq, Repr

namespace Escape

def hexValue? (c : Char) : Option Nat :=
  if '0' ≤ c ∧ c ≤ '9' then some (c.toNat - '0'.toNat)
  else if 'a' ≤ c ∧ c ≤ 'f' then some (c.toNat - 'a'.toNat + 10)
  else if 'A' ≤ c ∧ c ≤ 'F' then some (c.toNat - 'A'.toNat + 10)
  else none

/-- The character with code point `n`; `start` and `stop` bound the digits. -/
def scalar (n : Nat) (start stop : List Char) : Except Flaw Char :=
  if n.isValidChar then .ok (Char.ofNat n) else fail .badHexValue (.between start stop)

/-- Exactly `count` digits. -/
def fixedHex (f : Flags) (start : List Char) : Nat → Nat → List Char → Except Flaw (Char × List Char)
  | 0, n, rest => return (← scalar n start rest, rest)
  | _ + 1, _, [] => fail .unfinishedEscape (.here [])
  | count + 1, n, c :: rest =>
    match hexValue? c with
    | none => fail .badHexDigit (.char (c :: rest))
    | some d => fixedHex f start count (16 * n + d) (f.skip rest)

/-- Any number of digits up to a closing brace; `brace` begins with the opening one. -/
def bracedHex (f : Flags) (brace : List Char) : Except Flaw (Char × List Char) := do
  let start := brace.drop 1
  let (digits, stop) := f.takeWhile (fun c => (hexValue? c).isSome) start
  match stop with
  | [] => fail .unfinishedEscape (.between brace [])
  | '}' :: rest =>
    let rest := f.skip rest
    if digits.isEmpty then fail .emptyHex (.between brace rest)
    return (← scalar ((digits.filterMap hexValue?).foldl (16 * · + ·) 0) start stop, rest)
  | _ => fail .badHexDigit (.char stop)

/-- Reads the code of a character, which has `count` digits if it is not in braces. -/
def hex (f : Flags) (count : Nat) (start : List Char) : Except Flaw (Atom × List Char) :=
  match f.skip start with
  | '{' :: rest => (fun (c, rest) => (.char c false, rest)) <$> bracedHex f ('{' :: rest)
  | start => (fun (c, rest) => (.char c (count == 2), rest)) <$> fixedHex f start count 0 start

/-- ASCII characters other than letters, digits and angle brackets stand for themselves. -/
def standsForItself (c : Char) : Bool :=
  c.toNat < 128 && !c.isAlphanum && c != '<' && c != '>'

/-- The set, or what is not in it. -/
def setOf (f : Flags) (negated : Bool) (s : CharSet) : Atom :=
  let s := if f.unicode then s else .inter .ascii s
  let s := if negated then .compl s else s
  .set s (f.setFault? s)

def letter? (f : Flags) : Char → Option Atom
  | 'a' => some (.char '\x07' false)
  | 'f' => some (.char '\x0c' false)
  | 't' => some (.char '\t' false)
  | 'n' => some (.char '\n' false)
  | 'r' => some (.char '\r' false)
  | 'v' => some (.char '\x0b' false)
  | 'd' => some (setOf f false .digit)
  | 'D' => some (setOf f true .digit)
  | 's' => some (setOf f false .blank)
  | 'S' => some (setOf f true .blank)
  | 'w' => some (setOf f false .word)
  | 'W' => some (setOf f true .word)
  | 'A' => some (.look .textStart)
  | 'z' => some (.look .textEnd)
  | 'B' => some (.look (.word .notBoundary f.unicode))
  | '<' => some (.look (.word .start f.unicode))
  | '>' => some (.look (.word .stop f.unicode))
  | _ => none

def boundary? : String → Option WordLook
  | "start" => some .start
  | "end" => some .stop
  | "start-half" => some .startHalf
  | "end-half" => some .stopHalf
  | _ => none

def isBoundaryChar (c : Char) : Bool := c.isAlpha || c == '-'

/-- Reads what follows the letter of a word boundary. A brace with a name in it tells which boundary is
meant; any other brace begins a repetition, and is left. -/
def readBoundary (f : Flags) : List Char → Except Flaw (WordLook × List Char)
  | '{' :: rest =>
    match f.skip rest with
    | [] => fail .unclosedBoundary ⟨rest.length + 3, 0⟩
    | c :: inside =>
      if isBoundaryChar c then
        let (name, stop) := f.takeWhile isBoundaryChar (c :: inside)
        match stop with
        | '}' :: after =>
          match boundary? (String.ofList name) with
          | some l => .ok (l, after)
          | none => fail .unknownBoundary (.between (c :: inside) stop)
        | _ => fail .badBoundaryChar (.between ('{' :: rest) stop)
      else .ok (.boundary, '{' :: rest)
  | rest => .ok (.boundary, rest)

/-- The characters that are asked for. They can be asked for among all characters only. -/
def propertyOf (f : Flags) (negated : Bool) (q : Query) : Atom :=
  if f.unicode then
    match q.ranges with
    | .ok rs =>
      let s := f.caseless (.listed rs)
      .set (if negated then .compl s else s) none
    | .error fault => .set .none (some fault)
  else .set .none (some .unicodeNotAllowed)

/-- Reads a question about characters: a letter, or what is in braces. -/
def readProperty (f : Flags) (negated : Bool) (start : List Char) : Except Flaw (Atom × List Char) :=
  match f.skip start with
  | [] => fail .unfinishedEscape (.here [])
  | '{' :: rest =>
    let (text, stop) := f.takeWhile (· != '}') rest
    match stop with
    | [] => fail .unfinishedEscape (.here [])
    | _ :: rest =>
      let (q, others) := Query.ofText text
      .ok (propertyOf f (negated != others) q, rest)
  | '\\' :: rest => fail .badProperty (.char ('\\' :: rest))
  | c :: rest => .ok (propertyOf f negated (.named [c]), rest)

/-- Reads what follows a backslash. -/
def read (f : Flags) (afterBackslash : List Char) : Except Flaw (Atom × List Char) :=
  match afterBackslash with
  | [] => fail .unfinishedEscape ⟨1, 0⟩
  | c :: rest =>
    if standsForItself c then .ok (.char c false, rest)
    else if c.isDigit then fail .backreference ⟨rest.length + 2, rest.length⟩
    else if c = 'x' then hex f 2 rest
    else if c = 'u' then hex f 4 rest
    else if c = 'U' then hex f 8 rest
    else if c = 'p' then readProperty f false rest
    else if c = 'P' then readProperty f true rest
    else if c = 'b' then (fun (l, rest) => (.look (.word l f.unicode), rest)) <$> readBoundary f rest
    else
      match letter? f c with
      | some a => .ok (a, rest)
      | none => fail .unknownEscape ⟨rest.length + 2, rest.length⟩

end Escape
end Acceptance.Pattern
