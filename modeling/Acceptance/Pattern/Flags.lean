import Acceptance.Pattern.CharSet
import Acceptance.Pattern.Flaw

/-! Flags: how the text of a pattern is to be read, up to the end of the group that sets them. -/
namespace Acceptance.Pattern
open Text

/-- Without `unicode` sets are of ASCII characters; with `crlf` carriage returns end lines too; with
`verbose` white space and comments are passed over. -/
structure Flags where
  anyCase : Bool := false
  multiLine : Bool := false
  dotAll : Bool := false
  swapGreed : Bool := false
  unicode : Bool := true
  crlf : Bool := false
  verbose : Bool := false
  deriving DecidableEq, Repr

namespace Flags

/-- The flags after one of them has been switched. -/
def switch? (f : Flags) (letter : Char) (on : Bool) : Option Flags :=
  match letter with
  | 'i' => some { f with anyCase := on }
  | 'm' => some { f with multiLine := on }
  | 's' => some { f with dotAll := on }
  | 'U' => some { f with swapGreed := on }
  | 'u' => some { f with unicode := on }
  | 'R' => some { f with crlf := on }
  | 'x' => some { f with verbose := on }
  | _ => none

/-- Reads flags up to a colon or a closing parenthesis, which is left. `seen` holds the letters and the
hyphen read so far with their places. -/
def readOn (f : Flags) (seen : List (Char × Span)) : List Char → Except Flaw (Flags × List Char)
  | [] => fail .unclosedFlags (.here [])
  | c :: rest =>
    let here := Span.char (c :: rest)
    if c = ':' ∨ c = ')' then
      match seen with
      | ('-', hyphen) :: _ => fail .danglingNegation hyphen
      | _ => .ok (f, c :: rest)
    else if c = '-' then
      match seen.lookup '-' with
      | some first => fail (.repeatedNegation first) here
      | none => f.readOn ((c, here) :: seen) rest
    else
      match f.switch? c ((seen.lookup '-').isNone) with
      | none => fail .unknownFlag here
      | some f' =>
        match seen.lookup c with
        | some first => fail (.duplicateFlag first) here
        | none => f'.readOn ((c, here) :: seen) rest

/-! ### White space and comments -/

/-- Reads on over characters that are as `p` says: what is left from each of them on, and what is left in
the end. A comment goes from `#` to the end of its line. -/
def readWhile (f : Flags) (p : Char → Bool) : (inComment : Bool) → List Char →
    List (List Char) × List Char
  | _, [] => ([], [])
  | true, c :: rest => f.readWhile p (c != '\n') rest
  | false, c :: rest =>
    if f.verbose && isBlank c then f.readWhile p false rest
    else if f.verbose && c == '#' then f.readWhile p true rest
    else if p c then
      let (taken, stop) := f.readWhile p false rest
      ((c :: rest) :: taken, stop)
    else ([], c :: rest)

/-- The characters that are as `p` says, and what is left behind them. -/
def takeWhile (f : Flags) (p : Char → Bool) (s : List Char) : List Char × List Char :=
  let (taken, stop) := f.readWhile p false s
  (taken.filterMap List.head?, stop)

/-- What is left behind white space and comments. -/
def skip (f : Flags) (s : List Char) : List Char :=
  if f.verbose then (f.readWhile (fun _ => false) false s).2 else s

/-- The next character but white space. Of a comment it may be the first character. -/
def peek? (f : Flags) (s : List Char) : Option Char :=
  if f.verbose then
    match s.dropWhile isBlank with
    | '#' :: comment => (comment.dropWhile isBlank).head?
    | s => s.head?
  else s.head?

/-! ### Sets -/

/-- The set, which is closed under letter case if that makes no difference. -/
def caseless (f : Flags) (s : CharSet) : CharSet :=
  if f.anyCase then if f.unicode then .anyCase s else s.anyAsciiCase else s

/-- The characters that a dot stands for. -/
def dot (f : Flags) : CharSet :=
  if f.dotAll then .all
  else if f.crlf then .compl (.union (.one '\r') (.one '\n'))
  else .notNewline

/-- Why there may be no such set. -/
def setFault? (f : Flags) (s : CharSet) : Option Fault :=
  if f.unicode || s.isAscii then none else some .invalidUtf8

/-- Why a character may not stand in a class, or outside of classes. It may be given by the value of a
byte. -/
def charFault? (f : Flags) (inClass isByte : Bool) (c : Char) : Option Fault :=
  if f.unicode || c.toNat < 128 then none
  else if isByte then some .invalidUtf8
  else if inClass then some .unicodeNotAllowed
  else none

end Flags
end Acceptance.Pattern
