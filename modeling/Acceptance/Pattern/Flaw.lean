import Acceptance.Text.Lines

/-! What can be wrong with the text of a pattern, and how it is shown. -/
namespace Acceptance.Pattern

/-- A part of a pattern, by the numbers of characters from its beginning and from its end to the end of
the pattern. -/
structure Span where
  left : Nat
  leftAfter : Nat
  deriving DecidableEq, Repr

namespace Span

/-- The part between two rests of the pattern. -/
def between (start stop : List Char) : Span := ⟨start.length, stop.length⟩

def here (rest : List Char) : Span := between rest rest

/-- The first character of the rest. -/
def char (rest : List Char) : Span := ⟨rest.length, rest.length - 1⟩

end Span

/-- A part of a pattern, by what is left of the pattern at its beginning and at its end. -/
structure Stretch where
  start : List Char
  stop : List Char
  deriving DecidableEq, Repr

def Stretch.span (s : Stretch) : Span := .between s.start s.stop

inductive Fault where
  | unclosedGroup
  | unopenedGroup
  | unclosedClass
  | missingOperand
  | unclosedCount
  | emptyCount
  | hugeCount
  | reversedCount
  | reversedRange
  | rangeOfClass
  | classAssertion
  | unfinishedEscape
  | unknownEscape
  | backreference
  | lookaround
  | duplicateName (first : Span)
  | emptyName
  | badNameChar
  | unclosedName
  | unknownFlag
  | duplicateFlag (first : Span)
  | repeatedNegation (first : Span)
  | danglingNegation
  | unclosedFlags
  | emptyHex
  | badHexDigit
  | badHexValue
  | unclosedBoundary
  | badBoundaryChar
  | unknownBoundary
  | badProperty
  | unknownProperty
  | unknownPropertyValue
  | unicodeNotAllowed
  | invalidUtf8
  | tooDeep
  deriving DecidableEq, Repr

namespace Fault

def message : Fault → String
  | unclosedGroup => "unclosed group"
  | unopenedGroup => "unopened group"
  | unclosedClass => "unclosed character class"
  | missingOperand => "repetition operator missing expression"
  | unclosedCount => "unclosed counted repetition"
  | emptyCount => "repetition quantifier expects a valid decimal"
  | hugeCount => "decimal literal invalid"
  | reversedCount => "invalid repetition count range, the start must be <= the end"
  | reversedRange => "invalid character class range, the start must be <= the end"
  | rangeOfClass => "invalid range boundary, must be a literal"
  | classAssertion => "invalid escape sequence found in character class"
  | unfinishedEscape => "incomplete escape sequence, reached end of pattern prematurely"
  | unknownEscape => "unrecognized escape sequence"
  | backreference => "backreferences are not supported"
  | lookaround => "look-around, including look-ahead and look-behind, is not supported"
  | duplicateName _ => "duplicate capture group name"
  | emptyName => "empty capture group name"
  | badNameChar => "invalid capture group character"
  | unclosedName => "unclosed capture group name"
  | unknownFlag => "unrecognized flag"
  | duplicateFlag _ => "duplicate flag"
  | repeatedNegation _ => "flag negation operator repeated"
  | danglingNegation => "dangling flag negation operator"
  | unclosedFlags => "expected flag but got end of regex"
  | emptyHex => "hexadecimal literal empty"
  | badHexDigit => "invalid hexadecimal digit"
  | badHexValue => "hexadecimal literal is not a Unicode scalar value"
  | unclosedBoundary => "found either the beginning of a special word boundary or a bounded repetition on a \\b with an opening brace, but no closing brace"
  | badBoundaryChar => "special word boundary assertion is either unclosed or contains an invalid character"
  | unknownBoundary => "unrecognized special word boundary assertion, valid choices are: start, end, start-half or end-half"
  | badProperty => "invalid Unicode character class"
  | unknownProperty => "Unicode property not found"
  | unknownPropertyValue => "Unicode property value not found"
  | unicodeNotAllowed => "Unicode not allowed here"
  | invalidUtf8 => "pattern can match invalid UTF-8"
  | tooDeep => "exceed the maximum number of nested parentheses/brackets (250)"

/-- Where the thing was seen first that may not be seen twice. -/
def first? : Fault → Option Span
  | duplicateName s | duplicateFlag s | repeatedNegation s => some s
  | _ => none

end Fault

structure Flaw where
  fault : Fault
  span : Span
  deriving DecidableEq, Repr

def fail {α : Type} (fault : Fault) (span : Span) : Except Flaw α := .error ⟨fault, span⟩

/-- Line and column of a character, both from 1. -/
structure Place where
  line : Nat
  column : Nat
  deriving DecidableEq, Repr

namespace Place

def next (p : Place) (c : Char) : Place :=
  if c = '\n' then ⟨p.line + 1, 1⟩ else ⟨p.line, p.column + 1⟩

/-- The place where `left` characters are left. -/
def ofLeft (pattern : List Char) (left : Nat) : Place :=
  (pattern.take (pattern.length - left)).foldl next ⟨1, 1⟩

end Place

/-- The places between which a mark is drawn. -/
structure Marked where
  start : Place
  stop : Place
  deriving DecidableEq, Repr

namespace Marked

def ofSpan (pattern : List Char) (s : Span) : Marked :=
  ⟨.ofLeft pattern s.left, .ofLeft pattern s.leftAfter⟩

def isOneLine (m : Marked) : Bool := m.start.line == m.stop.line

/-- Carets below the marked columns, from `column` on; an empty mark has one. -/
def carets : Nat → List Marked → String
  | _, [] => ""
  | column, m :: more =>
    let width := max 1 (m.stop.column - m.start.column)
    "".pushn ' ' (m.start.column - column) ++ "".pushn '^' width ++
      carets (max column m.start.column + width) more

end Marked

namespace Flaw

/-- Where to draw marks, in the order of the pattern. -/
def marks (f : Flaw) (pattern : List Char) : List Marked :=
  let spans := match f.fault.first? with
    | none => [f.span]
    | some first => if first.left < f.span.left then [f.span, first] else [first, f.span]
  spans.map (.ofSpan pattern)

/-- The lines of the pattern, each behind its margin, and below them the marks that fall on them. -/
def picture (marks : List Marked) (margin : Nat → String) :
    Nat → List (List Char) → List String
  | _, [] => []
  | n, line :: more =>
    let here := marks.filter fun m => m.isOneLine && m.start.line == n
    let drawn := (margin n ++ String.ofList line) ::
      (if here.isEmpty then [] else ["".pushn ' ' (margin n).length ++ Marked.carets 1 here])
    drawn ++ picture marks margin (n + 1) more

def numberedMargin (width n : Nat) : String :=
  let digits := toString n
  "".pushn ' ' (width - digits.length) ++ digits ++ ": "

def spread (m : Marked) : String :=
  s!"on line {m.start.line} (column {m.start.column}) through line {m.stop.line} (column {m.stop.column - 1})"

/-- The pattern with the flaw marked in it. The lines of a pattern of several lines are numbered and set
between rules, and marks over several lines are told in words. -/
def message (f : Flaw) (pattern : List Char) : String :=
  let marks := f.marks pattern
  let lines := Text.lines pattern
  let body :=
    if pattern.contains '\n' then
      let count := lines.length + (if pattern.getLast? = some '\n' then 1 else 0)
      let margin := numberedMargin (toString count).length
      let rule := "".pushn '~' 79
      [rule] ++ picture marks margin 1 lines ++ [rule] ++
        (marks.filter (!·.isOneLine)).map spread
    else picture marks (fun _ => "    ") 1 lines
  "\n".intercalate (["regex parse error:"] ++ body ++ ["error: " ++ f.fault.message])

end Flaw
end Acceptance.Pattern
