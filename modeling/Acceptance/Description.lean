/-!
Descriptions of steps: literal text in which quoted numbers may vary, and the pattern that stands for a
description and all its variations.
-/
namespace Acceptance.Description

inductive Token where
  | literal (text : List Char)
  | quotedNumber
  deriving DecidableEq, Repr

def isNumberChar (c : Char) : Bool := c.isDigit || c == '+' || c == '-'

/-- What follows a quoted number at the beginning of the text, if there is one: a double quote, one or
more digits and signs, and a double quote. -/
def afterNumber? : List Char → Option (List Char)
  | '"' :: c :: rest =>
    if isNumberChar c then
      match rest.dropWhile isNumberChar with
      | '"' :: after => some after
      | _ => none
    else none
  | _ => none

theorem length_of_afterNumber? {s after : List Char} (h : afterNumber? s = some after) :
    after.length < s.length := by
  unfold afterNumber? at h
  split at h
  · rename_i c rest
    have hle := (List.dropWhile_suffix (l := rest) isNumberChar).length_le
    split at h
    · split at h
      · rename_i heq
        cases h
        rw [heq] at hle
        simp only [List.length_cons] at hle ⊢
        omega
      · cases h
    · cases h
  · cases h

/-- Puts a character in front of the literal that begins a list of tokens. -/
def consChar (c : Char) : List Token → List Token
  | .literal text :: ts => .literal (c :: text) :: ts
  | ts => .literal [c] :: ts

/-- The leftmost quoted numbers that do not overlap, and the text between them. -/
def tokens (s : List Char) : List Token :=
  match _h : afterNumber? s with
  | some after => .quotedNumber :: tokens after
  | none =>
    match s with
    | [] => []
    | c :: rest => consChar c (tokens rest)
termination_by s.length
decreasing_by
  · exact length_of_afterNumber? _h
  · simp

/-- Characters with a meaning of their own in a pattern. -/
def isSpecial (c : Char) : Bool :=
  ['\\', '.', '+', '*', '?', '(', ')', '|', '[', ']', '\x7b', '\x7d', '^', '$'].contains c

def escape (text : List Char) : List Char :=
  text.flatMap fun c => if isSpecial c then ['\\', c] else [c]

def numberPattern : List Char := "\"([0-9+-]+)\"".toList

def Token.pattern : Token → List Char
  | .literal text => escape text
  | .quotedNumber => numberPattern

/-- The text of a pattern for the description, in which every quoted number may be another one. -/
def pattern (s : String) : String :=
  String.ofList ('^' :: ((tokens s.toList).flatMap Token.pattern ++ ['$']))

end Acceptance.Description
