import Acceptance.Pattern.CharSet

/-! Regular expressions with assertions, named groups, and alternatives in order of preference. -/
namespace Acceptance.Pattern

/-- The characters on the two sides of a place in a text; none at its ends. -/
structure Gap where
  before : Option Char
  after : Option Char
  deriving DecidableEq, Repr

/-- What there is on the two sides of a place as to words; a half looks at one side only. -/
inductive WordLook where
  | boundary | notBoundary | start | stop | startHalf | stopHalf
  deriving DecidableEq, Repr

def WordLook.holds (l : WordLook) (before after : Bool) : Bool :=
  match l with
  | boundary => before != after
  | notBoundary => before == after
  | start => !before && after
  | stop => before && !after
  | startHalf => !before
  | stopHalf => !after

/-- With `crlf` lines end at carriage returns, line feeds, and pairs of the two; without `unicode` words are
of ASCII characters. -/
inductive Look where
  | textStart | textEnd
  | lineStart (crlf : Bool) | lineEnd (crlf : Bool)
  | word (l : WordLook) (unicode : Bool)
  deriving DecidableEq, Repr

def Look.holds (l : Look) (g : Gap) : Bool :=
  match l with
  | textStart => g.before.isNone
  | textEnd => g.after.isNone
  | lineStart crlf =>
    g.before.all (· == '\n') || (crlf && g.before == some '\r' && g.after != some '\n')
  | lineEnd crlf =>
    if crlf then g.after.all (· == '\r') || (g.after == some '\n' && g.before != some '\r')
    else g.after.all (· == '\n')
  | word l unicode =>
    let isWord := fun c => Text.isWord c && (unicode || c.toNat < 128)
    l.holds (g.before.any isWord) (g.after.any isWord)

/-- An expression whose single characters are described by values of type `α`. In `alt` the first
alternative is preferred; `star` and `plus` prefer another round if `greedy`. -/
inductive Expr (α : Type) where
  | empty
  | look (l : Look)
  | one (a : α)
  | group (name : String) (e : Expr α)
  | cat (a b : Expr α)
  | alt (a b : Expr α)
  | star (greedy : Bool) (e : Expr α)
  | plus (greedy : Bool) (e : Expr α)
  deriving DecidableEq, Repr

namespace Expr

variable {α β : Type}

def map (f : α → β) : Expr α → Expr β
  | empty => empty
  | look l => look l
  | one a => one (f a)
  | group name e => group name (e.map f)
  | cat a b => cat (a.map f) (b.map f)
  | alt a b => alt (a.map f) (b.map f)
  | star greedy e => star greedy (e.map f)
  | plus greedy e => plus greedy (e.map f)

/-- Whether every match is the empty text. -/
def isWidthless : Expr α → Bool
  | empty | look _ => true
  | one _ => false
  | group _ e | star _ e | plus _ e => e.isWidthless
  | cat a b | alt a b => a.isWidthless && b.isWidthless

/-- Whether some match may be the empty text, if all assertions hold. -/
def isOptional : Expr α → Bool
  | empty | look _ | star _ _ => true
  | one _ => false
  | group _ e | plus _ e => e.isOptional
  | cat a b => a.isOptional && b.isOptional
  | alt a b => a.isOptional || b.isOptional

def optional (greedy : Bool) (e : Expr α) : Expr α :=
  if greedy then alt e empty else alt empty e

/-- A round that takes nothing ends the repetition but still counts as its last round. -/
def many (greedy : Bool) (e : Expr α) : Expr α :=
  if e.isOptional then optional greedy (plus greedy e) else star greedy e

/-- `n` copies of `e`, then `tail` if there is one. -/
def copies (e : Expr α) (tail : Option (Expr α)) : Nat → Expr α
  | 0 => tail.getD empty
  | 1 => match tail with
    | none => e
    | some t => cat e t
  | n + 2 => cat e (copies e tail (n + 1))

/-- At most `n` rounds of `e`, each within the one before. -/
def upTo (greedy : Bool) (e : Expr α) : Nat → Expr α
  | 0 => empty
  | 1 => optional greedy e
  | n + 2 => optional greedy (cat e (upTo greedy e (n + 1)))

/-- `e` at least `least` and at most `most` times. An expression that takes nothing is done at most
once. -/
def times (greedy : Bool) (e : Expr α) (least : Nat) (most : Option Nat) : Expr α :=
  let least := if e.isWidthless then min least 1 else least
  let most := if e.isWidthless then some ((most.map (min 1)).getD 1) else most
  match most with
  | some m =>
    if m = least then copies e none least else copies e (some (upTo greedy e (m - least))) least
  | none =>
    match least with
    | 0 => many greedy e
    | n + 1 => copies e (some (plus greedy e)) n

end Expr
end Acceptance.Pattern
