import Acceptance.Pattern.Expr

/-!
Whether an expression matches somewhere in a text. The search reads the text once and keeps, at each
place, the expression with a mark on every character set that the characters read so far can have
reached.
-/
namespace Acceptance.Pattern

/-- A character set in a search; `hit` says that the character before the present place was taken
here. -/
structure Leaf where
  set : CharSet
  hit : Bool := false
  deriving DecidableEq, Repr

namespace Expr

/-- Whether `e` matches the empty text at a place. -/
def skips (g : Gap) : Expr Leaf → Bool
  | empty => true
  | look l => l.holds g
  | one _ => false
  | group _ e => e.skips g
  | cat a b => a.skips g && b.skips g
  | alt a b => a.skips g || b.skips g
  | star _ _ => true
  | plus _ e => e.skips g

/-- Whether some mark of `e` is at its end, up to parts that are skipped. -/
def ends (g : Gap) : Expr Leaf → Bool
  | empty => false
  | look _ => false
  | one a => a.hit
  | group _ e => e.ends g
  | cat a b => (a.ends g && b.skips g) || b.ends g
  | alt a b => a.ends g || b.ends g
  | star _ e => e.ends g
  | plus _ e => e.ends g

/-- The marks after reading `c`, when `e` may also be entered at its start. -/
def advance (g : Gap) (enter : Bool) (c : Char) : Expr Leaf → Expr Leaf
  | empty => empty
  | look l => look l
  | one a => one { a with hit := enter && a.set.has c }
  | group name e => group name (e.advance g enter c)
  | cat a b => cat (a.advance g enter c) (b.advance g ((enter && a.skips g) || a.ends g) c)
  | alt a b => alt (a.advance g enter c) (b.advance g enter c)
  | star greedy e => star greedy (e.advance g (enter || e.ends g) c)
  | plus greedy e => plus greedy (e.advance g (enter || e.ends g) c)

/-- Whether a match of `e`, begun at some place so far, ends here or further on. -/
def search (e : Expr Leaf) (before : Option Char) : List Char → Bool
  | [] => e.skips ⟨before, none⟩ || e.ends ⟨before, none⟩
  | c :: rest =>
    e.skips ⟨before, some c⟩ || e.ends ⟨before, some c⟩ ||
      (e.advance ⟨before, some c⟩ true c).search (some c) rest

/-- Whether `e` matches somewhere in the text. -/
def occursIn (e : Expr CharSet) (text : List Char) : Bool :=
  (e.map fun s => ({ set := s } : Leaf)).search none text

end Expr
end Acceptance.Pattern
