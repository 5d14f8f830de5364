import Acceptance.Pattern.CharSet
import Acceptance.Pattern.Expr

/-! Patterns as they are written, with counted repetitions not yet carried out. -/
namespace Acceptance.Pattern

/-- What a group is for: it only brackets, or it is numbered in the order of opening, and may have a
name. -/
inductive Label where
  | plain
  | numbered (n : Nat)
  | named (n : Nat) (name : String)
  deriving DecidableEq, Repr

/-- In `alt` the first alternative is preferred. -/
inductive Tree where
  | empty
  | look (l : Look)
  | one (s : CharSet)
  | group (label : Label) (t : Tree)
  | cat (a b : Tree)
  | alt (a b : Tree)
  | rep (greedy : Bool) (least : Nat) (most : Option Nat) (t : Tree)
  deriving DecidableEq, Repr

namespace Tree

def sequence : List Tree → Tree
  | [] => empty
  | [t] => t
  | t :: ts => cat t (sequence ts)

def choice : List Tree → Tree
  | [] => empty
  | [t] => t
  | t :: ts => alt t (choice ts)

/-- The expression that is described; what is repeated no times at all is left out unseen. -/
def expr : Tree → Expr CharSet
  | empty => .empty
  | look l => .look l
  | one s => .one s
  | group label t =>
    match label with
    | .named _ name => .group name t.expr
    | _ => t.expr
  | cat a b => .cat a.expr b.expr
  | alt a b => .alt a.expr b.expr
  | rep greedy least most t => if most = some 0 then .empty else t.expr.times greedy least most

end Tree
end Acceptance.Pattern
