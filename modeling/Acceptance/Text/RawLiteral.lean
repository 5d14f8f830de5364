/-!
Raw string literals: the text stands unchanged between `r#"` and `"#`, with as many `#` marks as the
text needs.
-/
namespace Acceptance.Text

/-- The length of the longest run of `#` that directly follows a `"`; `run` is the length of the run
that is being read, if it follows a `"`. -/
def longestRun (run : Option Nat) : List Char → Nat
  | [] => run.getD 0
  | c :: rest =>
    if c = '"' then max (run.getD 0) (longestRun (some 0) rest)
    else if c = '#' then longestRun (run.map (· + 1)) rest
    else max (run.getD 0) (longestRun none rest)

def rawWidth (s : List Char) : Nat := longestRun none s + 1

def rawLiteral (s : List Char) : List Char :=
  let marks := List.replicate (rawWidth s) '#'
  'r' :: (marks ++ '"' :: (s ++ '"' :: marks))

end Acceptance.Text
