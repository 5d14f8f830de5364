import Acceptance.Text.Visible

/-! Text in double quotes, in which every character that could not be seen is named by its code. -/
namespace Acceptance.Text

def hexDigits (n : Nat) : List Char := Nat.toDigits 16 n

def quoteChar (c : Char) : List Char :=
  match c with
  | '"' => ['\\', '"']
  | '\\' => ['\\', '\\']
  | '\t' => ['\\', 't']
  | '\r' => ['\\', 'r']
  | '\n' => ['\\', 'n']
  | '\x00' => ['\\', '0']
  | c => if isVisible c then [c] else ['\\', 'u', '\x7b'] ++ hexDigits c.toNat ++ ['\x7d']

def quoted (s : List Char) : List Char := '"' :: (s.flatMap quoteChar ++ ['"'])

end Acceptance.Text
