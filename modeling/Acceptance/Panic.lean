import Acceptance.Text.Numeral

/-! What a step action that panics leaves behind. -/
namespace Acceptance

inductive Payload where
  | text (s : String)
  | int (t : Text.IntType) (n : Int)
  | other
  deriving DecidableEq, Repr

namespace Payload

/-- Texts and whole numbers of 32 or 64 bits are shown, and nothing else is. -/
def message : Payload → String
  | text s => s
  | int t n => if t.bits = 32 ∨ t.bits = 64 then toString n else "Any \x7b .. \x7d"
  | other => "Any \x7b .. \x7d"

end Payload
end Acceptance
