import Acceptance.Feature.Basic
import Acceptance.Text.Lines

/-! The text of a stub tells the pattern that it is a stub for. -/
namespace Acceptance

namespace Text

theorem replicate_append_cancel {a b : Char} (hab : a ≠ b) {m n : Nat} {s t : List Char}
    (h : List.replicate m a ++ b :: s = List.replicate n a ++ b :: t) : m = n ∧ s = t := by
  induction m generalizing n with
  | zero =>
    cases n with
    | zero => exact ⟨rfl, (List.cons.inj h).2⟩
    | succ n => exact absurd (List.cons.inj h).1.symm hab
  | succ m ih =>
    cases n with
    | zero => exact absurd (List.cons.inj h).1 hab
    | succ n =>
      obtain ⟨hmn, hst⟩ := ih (List.cons.inj h).2
      exact ⟨congrArg (· + 1) hmn, hst⟩

theorem mem_rawLiteral_iff {c : Char} (hc : c ∉ ['r', '#', '"']) {s : List Char} :
    c ∈ rawLiteral s ↔ c ∈ s := by
  simp only [List.mem_cons, List.not_mem_nil, or_false, not_or] at hc
  simp [rawLiteral, hc]

/-- Different texts have different raw literals. -/
theorem rawLiteral_injective {s t : List Char} (h : rawLiteral s = rawLiteral t) : s = t := by
  obtain ⟨hwidth, hrest⟩ := replicate_append_cancel (by decide) (List.cons.inj h).2
  rw [hwidth] at hrest
  exact List.append_cancel_right hrest

end Text

/-- What follows the pattern in all stubs. -/
def stubEnd : String := ", |_args| \x7b\n    Err(StepError::pending(\"Not implemented\"))\n\x7d);"

/-- The text of a stub with the keyword and the pattern. -/
def stubText (keyword : Keyword) (pattern : String) : String :=
  "registry." ++ keyword.method ++ "(" ++ String.ofList (Text.rawLiteral pattern.toList) ++ stubEnd

theorem Step.snippet_eq (step : Step) :
    step.snippet = stubText step.keyword (Description.pattern step.description) := rfl

theorem Keyword.notMem_method (k : Keyword) : '(' ∉ k.method.toList := by
  cases k <;> decide

theorem toList_stubText (k : Keyword) (p : String) : (stubText k p).toList =
    "registry.".toList ++ (k.method.toList ++ '(' :: (Text.rawLiteral p.toList ++ stubEnd.toList)) := by
  have hraw : (String.ofList (Text.rawLiteral p.toList)).toList = Text.rawLiteral p.toList :=
    String.toList_ofList
  unfold stubText
  rw [String.toList_append, String.toList_append, String.toList_append, String.toList_append, hraw,
    List.append_assoc, List.append_assoc, List.append_assoc]
  rfl

theorem Keyword.method_injective {k l : Keyword} (h : k.method.toList = l.method.toList) : k = l := by
  cases k <;> cases l <;> first | rfl | exact absurd h (by decide)

/-- The text of a stub tells its keyword and its pattern. -/
theorem stubText_inj {k l : Keyword} {p q : String} :
    stubText k p = stubText l q ↔ k = l ∧ p = q := by
  constructor
  · intro h
    have hlist := congrArg String.toList h
    rw [toList_stubText, toList_stubText] at hlist
    obtain ⟨hmethod, hraw⟩ := Text.append_newline_unique k.notMem_method l.notMem_method
      (List.append_cancel_left hlist)
    exact ⟨Keyword.method_injective hmethod,
      String.toList_inj.1 (Text.rawLiteral_injective (List.append_cancel_right hraw))⟩
  · rintro ⟨rfl, rfl⟩
    rfl

end Acceptance
