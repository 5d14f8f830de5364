/-! Lines of a text, or of any sequence in which one element ends a line. -/
namespace Acceptance.Text

variable {α : Type} [DecidableEq α]

/-- The pieces that end with `newline`, without it, and what follows the last of them. -/
def cut (newline : α) : List α → List (List α) × List α
  | [] => ([], [])
  | c :: rest =>
    let (pieces, left) := cut newline rest
    if c = newline then ([] :: pieces, left)
    else
      match pieces with
      | [] => ([], c :: left)
      | piece :: more => ((c :: piece) :: more, left)

/-- The piece without one `ret` at its end. -/
def dropRet (ret : α) (piece : List α) : List α :=
  if piece.getLast? = some ret then piece.dropLast else piece

/-- A line ends with `newline`, before which one `ret` is dropped. What follows the last `newline` is a
line too, unless it is empty, and is left as it is. -/
def linesWith (newline ret : α) (s : List α) : List (List α) :=
  let (pieces, left) := cut newline s
  pieces.map (dropRet ret) ++ if left.isEmpty then [] else [left]

def lines (s : List Char) : List (List Char) := linesWith '\n' '\r' s

theorem cut_append_newline (newline : α) (piece rest : List α) (h : newline ∉ piece) :
    cut newline (piece ++ newline :: rest) =
      (piece :: (cut newline rest).1, (cut newline rest).2) := by
  induction piece with
  | nil => simp [cut]
  | cons c piece ih =>
    simp only [List.mem_cons, not_or] at h
    simp [cut, ih h.2, Ne.symm h.1]

theorem cut_of_notMem (newline : α) (s : List α) (h : newline ∉ s) : cut newline s = ([], s) := by
  induction s with
  | nil => rfl
  | cons c s ih =>
    simp only [List.mem_cons, not_or] at h
    simp [cut, ih h.2, Ne.symm h.1]

/-- The first `newline` splits a sequence in one way. -/
theorem append_newline_unique {newline : α} {piece piece' rest rest' : List α}
    (hpiece : newline ∉ piece) (hpiece' : newline ∉ piece')
    (h : piece ++ newline :: rest = piece' ++ newline :: rest') : piece = piece' ∧ rest = rest' := by
  have hcut := congrArg (cut newline) h
  rw [cut_append_newline _ _ _ hpiece, cut_append_newline _ _ _ hpiece'] at hcut
  obtain ⟨rfl, -⟩ := List.cons.inj (Prod.mk.inj hcut).1
  exact ⟨rfl, (List.cons.inj (List.append_cancel_left h)).2⟩

end Acceptance.Text
