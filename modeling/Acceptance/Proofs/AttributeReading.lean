import Acceptance.Proofs.JunitReading

/-!
The values that a reader of XML reports for the attributes of a JUnit report. White space that stands in a
value as it is becomes spaces, while what a reference means stays as it is: the newlines of a text arrive,
its tabs and its carriage returns do not.
-/
namespace Acceptance

namespace Xml

/-! ### Normalization -/

/-- The text with a newline for each of its line ends. -/
def unifyLineEnds : List Char → List Char
  | '\r' :: '\n' :: s => '\n' :: unifyLineEnds s
  | '\r' :: s => '\n' :: unifyLineEnds s
  | c :: s => c :: unifyLineEnds s
  | [] => []

/-- The value of the text between two quotes, its white space made spaces and its references replaced by
the characters they mean. -/
inductive Normalized (quote : Char) : List Char → List Char → Prop
  | done : Normalized quote [] []
  | blank {c : Char} {s value : List Char} (hblank : isBlank c = true)
      (more : Normalized quote s value) : Normalized quote (c :: s) (' ' :: value)
  | literal {c : Char} {s value : List Char} (hchar : isChar c = true) (hblank : isBlank c = false)
      (hquote : c ≠ quote) (hless : c ≠ '<') (hand : c ≠ '&') (more : Normalized quote s value) :
      Normalized quote (c :: s) (c :: value)
  | reference {c : Char} {s t value : List Char} (first : Reference s c t)
      (more : Normalized quote t value) : Normalized quote s (c :: value)

/-- The value that is reported for the text between two quotes. -/
def Reports (quote : Char) (text value : List Char) : Prop :=
  Normalized quote (unifyLineEnds text) value

theorem Reference.not_blank {c d : Char} {s rest : List Char} (h : Reference (c :: s) d rest) :
    isBlank c = false := by
  rw [h.head]
  rfl

theorem Normalized.unique {quote : Char} {s value value' : List Char} (h : Normalized quote s value)
    (h' : Normalized quote s value') : value = value' := by
  induction h generalizing value' with
  | done =>
    cases h' with
    | done => rfl
    | reference first => exact (not_reference_nil first).elim
  | blank hblank _ ih =>
    cases h' with
    | blank _ more' => exact congrArg _ (ih more')
    | literal _ hblank' => exact absurd (hblank.symm.trans hblank') (by decide)
    | reference first => exact absurd (hblank.symm.trans first.not_blank) (by decide)
  | literal _ hblank _ _ hand _ ih =>
    cases h' with
    | blank hblank' => exact absurd (hblank'.symm.trans hblank) (by decide)
    | literal _ _ _ _ _ more' => exact congrArg _ (ih more')
    | reference first => exact absurd first.head hand
  | reference first _ ih =>
    cases h' with
    | done => exact (not_reference_nil first).elim
    | blank hblank' => exact absurd (hblank'.symm.trans first.not_blank) (by decide)
    | literal _ _ _ _ hand' => exact absurd first.head hand'
    | reference first' more' =>
      obtain ⟨rfl, rfl⟩ := first.unique first'
      exact congrArg _ (ih more')

/-- In a text without newlines each line end is one carriage return. -/
theorem unifyLineEnds_of_notMem {s : List Char} (hs : '\n' ∉ s) :
    unifyLineEnds s = s.map fun c => if c = '\r' then '\n' else c := by
  fun_induction unifyLineEnds s with
  | case1 s => exact absurd (by simp) hs
  | case2 s _ ih =>
    rw [ih (List.not_mem_of_not_mem_cons hs)]
    rfl
  | case3 c s _ hreturn ih =>
    rw [ih (List.not_mem_of_not_mem_cons hs), List.map_cons, if_neg hreturn]
  | case4 => rfl

end Xml

namespace Report
open Xml

/-! ### Texts in attributes -/

/-- The characters of a text that a reader of the report is left with. -/
def received (s : String) : List Char :=
  s.toList.map fun c => if c = '\t' ∨ c = '\r' then ' ' else if isChar c then c else '\uFFFD'

theorem normalized_attrChar (c : Char) {s value : List Char} (more : Normalized '"' s value) :
    Normalized '"' (((attrChar c).map fun d => if d = '\r' then '\n' else d) ++ s)
      ((if c = '\t' ∨ c = '\r' then ' ' else if isChar c then c else '\uFFFD') :: value) := by
  by_cases hspace : c = '\t' ∨ c = '\r'
  · rw [if_pos hspace]
    rcases hspace with rfl | rfl <;> exact .blank rfl more
  · rw [if_neg hspace]
    obtain ⟨htab, hreturn⟩ := not_or.1 hspace
    obtain ⟨hplain, href⟩ | ⟨hsame, hchar, hquote, hless, hand, hnewline⟩ := attrChar_cases c
    · have hunchanged : ((attrChar c).map fun d => if d = '\r' then '\n' else d) = attrChar c := by
        refine (List.map_congr_left fun d hd => if_neg ?_).trans (List.map_id' _)
        rintro rfl
        exact hplain hd
      rw [hunchanged]
      exact .reference (href s) more
    · rw [hsame, if_pos hchar, List.map_singleton, if_neg hreturn]
      -- a space is the one white space character that is left
      by_cases hblank : isBlank c = true
      · obtain rfl : c = ' ' := by simpa [isBlank, htab, hreturn, hnewline] using hblank
        exact .blank rfl more
      · exact .literal hchar (Bool.not_eq_true _ ▸ hblank) hquote hless hand more

theorem reports_received (s : String) : Reports '"' (attrText s) (received s) := by
  rw [Reports, unifyLineEnds_of_notMem (notMem_attrText (.inl rfl) s), attrText, List.map_flatMap,
    received]
  induction s.toList with
  | nil => exact .done
  | cons c cs ih => exact normalized_attrChar c ih

theorem received_eq_shown_iff (s : String) :
    received s = shown s ↔ '\t' ∉ s.toList ∧ '\r' ∉ s.toList := by
  rw [received, shown, List.map_inj_left]
  constructor
  · intro h
    exact ⟨fun htab => absurd (h _ htab) (by decide), fun hreturn => absurd (h _ hreturn) (by decide)⟩
  · rintro ⟨htab, hreturn⟩ c hc
    refine if_neg ?_
    rintro (rfl | rfl)
    · exact htab hc
    · exact hreturn hc

/-- One value is reported for the text of an attribute. It is the text that was to be shown if and only if
this has neither a tab nor a carriage return, which would each be reported as a space. -/
theorem reports_attrText (s : String) :
    (∀ value, Reports '"' (attrText s) value ↔ value = received s) ∧
      (Reports '"' (attrText s) (shown s) ↔ '\t' ∉ s.toList ∧ '\r' ∉ s.toList) := by
  have hvalue : ∀ value, Reports '"' (attrText s) value ↔ value = received s := by
    intro value
    constructor
    · intro h
      exact h.unique (reports_received s)
    · rintro rfl
      exact reports_received s
  refine ⟨hvalue, ?_⟩
  rw [hvalue, eq_comm]
  exact received_eq_shown_iff s

/-- A tab arrives as a space. -/
theorem reports_tab : Reports '"' (attrText "a\tb") "a b".toList ∧
    ¬ Reports '"' (attrText "a\tb") (shown "a\tb") := by
  have hreported : Reports '"' (attrText "a\tb") "a b".toList := reports_received "a\tb"
  refine ⟨hreported, fun h => ?_⟩
  have hsame : shown "a\tb" = "a b".toList := h.unique hreported
  exact absurd hsame (by decide)

end Report

end Acceptance
