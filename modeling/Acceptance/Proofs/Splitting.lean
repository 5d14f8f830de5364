import Acceptance.Proofs.Variation
import Mathlib.Data.List.Chain

/-!
How a description splits into tokens. Its tokens lose nothing and miss no quoted number, and no other list of
tokens does that and takes each number where it begins first.
-/
namespace Acceptance.Description

/-- The text falls into these tokens. No two literals stand side by side, a literal is not empty and has no
quoted number in it, and none that begins in a literal ends with the first double quote of the number behind
it. -/
structure Splits (s : List Char) (ts : List Token) : Prop where
  parts : Fits ts s
  nonempty : .literal [] ∉ ts
  apart : ts.IsChain fun a b => a = .quotedNumber ∨ b = .quotedNumber
  complete : ∀ text, .literal text ∈ ts → ∀ q, IsQuotedNumber q → ¬ q <:+: text
  leftmost : ts.IsChain fun a b => ∀ text, a = .literal text → b = .quotedNumber →
    ∀ u, u <:+ text → ¬ IsQuotedNumber (u ++ ['"'])

/-! ### Where numbers begin -/

/-- No quoted number begins in `text`, when `rest` follows it. -/
def NoneBegins (text rest : List Char) : Prop :=
  ∀ b, b <:+ text → b ≠ [] → afterNumber? (b ++ rest) = none

theorem noneBegins_nil (rest : List Char) : NoneBegins [] rest :=
  fun _ hb hne => absurd (List.suffix_nil.1 hb) hne

theorem noneBegins_cons_iff {c : Char} {text rest : List Char} :
    NoneBegins (c :: text) rest ↔ afterNumber? (c :: (text ++ rest)) = none ∧ NoneBegins text rest := by
  simp only [NoneBegins, List.suffix_cons_iff]
  constructor
  · intro h
    exact ⟨h _ (.inl rfl) (List.cons_ne_nil c text), fun b hb => h b (.inr hb)⟩
  · rintro ⟨hfirst, hmore⟩ b (rfl | hb) hne
    · exact hfirst
    · exact hmore b hb hne

theorem NoneBegins.append_ne {text rest b q : List Char} (h : NoneBegins text rest) (hb : b <:+ text)
    (hne : b ≠ []) (hq : IsQuotedNumber q) (after : List Char) : b ++ rest ≠ q ++ after :=
  afterNumber?_eq_none_iff.1 (h b hb hne) q after hq

/-- The second double quote of a number ends it. -/
theorem IsQuotedNumber.closed {b u : List Char} (h : IsQuotedNumber (b ++ '"' :: u)) (hb : b ≠ []) :
    u = [] := by
  obtain ⟨ns, -, hns, heq⟩ := h
  cases b with
  | nil => exact absurd rfl hb
  | cons c b =>
    have hinside : b ++ '"' :: u = ns ++ ['"'] := (List.cons.inj heq).2
    obtain ⟨v, rfl, hv⟩ | ⟨v, -, hv⟩ := List.append_eq_append_iff.1 hinside
    · cases v with
      | nil => exact (List.cons.inj hv).2
      | cons d v =>
        obtain rfl := (List.cons.inj hv).1
        exact absurd (List.mem_append_right b List.mem_cons_self) (notMem_number (by decide) hns)
    · have hlen := congrArg List.length hv
      simp only [List.length_append, List.length_cons, List.length_nil] at hlen
      exact List.length_eq_zero_iff.1 (by omega)

/-- A number that begins before a double quote ends there at the latest. -/
theorem prefix_or_eq_of_number {b more q after : List Char} (hb : b ≠ []) (hq : IsQuotedNumber q)
    (h : b ++ '"' :: more = q ++ after) : q <+: b ∨ q = b ++ ['"'] := by
  obtain ⟨u, rfl, hu⟩ | ⟨u, rfl, -⟩ := List.append_eq_append_iff.1 h
  · cases u with
    | nil =>
      rw [List.append_nil]
      exact .inl (List.prefix_refl b)
    | cons c u =>
      obtain rfl := (List.cons.inj hu).1
      rw [hq.closed hb]
      exact .inr rfl
  · exact .inl (List.prefix_append q u)

/-! ### Splitting off the first token -/

/-- Tokens that may follow a literal. -/
def Resumes (ts : List Token) : Prop := ts = [] ∨ ∃ more, ts = .quotedNumber :: more

theorem resumes_iff {text : List Char} {ts : List Token} :
    Resumes ts ↔ ∀ t ∈ ts.head?, Token.literal text = .quotedNumber ∨ t = .quotedNumber := by
  cases ts with
  | nil => simp [Resumes]
  | cons t ts => simp [Resumes]

/-- What follows a literal is empty, or begins with the double quote of a number. -/
theorem Resumes.cases {ts : List Token} (h : Resumes ts) {rest : List Char} (hrest : Fits ts rest) :
    ts = [] ∧ rest = [] ∨ ts.head? = some .quotedNumber ∧ ∃ more, rest = '"' :: more := by
  obtain rfl | ⟨ts, rfl⟩ := h
  · exact .inl ⟨rfl, hrest⟩
  · obtain ⟨q, after, hq, rfl, -⟩ := hrest
    obtain ⟨more, rfl⟩ := hq.head
    exact .inr ⟨rfl, more ++ after, rfl⟩

theorem splits_nil_iff {s : List Char} : Splits s [] ↔ s = [] := by
  constructor
  · intro h
    exact h.parts
  · rintro rfl
    exact ⟨rfl, List.not_mem_nil, .nil, fun _ hmem => absurd hmem List.not_mem_nil, .nil⟩

theorem Splits.tail {s rest : List Char} {t : Token} {ts : List Token} (h : Splits s (t :: ts))
    (hrest : Fits ts rest) : Splits rest ts where
  parts := hrest
  nonempty hmem := h.nonempty (List.mem_cons_of_mem t hmem)
  apart := h.apart.of_cons
  complete text hmem := h.complete text (List.mem_cons_of_mem t hmem)
  leftmost := h.leftmost.of_cons

theorem splits_number_iff {s : List Char} {ts : List Token} :
    Splits s (.quotedNumber :: ts) ↔ ∃ q rest, IsQuotedNumber q ∧ s = q ++ rest ∧ Splits rest ts := by
  constructor
  · intro h
    obtain ⟨q, rest, hq, hs, hrest⟩ := h.parts
    exact ⟨q, rest, hq, hs, h.tail hrest⟩
  · rintro ⟨q, rest, hq, rfl, h⟩
    refine ⟨⟨q, rest, hq, rfl, h.parts⟩, ?_, ?_, ?_, ?_⟩
    · simpa using h.nonempty
    · exact List.isChain_cons.2 ⟨fun _ _ => .inl rfl, h.apart⟩
    · simpa using h.complete
    · exact List.isChain_cons.2 ⟨fun _ _ _ htext => absurd htext Token.noConfusion, h.leftmost⟩

/-- A literal reaches up to a number, or to the end, and no number begins in it. -/
theorem splits_literal_iff {s text : List Char} {ts : List Token} :
    Splits s (.literal text :: ts) ↔ text ≠ [] ∧ Resumes ts ∧
      ∃ rest, s = text ++ rest ∧ NoneBegins text rest ∧ Splits rest ts := by
  constructor
  · intro h
    obtain ⟨rest, hs, hrest⟩ := h.parts
    have hresumes : Resumes ts := resumes_iff.2 (List.isChain_cons.1 h.apart).1
    refine ⟨?_, hresumes, rest, hs, ?_, h.tail hrest⟩
    · rintro rfl
      exact h.nonempty List.mem_cons_self
    · intro b hb hne
      rw [afterNumber?_eq_none_iff]
      intro q after hq heq
      obtain ⟨-, rfl⟩ | ⟨hnumber, more, rfl⟩ := hresumes.cases hrest
      · rw [List.append_nil] at heq
        have hbegin : q <+: b := ⟨after, heq.symm⟩
        exact h.complete text List.mem_cons_self q hq (hbegin.isInfix.trans hb.isInfix)
      · obtain hbegin | rfl := prefix_or_eq_of_number hne hq heq
        · exact h.complete text List.mem_cons_self q hq (hbegin.isInfix.trans hb.isInfix)
        · exact (List.isChain_cons.1 h.leftmost).1 _ hnumber text rfl rfl b hb hq
  · rintro ⟨hne, hresumes, rest, rfl, hnone, h⟩
    refine ⟨⟨rest, rfl, h.parts⟩, ?_, ?_, ?_, ?_⟩
    · simpa [eq_comm] using And.intro hne h.nonempty
    · exact List.isChain_cons.2 ⟨resumes_iff.1 hresumes, h.apart⟩
    · intro text' hmem q hq
      rcases List.mem_cons.1 hmem with htext | hmem
      · obtain rfl := Token.literal.inj htext
        rintro ⟨a, c, rfl⟩
        have hsuffix : q ++ c <:+ a ++ q ++ c := ⟨a, (List.append_assoc a q c).symm⟩
        obtain ⟨more, rfl⟩ := hq.head
        exact hnone.append_ne hsuffix (List.cons_ne_nil _ _) hq (c ++ rest) (List.append_assoc _ _ _)
      · exact h.complete text' hmem q hq
    · refine List.isChain_cons.2 ⟨?_, h.leftmost⟩
      intro t ht text' htext hnumber u hu hq
      obtain rfl := Token.literal.inj htext
      obtain ⟨rfl, -⟩ | ⟨-, more, rfl⟩ := hresumes.cases h.parts
      · cases ht
      · have hne : u ≠ [] := by
          rintro rfl
          obtain ⟨ns, -, -, hquote⟩ := hq
          simp at hquote
        exact hnone.append_ne hu hne hq more (by simp)

/-! ### All tokens -/

theorem splits_consChar {c : Char} {s : List Char} {ts : List Token}
    (hc : afterNumber? (c :: s) = none) (h : Splits s ts) : Splits (c :: s) (consChar c ts) := by
  cases ts with
  | nil =>
    refine splits_literal_iff.2 ⟨List.cons_ne_nil c [], .inl rfl, s, rfl, ?_, h⟩
    exact noneBegins_cons_iff.2 ⟨hc, noneBegins_nil s⟩
  | cons t ts =>
    cases t with
    | quotedNumber =>
      refine splits_literal_iff.2 ⟨List.cons_ne_nil c [], .inr ⟨ts, rfl⟩, s, rfl, ?_, h⟩
      exact noneBegins_cons_iff.2 ⟨hc, noneBegins_nil s⟩
    | literal text =>
      obtain ⟨-, hresumes, rest, rfl, hnone, hrest⟩ := splits_literal_iff.1 h
      refine splits_literal_iff.2 ⟨List.cons_ne_nil c text, hresumes, rest, rfl, ?_, hrest⟩
      exact noneBegins_cons_iff.2 ⟨hc, hnone⟩

theorem splits_tokens (s : List Char) : Splits s (tokens s) := by
  fun_induction tokens s with
  | case1 s after hs ih =>
    obtain ⟨q, hq, hsplit⟩ := afterNumber?_eq_some_iff.1 hs
    exact splits_number_iff.2 ⟨q, after, hq, hsplit, ih⟩
  | case2 => exact splits_nil_iff.2 rfl
  | case3 c rest hs ih => exact splits_consChar hs ih

/-- A text in which no number begins is one literal. -/
theorem tokens_append {text rest : List Char} (hne : text ≠ []) (hnone : NoneBegins text rest)
    (hrest : Resumes (tokens rest)) : tokens (text ++ rest) = .literal text :: tokens rest := by
  induction text with
  | nil => exact absurd rfl hne
  | cons c text ih =>
    obtain ⟨hc, hnone⟩ := noneBegins_cons_iff.1 hnone
    rw [List.cons_append, tokens_of_char hc]
    cases text with
    | nil =>
      obtain hnil | ⟨ts, hnumber⟩ := hrest
      · rw [List.nil_append, hnil]
        rfl
      · rw [List.nil_append, hnumber]
        rfl
    | cons d text =>
      rw [ih (List.cons_ne_nil d text) hnone]
      rfl

theorem Splits.eq_tokens {s : List Char} {ts : List Token} (h : Splits s ts) : ts = tokens s := by
  induction ts generalizing s with
  | nil => rw [splits_nil_iff.1 h, tokens_nil]
  | cons t ts ih =>
    cases t with
    | quotedNumber =>
      obtain ⟨q, rest, hq, hs, hrest⟩ := splits_number_iff.1 h
      rw [tokens_of_number (afterNumber?_eq_some_iff.2 ⟨q, hq, hs⟩), ← ih hrest]
    | literal text =>
      obtain ⟨hne, hresumes, rest, rfl, hnone, hrest⟩ := splits_literal_iff.1 h
      obtain rfl := ih hrest
      rw [tokens_append hne hnone hresumes]

/-- The tokens of a text are the one list of tokens that it splits into. -/
theorem splits_iff_eq_tokens (s : List Char) (ts : List Token) : Splits s ts ↔ ts = tokens s := by
  constructor
  · intro h
    exact h.eq_tokens
  · rintro rfl
    exact splits_tokens s

/-- Of two numbers that share a double quote the first one counts. -/
example : tokens "\"1\"2\"x".toList = [.quotedNumber, .literal "2\"x".toList] := by
  decide +kernel

end Acceptance.Description
