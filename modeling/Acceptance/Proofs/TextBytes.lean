import Acceptance.Proofs.Outline

/-!
Texts as bytes. The byte of a line feed or of a carriage return stands for nothing but that character, so
cutting the bytes of a text into lines gives the bytes of its lines.
-/
namespace Acceptance.Text

/-- The bytes of a text in UTF-8. -/
def encode (s : List Char) : List UInt8 := s.flatMap String.utf8EncodeChar

/-- The bytes are those of some text. -/
def IsEncoded (bs : List UInt8) : Prop := ByteArray.IsValidUTF8 ⟨bs.toArray⟩

instance (bs : List UInt8) : Decidable (IsEncoded bs) :=
  inferInstanceAs (Decidable (ByteArray.IsValidUTF8 ⟨bs.toArray⟩))

theorem utf8Encode_eq (s : List Char) : s.utf8Encode = ⟨(encode s).toArray⟩ :=
  ByteArray.ext List.data_toByteArray

theorem isEncoded_iff {bs : List UInt8} : IsEncoded bs ↔ ∃ s, encode s = bs := by
  constructor
  · rintro ⟨s, hs⟩
    rw [utf8Encode_eq, ByteArray.mk.injEq] at hs
    exact ⟨s, (List.toArray_inj hs).symm⟩
  · rintro ⟨s, rfl⟩
    exact ⟨s, (utf8Encode_eq s).symm⟩

theorem isEncoded_encode (s : List Char) : IsEncoded (encode s) := isEncoded_iff.2 ⟨s, rfl⟩

/-- The bytes of a string, and what is read from bytes. -/
theorem fromUTF8?_eq_some_iff {bs : List UInt8} {s : String} :
    String.fromUTF8? ⟨bs.toArray⟩ = some s ↔ encode s.toList = bs := by
  have hbytes : s.toByteArray = ⟨(encode s.toList).toArray⟩ := by
    rw [← String.utf8Encode_toList, utf8Encode_eq]
  have hread : String.fromUTF8? ⟨bs.toArray⟩ = some s ↔ s.toByteArray = ⟨bs.toArray⟩ := by
    unfold String.fromUTF8?
    split
    next h =>
      rw [Option.some.injEq, ← String.toByteArray_inj]
      exact eq_comm
    next h =>
      simp only [reduceCtorEq, false_iff]
      intro heq
      exact h (heq ▸ s.isValidUTF8)
  rw [hread, hbytes, ByteArray.mk.injEq]
  exact ⟨fun h => List.toArray_inj h, congrArg List.toArray⟩

theorem fromUTF8?_eq_none_iff {bs : List UInt8} :
    String.fromUTF8? ⟨bs.toArray⟩ = none ↔ ¬ IsEncoded bs := by
  unfold String.fromUTF8?
  split
  next h => simpa [IsEncoded] using h
  next h => simpa [IsEncoded] using h

@[simp] theorem encode_append (s t : List Char) : encode (s ++ t) = encode s ++ encode t :=
  List.flatMap_append

theorem encode_cons (c : Char) (s : List Char) :
    encode (c :: s) = String.utf8EncodeChar c ++ encode s := List.flatMap_cons

theorem IsEncoded.append {bs cs : List UInt8} (hb : IsEncoded bs) (hc : IsEncoded cs) :
    IsEncoded (bs ++ cs) := by
  obtain ⟨s, rfl⟩ := isEncoded_iff.1 hb
  obtain ⟨t, rfl⟩ := isEncoded_iff.1 hc
  exact isEncoded_iff.2 ⟨s ++ t, encode_append s t⟩

/-- A byte below 128 stands for a character of its own. -/
theorem eq_of_mem_utf8EncodeChar {b : UInt8} {c : Char} (hb : b.toNat < 128)
    (h : b ∈ String.utf8EncodeChar c) : c.toNat = b.toNat ∧ String.utf8EncodeChar c = [b] := by
  -- Every byte of a longer encoding is at least 128.
  revert h
  fun_cases String.utf8EncodeChar c with
  | case1 v hv =>
    intro h
    obtain rfl := List.mem_singleton.1 h
    have hv' : c.toNat < 256 := Nat.lt_of_le_of_lt hv (by decide)
    exact ⟨by simp [v, Nat.mod_eq_of_lt hv'], rfl⟩
  | case2 v _ hv | case3 v _ _ hv | case4 v _ _ hv =>
    intro h
    simp only [List.mem_cons, List.not_mem_nil, or_false, ← UInt8.toNat_inj] at h
    simp at h
    omega

theorem notMem_utf8EncodeChar {b : UInt8} {a c : Char} (hb : b.toNat < 128) (ha : a.toNat = b.toNat)
    (hc : c ≠ a) : b ∉ String.utf8EncodeChar c := by
  intro h
  exact hc (Char.toNat_inj.1 ((eq_of_mem_utf8EncodeChar hb h).1.trans ha.symm))

section Cut

variable {α : Type} [DecidableEq α] {newline : α}

theorem cut_append {piece : List α} (h : newline ∉ piece) (rest : List α) :
    cut newline (piece ++ rest) =
      match (cut newline rest).1 with
      | [] => ([], piece ++ (cut newline rest).2)
      | first :: more => ((piece ++ first) :: more, (cut newline rest).2) := by
  induction piece with
  | nil =>
    rw [List.nil_append]
    obtain ⟨pieces, left⟩ := cut newline rest
    cases pieces <;> rfl
  | cons c piece ih =>
    simp only [List.mem_cons, not_or] at h
    rw [List.cons_append, cut, ih h.2]
    cases (cut newline rest).1 <;> simp [Ne.symm h.1]

theorem join_cut (newline : α) (s : List α) :
    (cut newline s).1.flatMap (· ++ [newline]) ++ (cut newline s).2 = s := by
  induction s with
  | nil => rfl
  | cons c s ih =>
    simp only [cut]
    split
    next hc => simp [ih, hc]
    next =>
      split
      next hpieces => simpa [hpieces] using ih
      next hpieces => simpa [hpieces] using ih

/-- The number of complete pieces is that of the elements that end one. -/
theorem length_cut (newline : α) (s : List α) : (cut newline s).1.length = s.count newline := by
  induction s with
  | nil => rfl
  | cons c s ih =>
    simp only [cut]
    split
    next hc => simp [hc, ih]
    next hc =>
      rw [List.count_cons_of_ne hc, ← ih]
      split
      next hpieces => simp [hpieces]
      next hpieces => simp [hpieces]

theorem notMem_cut (newline : α) (s : List α) :
    (∀ piece ∈ (cut newline s).1, newline ∉ piece) ∧ newline ∉ (cut newline s).2 := by
  induction s with
  | nil => simp [cut]
  | cons c s ih =>
    obtain ⟨hpieces, hleft⟩ := ih
    simp only [cut]
    split
    next hc => exact ⟨List.forall_mem_cons.2 ⟨List.not_mem_nil, hpieces⟩, hleft⟩
    next hc =>
      split
      next hnil => exact ⟨by simp, by simp [hleft, Ne.symm hc]⟩
      next piece more hcons =>
        rw [hcons] at hpieces
        obtain ⟨hpiece, hmore⟩ := List.forall_mem_cons.1 hpieces
        exact ⟨List.forall_mem_cons.2 ⟨by simp [hpiece, Ne.symm hc], hmore⟩, hleft⟩

theorem notMem_cut_of_notMem (newline : α) {c : α} {s : List α} (h : c ∉ s) :
    (∀ piece ∈ (cut newline s).1, c ∉ piece) ∧ c ∉ (cut newline s).2 := by
  rw [← join_cut newline s] at h
  simp only [List.mem_append, List.mem_flatMap, not_or, not_exists, not_and] at h
  exact ⟨fun piece hpiece => (h.1 piece hpiece).1, h.2⟩

/-- What stands in no piece stands in no line. -/
theorem notMem_linesWith {c : α} {s : List α}
    (h : (∀ piece ∈ (cut newline s).1, c ∉ piece) ∧ c ∉ (cut newline s).2) (ret : α) :
    ∀ line ∈ linesWith newline ret s, c ∉ line := by
  obtain ⟨hpieces, hleft⟩ := h
  intro line hline
  rw [linesWith, List.mem_append, List.mem_map] at hline
  rcases hline with ⟨piece, hpiece, rfl⟩ | hline
  · intro hmem
    rw [dropRet] at hmem
    split at hmem
    next => exact hpieces piece hpiece ((List.dropLast_subset piece) hmem)
    next => exact hpieces piece hpiece hmem
  · split at hline
    next => cases hline
    next =>
      rw [List.mem_singleton.1 hline]
      exact hleft

end Cut

theorem cut_encode (s : List Char) :
    cut 10 (encode s) = ((cut '\n' s).1.map encode, encode (cut '\n' s).2) := by
  induction s with
  | nil => rfl
  | cons c s ih =>
    rw [encode_cons]
    by_cases hc : c = '\n'
    · have hbyte : String.utf8EncodeChar '\n' = [10] := rfl
      have hnil : encode [] = [] := rfl
      simp [hc, hbyte, cut, ih, hnil]
    · rw [cut_append (notMem_utf8EncodeChar (by decide) (by decide) hc), ih]
      cases hpieces : (cut '\n' s).1 with
      | nil => simp [cut, hc, hpieces, encode_cons]
      | cons first more => simp [cut, hc, hpieces, encode_cons]

theorem dropRet_encode (s : List Char) : dropRet 13 (encode s) = encode (dropRet '\r' s) := by
  rcases List.eq_nil_or_concat s with rfl | ⟨t, c, rfl⟩
  · rfl
  · rw [List.concat_eq_append, encode_append]
    have hlast : encode [c] = String.utf8EncodeChar c := List.append_nil _
    by_cases hc : c = '\r'
    · have hbyte : encode ['\r'] = [13] := rfl
      simp [dropRet, hc, hbyte]
    · have hnot : (encode t ++ String.utf8EncodeChar c).getLast? ≠ some 13 := by
        rw [List.getLast?_append_of_ne_nil _ String.utf8EncodeChar_ne_nil]
        intro h
        exact notMem_utf8EncodeChar (by decide) (by decide) hc (List.mem_of_getLast? h)
      rw [hlast, dropRet, if_neg hnot]
      simp [dropRet, hlast, hc]

/-- A carriage return more or less makes no text and breaks none. -/
theorem isEncoded_dropRet {bs : List UInt8} : IsEncoded (dropRet 13 bs) ↔ IsEncoded bs := by
  constructor
  · intro h
    unfold dropRet at h
    split at h
    next hlast =>
      have hbs : bs.dropLast ++ [13] = bs := List.dropLast_append_getLast? 13 hlast
      rw [← hbs]
      exact h.append (isEncoded_encode ['\r'])
    next => exact h
  · intro h
    obtain ⟨s, rfl⟩ := isEncoded_iff.1 h
    rw [dropRet_encode]
    exact isEncoded_encode _

/-- Bytes are a text if each line of them is one. -/
theorem isEncoded_iff_splitOn {bs : List UInt8} :
    IsEncoded bs ↔ ∀ line ∈ bs.splitOn 10, IsEncoded line := by
  rw [Feature.Outline.cut_eq_splitOn]
  constructor
  · intro h line hline
    obtain ⟨s, rfl⟩ := isEncoded_iff.1 h
    rw [cut_encode, List.mem_append, List.mem_map, List.mem_singleton] at hline
    rcases hline with ⟨piece, -, rfl⟩ | rfl
    · exact isEncoded_encode piece
    · exact isEncoded_encode _
  · intro h
    rw [List.forall_mem_append] at h
    obtain ⟨hpieces, hleft⟩ := h
    rw [← join_cut 10 bs]
    refine IsEncoded.append ?_ (hleft _ (List.mem_singleton_self _))
    generalize (cut 10 bs).1 = pieces at hpieces
    induction pieces with
    | nil => exact isEncoded_encode []
    | cons piece pieces ih =>
      obtain ⟨hpiece, hrest⟩ := List.forall_mem_cons.1 hpieces
      rw [List.flatMap_cons]
      exact (hpiece.append (isEncoded_encode ['\n'])).append (ih hrest)

end Acceptance.Text
