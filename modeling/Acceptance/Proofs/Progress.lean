import Acceptance.Pattern.Reader

/-!
Readers of patterns go on. Every part of a pattern that is read leaves less of it, so that the number of
rounds that a reader may take never decides what it reads.
-/
namespace Acceptance.Pattern

/-- If there is a result, it leaves no more than so many characters. -/
def Leaves {α : Type} (result : Except Flaw (α × List Char)) (n : Nat) : Prop :=
  ∀ a rest, result = .ok (a, rest) → rest.length ≤ n

section Leaves
variable {α β : Type} {n : Nat}

theorem leaves_ok {a : α} {rest : List Char} (h : rest.length ≤ n) :
    Leaves (.ok (a, rest) : Except Flaw (α × List Char)) n := by
  rintro _ _ ⟨⟩
  exact h

theorem leaves_error (flaw : Flaw) : Leaves (.error flaw : Except Flaw (α × List Char)) n := by
  rintro _ _ ⟨⟩

theorem leaves_fail (fault : Fault) (span : Span) :
    Leaves (fail fault span : Except Flaw (α × List Char)) n := leaves_error _

theorem Leaves.mono {result : Except Flaw (α × List Char)} {m : Nat} (h : Leaves result m)
    (hmn : m ≤ n) : Leaves result n :=
  fun a rest hresult => Nat.le_trans (h a rest hresult) hmn

theorem leaves_bind {first : Except Flaw β} {more : β → Except Flaw (α × List Char)}
    (h : ∀ b, first = .ok b → Leaves (more b) n) : Leaves (first >>= more) n := by
  cases first with
  | error flaw => exact leaves_error flaw
  | ok b => exact h b rfl

/-- What comes first leaves something, of which more is read. -/
theorem Leaves.bind {first : Except Flaw (β × List Char)} {m : Nat} (hfirst : Leaves first m)
    {more : β × List Char → Except Flaw (α × List Char)}
    (h : ∀ b rest, rest.length ≤ m → Leaves (more (b, rest)) n) : Leaves (first >>= more) n := by
  refine leaves_bind fun b hb => ?_
  exact h b.1 b.2 (hfirst b.1 b.2 hb)

theorem Leaves.map {first : Except Flaw (β × List Char)} (h : Leaves first n) (g : β → α) :
    Leaves ((fun (b, rest) => (g b, rest)) <$> first) n := by
  cases first with
  | error flaw => exact leaves_error flaw
  | ok b => exact leaves_ok (h b.1 b.2 rfl)

/-- A check that fails leaves nothing, and one that holds takes nothing. -/
theorem leaves_guard {c : Prop} [Decidable c] {fault : Fault} {span : Span}
    {more : PUnit → Except Flaw (α × List Char)} (h : ¬ c → Leaves (more ⟨⟩) n) :
    Leaves (if c then fail fault span >>= more else more ⟨⟩) n := by
  split
  next hc => exact leaves_fail fault span
  next hc => exact h hc

end Leaves

namespace Flags

theorem length_readWhile_le (f : Flags) (p : Char → Bool) (inComment : Bool) (s : List Char) :
    (f.readWhile p inComment s).2.length ≤ s.length := by
  fun_induction f.readWhile p inComment s with
  | case1 => exact Nat.le_refl _
  | case2 c rest ih => exact Nat.le_succ_of_le ih
  | case3 c rest _ ih => exact Nat.le_succ_of_le ih
  | case4 c rest _ _ ih => exact Nat.le_succ_of_le ih
  | case5 c rest _ _ _ taken stop hread ih =>
    rw [hread] at ih
    exact Nat.le_succ_of_le ih
  | case6 => exact Nat.le_refl _

theorem length_takeWhile_le (f : Flags) (p : Char → Bool) (s : List Char) :
    (f.takeWhile p s).2.length ≤ s.length := f.length_readWhile_le p false s

theorem skip_nil (f : Flags) : f.skip [] = [] := by
  unfold skip
  split <;> rfl

theorem length_skip_le (f : Flags) (s : List Char) : (f.skip s).length ≤ s.length := by
  unfold skip
  split
  · exact f.length_readWhile_le _ false s
  · exact Nat.le_refl _

theorem length_skip_cons_le (f : Flags) {c : Char} {rest : List Char}
    (h : (f.verbose && (Text.isBlank c || c == '#')) = true) : (f.skip (c :: rest)).length ≤ rest.length := by
  obtain ⟨hverbose, hpassed⟩ := Bool.and_eq_true_iff.1 h
  rw [skip, if_pos hverbose, readWhile]
  by_cases hblank : Text.isBlank c = true
  · rw [if_pos (Bool.and_eq_true_iff.2 ⟨hverbose, hblank⟩)]
    exact f.length_readWhile_le _ false rest
  · have hmark := (Bool.or_eq_true_iff.1 hpassed).resolve_left hblank
    rw [if_neg (by simp [hblank]), if_pos (Bool.and_eq_true_iff.2 ⟨hverbose, hmark⟩)]
    exact f.length_readWhile_le _ true rest

theorem leaves_readOn (f : Flags) (seen : List (Char × Span)) (s : List Char) :
    Leaves (f.readOn seen s) s.length := by
  fun_induction f.readOn seen s with
  | case1 => exact leaves_fail _ _
  | case2 => exact leaves_fail _ _
  | case3 => exact leaves_ok (Nat.le_refl _)
  | case4 => exact leaves_fail _ _
  | case5 f seen c rest _ _ ih => exact ih.mono (Nat.le_succ _)
  | case6 => exact leaves_fail _ _
  | case7 => exact leaves_fail _ _
  | case8 f seen c rest here _ _ f' _ _ ih => exact ih.mono (Nat.le_succ _)

end Flags

namespace Escape
variable (f : Flags)

theorem leaves_fixedHex (start : List Char) (count n : Nat) (s : List Char) :
    Leaves (fixedHex f start count n s) s.length := by
  fun_induction fixedHex f start count n s with
  | case1 n rest => exact leaves_bind fun _ _ => leaves_ok (Nat.le_refl _)
  | case2 => exact leaves_fail _ _
  | case3 => exact leaves_fail _ _
  | case4 n count c rest d _ ih => exact ih.mono (Nat.le_succ_of_le (f.length_skip_le rest))

theorem leaves_bracedHex (brace : List Char) : Leaves (bracedHex f brace) brace.length := by
  have hstop := f.length_takeWhile_le (fun c => (hexValue? c).isSome) (brace.drop 1)
  unfold bracedHex
  dsimp only
  split
  next => exact leaves_fail _ _
  next rest hrest =>
    refine leaves_guard fun _ => leaves_bind fun _ _ => leaves_ok ?_
    rw [hrest] at hstop
    have := f.length_skip_le rest
    grind
  next => exact leaves_fail _ _

theorem leaves_hex (count : Nat) (s : List Char) : Leaves (hex f count s) s.length := by
  have hskip := f.length_skip_le s
  unfold hex
  split
  next rest hs => exact ((leaves_bracedHex f ('{' :: rest)).mono (hs ▸ hskip)).map (Atom.char · false)
  next => exact ((leaves_fixedHex f (f.skip s) count 0 (f.skip s)).mono hskip).map (Atom.char · (count == 2))

theorem leaves_readBoundary (s : List Char) : Leaves (readBoundary f s) s.length := by
  unfold readBoundary
  split
  next rest =>
    split
    next => exact leaves_fail _ _
    next c inside hinside =>
      have hskip := f.length_skip_le rest
      have hstop := f.length_takeWhile_le isBoundaryChar (c :: inside)
      split
      next =>
        dsimp only
        split
        next after hafter =>
          split
          next =>
            refine leaves_ok ?_
            rw [hafter] at hstop
            grind
          next => exact leaves_fail _ _
        next => exact leaves_fail _ _
      next => exact leaves_ok (Nat.le_refl _)
  next => exact leaves_ok (Nat.le_refl _)

theorem leaves_readProperty (negated : Bool) (s : List Char) :
    Leaves (readProperty f negated s) s.length := by
  have hskip := f.length_skip_le s
  unfold readProperty
  split
  next => exact leaves_fail _ _
  next rest hs =>
    have hstop := f.length_takeWhile_le (· != '}') rest
    dsimp only
    split
    next => exact leaves_fail _ _
    next hafter =>
      refine leaves_ok ?_
      rw [hafter] at hstop
      grind
  next => exact leaves_fail _ _
  next c rest _ _ hs =>
    refine leaves_ok ?_
    grind

theorem leaves_read (s : List Char) : Leaves (read f s) (s.length - 1) := by
  unfold read
  split
  next => exact leaves_fail _ _
  next c rest =>
    rw [List.length_cons, Nat.add_sub_cancel]
    split
    next => exact leaves_ok (Nat.le_refl _)
    split
    next => exact leaves_fail _ _
    split
    next => exact leaves_hex f 2 rest
    split
    next => exact leaves_hex f 4 rest
    split
    next => exact leaves_hex f 8 rest
    split
    next => exact leaves_readProperty f false rest
    split
    next => exact leaves_readProperty f true rest
    split
    next => exact (leaves_readBoundary f rest).map fun l => Atom.look (.word l f.unicode)
    split
    next => exact leaves_ok (Nat.le_refl _)
    next => exact leaves_fail _ _

end Escape

namespace Class
variable (f : Flags)

theorem length_readNamed?_le {s rest : List Char} {named : CharSet}
    (h : readNamed? s = some (named, rest)) : rest.length ≤ s.length := by
  let body := if s.head? == some '^' then s.drop 1 else s
  have hbody : body.length ≤ s.length := by
    unfold body
    split
    · exact (List.drop_sublist 1 s).length_le
    · exact Nat.le_refl _
  have hdrop := (List.dropWhile_suffix (l := body) (· != ':')).length_le
  unfold readNamed? at h
  dsimp only at h
  split at h
  next after hafter =>
    obtain ⟨_, -, hnamed⟩ := Option.map_eq_some_iff.1 h
    obtain rfl := (Prod.mk.inj hnamed).2
    rw [hafter, List.length_cons, List.length_cons] at hdrop
    omega
  next => cases h

theorem length_readSign_le (start : List Char) : (readSign f start).2.length ≤ start.length - 1 := by
  have hinside := f.length_skip_le (start.drop 1)
  rw [List.length_drop] at hinside
  unfold readSign
  split
  next rest hrest =>
    have hskip := f.length_skip_le rest
    rw [hrest, List.length_cons] at hinside
    dsimp only
    omega
  next => exact hinside

theorem leaves_readOpen (start : List Char) : Leaves (readOpen f start) (start.length - 1) := by
  have hsign := length_readSign_le f start
  have hrest := f.length_readWhile_le (· == '-') false (readSign f start).2
  have hle := Nat.le_trans hrest hsign
  unfold readOpen
  dsimp only
  refine leaves_guard fun _ => ?_
  split
  next => exact leaves_fail _ _
  next after hafter =>
    rw [hafter, List.length_cons] at hle
    split
    next =>
      refine leaves_guard fun _ => leaves_ok ?_
      exact Nat.le_trans (f.length_skip_le after) (Nat.le_of_succ_le hle)
    next => exact leaves_ok hle
  next => exact leaves_ok hle

theorem leaves_readAtom (s : List Char) : Leaves (readAtom f s) (s.length - 1) := by
  unfold readAtom
  split
  next rest => exact (Escape.leaves_read f rest).mono (Nat.sub_le _ _)
  next c rest _ => exact leaves_ok (Nat.le_refl _)
  next => exact leaves_fail _ _

theorem leaves_readItem (innermost : Stretch) (start : List Char) :
    Leaves (readItem f innermost start) (start.length - 1) := by
  unfold readItem
  refine (leaves_readAtom f start).bind fun a afterFirst hfirst => ?_
  have hskip := Nat.le_trans (f.length_skip_le afterFirst) hfirst
  dsimp only
  split
  next => exact leaves_fail _ _
  next afterHyphen hhyphen =>
    rw [hhyphen, List.length_cons] at hskip
    split
    next => exact leaves_bind fun _ _ => leaves_ok hskip
    next =>
      refine leaves_guard fun _ => ?_
      refine (leaves_readAtom f (f.skip afterHyphen)).bind fun b stop hstop => ?_
      refine leaves_bind fun _ _ => leaves_bind fun _ _ => leaves_guard fun _ => leaves_ok ?_
      have := f.length_skip_le afterHyphen
      dsimp only
      omega
  next => exact leaves_bind fun _ _ => leaves_ok hskip

theorem leaves_step (o : Open) (outer : List Open) (left : List Char) :
    Leaves (step f o outer left) (left.length - 1) := by
  have hskip := f.length_skip_le left
  have hopen := (leaves_readOpen f (f.skip left)).mono (Nat.sub_le_sub_right hskip 1)
  unfold step
  dsimp only
  split
  next => exact leaves_fail _ _
  next named hnamed =>
    split
    next s rest hs =>
      have hrest := length_readNamed?_le hs
      rw [hnamed, List.length_cons, List.length_cons] at hskip
      exact leaves_ok (by omega)
    next => exact hopen.bind fun _ _ h => leaves_ok h
  next => exact hopen.bind fun _ _ h => leaves_ok h
  next rest hrest =>
    rw [hrest, List.length_cons] at hskip
    split
    next => exact leaves_ok (Nat.le_sub_of_add_le hskip)
    next => exact leaves_ok (Nat.le_sub_of_add_le hskip)
  next rest hrest =>
    rw [hrest, List.length_cons, List.length_cons] at hskip
    exact leaves_ok (by omega)
  next rest hrest =>
    rw [hrest, List.length_cons, List.length_cons] at hskip
    exact leaves_ok (by omega)
  next rest hrest =>
    rw [hrest, List.length_cons, List.length_cons] at hskip
    exact leaves_ok (by omega)
  next =>
    have hitem := (leaves_readItem f o.opening (f.skip left)).mono (Nat.sub_le_sub_right hskip 1)
    exact hitem.bind fun _ _ h => leaves_ok h

/-- As many rounds as there are characters are as good as more. -/
theorem run_congr {n n' : Nat} {left : List Char} (hn : left.length < n) (hn' : left.length < n')
    (o : Open) (outer : List Open) : run f n o outer left = run f n' o outer left := by
  induction n generalizing n' left o outer with
  | zero => exact absurd hn (Nat.not_lt_zero _)
  | succ n ih =>
    obtain ⟨n', rfl⟩ := Nat.exists_eq_succ_of_ne_zero (Nat.ne_zero_of_lt hn')
    rw [run, run]
    cases hstep : step f o outer left with
    | error flaw => rfl
    | ok next =>
      obtain ⟨_ | ⟨o', outer'⟩, rest⟩ := next
      · rfl
      · have hrest := leaves_step f o outer left _ _ hstep
        have hne : left ≠ [] := by
          rintro rfl
          rw [step, f.skip_nil] at hstep
          cases hstep
        have hpos := List.length_pos_iff.2 hne
        exact ih (by omega) (by omega) o' outer'

theorem leaves_run (n : Nat) (o : Open) (outer : List Open) (left : List Char) :
    Leaves (run f n o outer left) (left.length - 1) := by
  induction n generalizing o outer left with
  | zero => exact leaves_fail _ _
  | succ n ih =>
    rw [run]
    refine (leaves_step f o outer left).bind fun next rest hrest => ?_
    cases next with
    | finished p => exact leaves_ok hrest
    | within o outer => exact (ih o outer rest).mono (Nat.le_trans (Nat.sub_le _ 1) hrest)

theorem leaves_read (start : List Char) : Leaves (read f start) (start.length - 1) := by
  refine (leaves_readOpen f start).bind fun o rest hrest => ?_
  exact (leaves_run f _ o [] rest).mono (Nat.le_trans (Nat.sub_le _ 1) hrest)

end Class

namespace Reader

theorem length_readLazy_le (s : List Char) : (readLazy s).2.length ≤ s.length := by
  unfold readLazy
  split
  · exact Nat.le_succ _
  · exact Nat.le_refl _

theorem length_readCount_le (f : Flags) (s : List Char) : (readCount f s).2.length ≤ s.length := by
  have hblank := (List.dropWhile_suffix (l := s) Text.isBlank).length_le
  have hdigits := f.length_takeWhile_le Char.isDigit (s.dropWhile Text.isBlank)
  have hafter := (List.dropWhile_suffix (l := (f.takeWhile Char.isDigit (s.dropWhile Text.isBlank)).2)
    Text.isBlank).length_le
  exact Nat.le_trans hafter (Nat.le_trans hdigits hblank)

theorem leaves_readBounds (f : Flags) (start : List Char) :
    Leaves (readBounds f start) (start.length - 1) := by
  have hinside := f.length_skip_le (start.drop 1)
  rw [List.length_drop] at hinside
  have hcount := Nat.le_trans (length_readCount_le f (f.skip (start.drop 1))) hinside
  unfold readBounds
  dsimp only
  refine leaves_guard fun _ => ?_
  split
  next => exact leaves_fail _ _
  next rest hrest =>
    rw [hrest, List.length_cons] at hcount
    have hskip := f.length_skip_le rest
    split
    next => exact leaves_fail _ _
    next after hafter =>
      rw [hafter, List.length_cons] at hskip
      exact leaves_bind fun _ _ => leaves_ok (by omega)
    next =>
      have hmost := length_readCount_le f (f.skip rest)
      refine leaves_bind fun _ _ => leaves_bind fun _ _ => ?_
      split
      next after hafter =>
        rw [hafter, List.length_cons] at hmost
        exact leaves_ok (by omega)
      next => exact leaves_fail _ _
  next =>
    refine leaves_bind fun _ _ => ?_
    split
    next after hafter =>
      rw [hafter, List.length_cons] at hcount
      exact leaves_ok (Nat.le_of_succ_le hcount)
    next => exact leaves_fail _ _

theorem leaves_readCounted (r : Reader) (start : List Char) :
    Leaves (r.readCounted start) (start.length - 1) := by
  refine leaves_bind fun ⟨t, p, r'⟩ _ => ?_
  refine (leaves_readBounds r'.flags start).bind fun bounds rest hrest => ?_
  have hlazy := length_readLazy_le (r'.flags.skip rest)
  have hskip := r'.flags.length_skip_le rest
  exact leaves_guard fun _ => leaves_ok (Nat.le_trans hlazy (Nat.le_trans hskip hrest))

theorem leaves_readUncounted (r : Reader) (least : Nat) (most : Option Nat) (start : List Char) :
    Leaves (r.readUncounted least most start) (start.length - 1) := by
  refine leaves_bind fun ⟨t, p, r'⟩ _ => leaves_ok ?_
  have hlazy := length_readLazy_le (start.drop 1)
  rwa [List.length_drop] at hlazy

theorem leaves_readName (start s : List Char) : Leaves (readName start s) s.length := by
  fun_induction readName start s with
  | case1 => exact leaves_fail _ _
  | case2 => exact leaves_fail _ _
  | case3 => exact leaves_ok (Nat.le_succ _)
  | case4 c rest _ _ ih => exact ih.mono (Nat.le_succ _)
  | case5 => exact leaves_fail _ _

theorem leaves_openNamed (r : Reader) (start nameStart : List Char) :
    Leaves (r.openNamed start nameStart) nameStart.length := by
  refine (leaves_readName nameStart nameStart).bind fun name rest hrest => ?_
  dsimp only
  split
  next => exact leaves_fail _ _
  next => exact leaves_ok hrest

theorem leaves_readFlags (r : Reader) (start mark : List Char) :
    Leaves (r.readFlags start mark) mark.length := by
  have hinside : (mark.drop 1).length ≤ mark.length := (List.drop_sublist 1 mark).length_le
  unfold readFlags
  dsimp only
  refine leaves_guard fun _ => ?_
  refine (r.flags.leaves_readOn [] (mark.drop 1)).bind fun flags rest hrest => ?_
  have hle := Nat.le_trans hrest hinside
  dsimp only
  split
  next after _ => exact leaves_guard fun _ => leaves_ok (Nat.le_of_succ_le hle)
  next => exact leaves_ok (Nat.le_trans (List.drop_sublist 1 rest).length_le hle)

theorem leaves_openGroup (r : Reader) (start : List Char) :
    Leaves (r.openGroup start) (start.length - 1) := by
  have hinside := r.flags.length_skip_le (start.drop 1)
  rw [List.length_drop] at hinside
  unfold openGroup
  split
  next => exact leaves_fail _ _
  next => exact leaves_fail _ _
  next => exact leaves_fail _ _
  next => exact leaves_fail _ _
  next rest hrest =>
    rw [hrest] at hinside
    exact (r.leaves_openNamed start rest).mono (by grind)
  next rest _ _ hrest =>
    rw [hrest] at hinside
    exact (r.leaves_openNamed start rest).mono (by grind)
  next rest _ _ _ _ _ _ hrest =>
    rw [hrest] at hinside
    exact (r.leaves_readFlags start ('?' :: rest)).mono hinside
  next => exact leaves_ok hinside

theorem leaves_closeGroup (r : Reader) (start : List Char) :
    Leaves (r.closeGroup start) (start.length - 1) := by
  unfold closeGroup
  split
  next => exact leaves_fail _ _
  next => exact leaves_ok (Nat.le_of_eq List.length_drop)

theorem leaves_part (r : Reader) (c : Char) (rest : List Char) :
    Leaves (r.part c rest) rest.length := by
  unfold part
  dsimp only
  split
  next => exact r.leaves_openGroup ('(' :: rest)
  next => exact r.leaves_closeGroup (')' :: rest)
  next => exact leaves_ok (Nat.le_refl _)
  next => exact (Class.leaves_read r.flags ('[' :: rest)).bind fun _ _ h => leaves_ok h
  next => exact r.leaves_readUncounted 0 (some 1) ('?' :: rest)
  next => exact r.leaves_readUncounted 0 none ('*' :: rest)
  next => exact r.leaves_readUncounted 1 none ('+' :: rest)
  next => exact r.leaves_readCounted ('{' :: rest)
  next =>
    have hread := (Escape.leaves_read r.flags rest).mono (Nat.sub_le _ 1)
    exact hread.bind fun _ _ h => leaves_ok h
  next => exact leaves_ok (Nat.le_refl _)
  next => exact leaves_ok (Nat.le_refl _)
  next => exact leaves_ok (Nat.le_refl _)
  next => exact leaves_ok (Nat.le_refl _)

/-- Every round takes a character. -/
theorem leaves_step (r : Reader) (c : Char) (rest : List Char) :
    Leaves (r.step c rest) rest.length := by
  unfold step
  split
  next h => exact leaves_ok (r.flags.length_skip_cons_le h)
  next => exact r.leaves_part c rest

/-- A pattern is read to its end in as many rounds as it has characters, and in no other way in more. -/
theorem run_congr {n n' : Nat} {s : List Char} (hn : s.length ≤ n) (hn' : s.length ≤ n') (r : Reader) :
    run n r s = run n' r s := by
  induction n generalizing n' s r with
  | zero =>
    obtain rfl := List.length_eq_zero_iff.1 (Nat.le_zero.1 hn)
    cases n' <;> rfl
  | succ n ih =>
    cases s with
    | nil => cases n' <;> rfl
    | cons c rest =>
      obtain ⟨n', rfl⟩ := Nat.exists_eq_succ_of_ne_zero (Nat.ne_zero_of_lt hn')
      rw [run, run]
      cases hstep : r.step c rest with
      | error flaw => rfl
      | ok next =>
        have hrest := r.leaves_step c rest _ _ hstep
        exact ih (Nat.le_trans hrest (Nat.le_of_succ_le_succ hn))
          (Nat.le_trans hrest (Nat.le_of_succ_le_succ hn')) next.1

end Reader
end Acceptance.Pattern
