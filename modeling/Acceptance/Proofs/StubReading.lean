import Acceptance.Description
import Acceptance.Pattern.Basic
import Mathlib.Data.List.Forall2

/-! Reading the pattern of a description: what the reader makes of each token. -/
namespace Acceptance.Pattern
open Description

/-- The characters of numbers, as the class in a pattern describes them. -/
def numberSet : CharSet := .union (.union (.union .none (.range '0' '9')) (.one '+')) (.one '-')

/-- The expressions that the pattern of a token is made of. -/
def tokenExprs : Token → List (Expr CharSet)
  | .literal text => text.map fun c => .one (.one c)
  | .quotedNumber => [.one (.one '"'), .plus true (.one numberSet), .one (.one '"')]

/-- The part has a tree for the expression, and nothing in it stands deep. -/
def Part.IsFor (p : Part) (e : Expr CharSet) : Prop :=
  ∃ t, p.tree = some t ∧ t.expr = e ∧ p.nest.length ≤ 4

namespace Reader

/-- The reader comes from a pattern to what is left of it in any number of rounds, each of which takes
a character at least. -/
def Passes (r : Reader) (s : List Char) (r' : Reader) (s' : List Char) : Prop :=
  ∀ fuel, s.length ≤ fuel → ∃ fuel', s'.length ≤ fuel' ∧ run fuel r s = run fuel' r' s'

theorem Passes.refl (r : Reader) (s : List Char) : Passes r s r s :=
  fun fuel h => ⟨fuel, h, rfl⟩

theorem Passes.trans {r r' r'' : Reader} {s s' s'' : List Char} (h : Passes r s r' s')
    (h' : Passes r' s' r'' s'') : Passes r s r'' s'' := by
  intro fuel hfuel
  obtain ⟨fuel', hfuel', hrun⟩ := h fuel hfuel
  obtain ⟨fuel'', hfuel'', hrun'⟩ := h' fuel' hfuel'
  exact ⟨fuel'', hfuel'', hrun.trans hrun'⟩

theorem passes_step {r r' : Reader} {c : Char} {rest rest' : List Char}
    (h : r.step c rest = .ok (r', rest')) (hlen : rest'.length ≤ rest.length) :
    Passes r (c :: rest) r' rest' := by
  intro fuel hfuel
  cases fuel with
  | zero => simp at hfuel
  | succ fuel =>
    refine ⟨fuel, ?_, ?_⟩
    · simp only [List.length_cons] at hfuel
      omega
    · rw [run, h]
      rfl

/-- A reader outside all groups and alternatives that has read some parts, last first, and opened `n`
groups. -/
def among (start : List Char) (parts : List Part) (n : Nat) : Reader :=
  ⟨{}, ⟨start, [], start, parts⟩, [], [], n, none⟩

variable (start : List Char) (parts : List Part) (n : Nat)

theorem step_plain {c : Char} (hc : isSpecial c = false) (rest : List Char) :
    (among start parts n).step c rest =
      .ok (among start (⟨some (.one (.one c)), ⟨c :: rest, rest⟩, []⟩ :: parts) n, rest) := by
  change (among start parts n).part c rest = _
  unfold part
  split <;> first | rfl | exact absurd hc (by decide)

theorem standsForItself_of_isSpecial {c : Char} (hc : isSpecial c = true) :
    Escape.standsForItself c = true := by
  have hall : ['\\', '.', '+', '*', '?', '(', ')', '|', '[', ']', '\x7b', '\x7d', '^', '$'].all
      Escape.standsForItself = true := by decide
  exact List.all_eq_true.1 hall c (List.contains_iff_mem.1 hc)

theorem step_escaped {c : Char} (hc : isSpecial c = true) (rest : List Char) :
    (among start parts n).step '\\' (c :: rest) =
      .ok (among start (⟨some (.one (.one c)), ⟨'\\' :: c :: rest, rest⟩, []⟩ :: parts) n, rest) := by
  have hread : Escape.read {} (c :: rest) = .ok (.char c false, rest) := by
    rw [Escape.read, if_pos (standsForItself_of_isSpecial hc)]
  change (Escape.read {} (c :: rest) >>= _) = _
  rw [hread]
  rfl

theorem isFor_char (c : Char) (place : Stretch) :
    Part.IsFor ⟨some (.one (.one c)), place, []⟩ (.one (.one c)) :=
  ⟨_, rfl, rfl, Nat.zero_le 4⟩

/-- A literal character is read as itself, with or without a backslash before it. -/
theorem passes_char (c : Char) (rest : List Char) :
    ∃ p : Part, p.IsFor (.one (.one c)) ∧
      Passes (among start parts n) (escape [c] ++ rest) (among start (p :: parts) n) rest := by
  cases hc : isSpecial c with
  | true =>
    refine ⟨_, isFor_char c ⟨'\\' :: c :: rest, rest⟩, ?_⟩
    simp only [escape, List.flatMap_singleton, hc, if_true]
    exact passes_step (step_escaped start parts n hc rest) (by simp)
  | false =>
    refine ⟨_, isFor_char c ⟨c :: rest, rest⟩, ?_⟩
    simp only [escape, List.flatMap_singleton, hc]
    exact passes_step (step_plain start parts n hc rest) (Nat.le_refl _)

theorem passes_literal (text rest : List Char) :
    ∃ new, List.Forall₂ Part.IsFor new.reverse (tokenExprs (.literal text)) ∧
      Passes (among start parts n) (escape text ++ rest) (among start (new ++ parts) n) rest := by
  induction text generalizing parts with
  | nil => exact ⟨[], .nil, .refl _ _⟩
  | cons c text ih =>
    obtain ⟨p, hp, hpass⟩ := passes_char start parts n c (escape text ++ rest)
    obtain ⟨new, hnew, hpass'⟩ := ih (p :: parts)
    refine ⟨new ++ [p], ?_, ?_⟩
    · rw [List.reverse_append]
      exact .cons hp hnew
    · have happend : escape (c :: text) ++ rest = escape [c] ++ (escape text ++ rest) := by
        simp [escape]
      rw [happend, List.append_assoc]
      exact hpass.trans hpass'

theorem read_numberClass (rest : List Char) :
    ∃ p, Class.read {} ("[0-9+-]".toList ++ rest) = .ok (p, rest) ∧ p.set = numberSet ∧
      p.nest.length = 2 ∧ p.refused = none :=
  ⟨_, rfl, rfl, rfl, rfl⟩

/-- A reader in the only group that is open, of which some parts have been read. -/
def inGroup (around : Reader) (start inside : List Char) (parts : List Part) : Reader :=
  { around with
    branches := ⟨inside, [], inside, parts⟩
    groups := [⟨start, .numbered around.count, around.flags, around.branches⟩]
    count := around.count + 1 }

/-- The class of number characters, repeated in a group, is one part when the group has been closed. -/
theorem passes_numberGroup (rest : List Char) :
    ∃ p : Part, p.IsFor (.plus true (.one numberSet)) ∧
      Passes (among start parts n) ("([0-9+-]+)".toList ++ rest) (among start (p :: parts) (n + 1))
        rest := by
  let inside := "[0-9+-]".toList ++ ('+' :: ')' :: rest)
  let around := among start parts n
  obtain ⟨c, hread, hset, hnest, hrefused⟩ := read_numberClass ('+' :: ')' :: rest)
  let one : Part := ⟨some (.one c.set), c.place, c.nest⟩
  let manyPlace : Stretch := ⟨c.place.start, ')' :: rest⟩
  let many : Part := ⟨some (.rep true 1 none (.one c.set)), manyPlace, .within manyPlace c.nest⟩
  let groupPlace : Stretch := ⟨'(' :: inside, rest⟩
  let group : Part := ⟨many.tree.map (.group (.numbered n)), groupPlace, .within groupPlace many.nest⟩
  have hopen : around.step '(' inside = .ok (inGroup around ('(' :: inside) inside [], inside) := rfl
  have hclass : (inGroup around ('(' :: inside) inside []).step '[' (inside.drop 1) =
      .ok (inGroup around ('(' :: inside) inside [one], '+' :: ')' :: rest) := by
    change (Class.read {} inside >>= _) = _
    rw [hread]
    change Except.ok ((inGroup around ('(' :: inside) inside [one]).refuse c.refused, _) = _
    rw [hrefused]
    rfl
  have hplus : (inGroup around ('(' :: inside) inside [one]).step '+' (')' :: rest) =
      .ok (inGroup around ('(' :: inside) inside [many], ')' :: rest) := rfl
  have hclose : (inGroup around ('(' :: inside) inside [many]).step ')' rest =
      .ok (among start (group :: parts) (n + 1), rest) := rfl
  refine ⟨group, ⟨_, rfl, by rw [hset]; rfl, by simp [group, many, Nest.within, hnest]⟩, ?_⟩
  exact (passes_step hopen (Nat.le_refl _)).trans <|
    (passes_step hclass (by simp [inside])).trans <|
      (passes_step hplus (Nat.le_refl _)).trans (passes_step hclose (Nat.le_refl _))

/-- A quoted number is read as a group of one or more number characters between quotes. -/
theorem passes_quotedNumber (rest : List Char) :
    ∃ new, List.Forall₂ Part.IsFor new.reverse (tokenExprs .quotedNumber) ∧
      Passes (among start parts n) (numberPattern ++ rest) (among start (new ++ parts) (n + 1)) rest := by
  obtain ⟨left, hleft, hpass⟩ := passes_char start parts n '"'
    ("([0-9+-]+)\"".toList ++ rest)
  obtain ⟨group, hgroup, hpass'⟩ := passes_numberGroup start (left :: parts) n ('"' :: rest)
  obtain ⟨right, hright, hpass''⟩ := passes_char start (group :: left :: parts) (n + 1) '"' rest
  exact ⟨[right, group, left], .cons hleft (.cons hgroup (.cons hright .nil)),
    hpass.trans (hpass'.trans hpass'')⟩

theorem passes_tokens (ts : List Token) (rest : List Char) :
    ∃ new n', List.Forall₂ Part.IsFor new.reverse (ts.flatMap tokenExprs) ∧
      Passes (among start parts n) (ts.flatMap Token.pattern ++ rest) (among start (new ++ parts) n')
        rest := by
  induction ts generalizing parts n with
  | nil => exact ⟨[], n, .nil, .refl _ _⟩
  | cons t ts ih =>
    have hfirst : ∃ new n', List.Forall₂ Part.IsFor new.reverse (tokenExprs t) ∧
        Passes (among start parts n) (t.pattern ++ (ts.flatMap Token.pattern ++ rest))
          (among start (new ++ parts) n') (ts.flatMap Token.pattern ++ rest) := by
      cases t with
      | literal text =>
        obtain ⟨new, hnew, hpass⟩ := passes_literal start parts n text
          (ts.flatMap Token.pattern ++ rest)
        exact ⟨new, n, hnew, hpass⟩
      | quotedNumber =>
        obtain ⟨new, hnew, hpass⟩ := passes_quotedNumber start parts n
          (ts.flatMap Token.pattern ++ rest)
        exact ⟨new, n + 1, hnew, hpass⟩
    obtain ⟨new, n₁, hnew, hpass⟩ := hfirst
    obtain ⟨more, n₂, hmore, hpass'⟩ := ih (new ++ parts) n₁
    refine ⟨more ++ new, n₂, ?_, ?_⟩
    · rw [List.reverse_append, List.flatMap_cons]
      exact List.rel_append hnew hmore
    · rw [List.flatMap_cons, List.append_assoc, List.append_assoc]
      exact hpass.trans hpass'

theorem map_expr_of_isFor {ps : List Part} {es : List (Expr CharSet)}
    (h : List.Forall₂ Part.IsFor ps es) : (ps.filterMap (·.tree)).map Tree.expr = es := by
  induction h with
  | nil => rfl
  | cons hp _ ih =>
    obtain ⟨t, ht, he, -⟩ := hp
    rw [List.filterMap_cons_some ht, List.map_cons, ih, he]

/-- Parts side by side stand no deeper than the deepest of them. -/
theorem length_foldl_beside {ps : List Part} {k : Nat} (h : ∀ p ∈ ps, p.nest.length ≤ k) {n : Nest}
    (hn : n.length ≤ k) : (ps.foldl (fun n p => p.nest.beside n) n).length ≤ k := by
  induction ps generalizing n with
  | nil => exact hn
  | cons p ps ih =>
    refine ih (fun q hq => h q (List.mem_cons_of_mem p hq)) ?_
    rw [Nest.length_beside]
    exact Nat.max_le.2 ⟨h p List.mem_cons_self, hn⟩

theorem nest_le_of_isFor {ps : List Part} {es : List (Expr CharSet)}
    (h : List.Forall₂ Part.IsFor ps es) : ∀ p ∈ ps, p.nest.length ≤ 4 := by
  intro p hp
  induction h with
  | nil => cases hp
  | cons hq _ ih =>
    obtain ⟨-, -, -, hnest⟩ := hq
    rcases List.mem_cons.1 hp with rfl | hp
    · exact hnest
    · exact ih hp

/-- What is read of a pattern without alternatives that has two parts or more, none of them deep. -/
theorem finish_among {first : Part} {ps : List Part} (hps : ps ≠ [])
    (hnest : ∀ p ∈ first :: ps, p.nest.length ≤ 4) {whole : Part}
    (hwhole : whole = (among start (ps.reverse ++ [first]) n).branches.finish []) :
    whole.nest.tooDeep? = none ∧
      whole.tree = some (.sequence ((first :: ps).filterMap (·.tree))) := by
  have hparts : ps.reverse ++ [first] = (first :: ps).reverse := by rw [List.reverse_cons]
  have hjoin : whole = .join ⟨start, []⟩ .sequence (first :: ps).reverse := by
    rw [hwhole, hparts]
    cases hrev : (first :: ps).reverse with
    | nil => simp at hrev
    | cons p rest =>
      cases rest with
      | nil =>
        have hlen := congrArg List.length hrev
        simp only [List.length_reverse, List.length_cons, List.length_nil] at hlen
        exact absurd (List.length_eq_zero_iff.1 (by omega)) hps
      | cons q rest => rfl
  subst hjoin
  refine ⟨?_, by rw [Part.join, List.reverse_reverse]⟩
  have hle : ((first :: ps).reverse.foldl (fun n p => p.nest.beside n) []).length ≤ 4 :=
    length_foldl_beside (fun p hp => hnest p (List.mem_reverse.1 hp)) (Nat.zero_le 4)
  exact List.getElem?_eq_none (Nat.le_trans (Nat.succ_le_succ hle) (by decide))

theorem read_of_run {pattern : List Char} {r : Reader} {t : Tree}
    (hrun : run pattern.length (new pattern) pattern = .ok r)
    (hdeep : (r.branches.finish []).nest.tooDeep? = none)
    (hrefused : r.refused = none) (htree : (r.branches.finish []).tree = some t) :
    read pattern = .ok (t, r.names.map (·.1)) := by
  rw [read, hrun]
  simp only [bind, Except.bind, hdeep, hrefused, htree]
  rfl

/-- The pattern of a description is well formed: a sequence that is bound to both ends of the text, with
the expressions of the tokens between them. -/
theorem read_pattern (d : String) :
    ∃ ts, read (pattern d).toList = .ok (Tree.sequence (.look .textStart :: ts), []) ∧ ts ≠ [] ∧
      ts.map Tree.expr = (tokens d.toList).flatMap tokenExprs ++ [.look .textEnd] := by
  -- The reader passes `^`, the patterns of the tokens and `$`, one after the other.
  let inner := (tokens d.toList).flatMap Token.pattern ++ ['$']
  let start := '^' :: inner
  let first : Part := ⟨some (.look .textStart), ⟨start, inner⟩, []⟩
  let last : Part := ⟨some (.look .textEnd), ⟨['$'], []⟩, []⟩
  have hstart : (pattern d).toList = start := String.toList_ofList
  have hfirst : (among start [] 0).step '^' inner = .ok (among start [first] 0, inner) := rfl
  obtain ⟨mid, n, hmid, hpass⟩ := passes_tokens start [first] 0 (tokens d.toList) ['$']
  have hlast : (among start (mid ++ [first]) n).step '$' [] =
      .ok (among start (last :: (mid ++ [first])) n, []) := rfl
  obtain ⟨fuel, -, hrun⟩ := ((passes_step hfirst (Nat.le_refl _)).trans
    (hpass.trans (passes_step hlast (Nat.le_refl _)))) start.length (Nat.le_refl _)
  let ps := mid.reverse ++ [last]
  have hps : List.Forall₂ Part.IsFor ps
      ((tokens d.toList).flatMap tokenExprs ++ [.look .textEnd]) :=
    List.rel_append hmid (.cons ⟨_, rfl, rfl, Nat.zero_le 4⟩ .nil)
  have hne : ps ≠ [] := by simp [ps]
  have hrev : ps.reverse ++ [first] = last :: (mid ++ [first]) := by simp [ps]
  have hnest : ∀ p ∈ first :: ps, p.nest.length ≤ 4 :=
    List.forall_mem_cons.2 ⟨Nat.zero_le 4, nest_le_of_isFor hps⟩
  obtain ⟨hdeep, htree⟩ := finish_among start n hne hnest rfl
  have hmap := map_expr_of_isFor hps
  refine ⟨ps.filterMap (·.tree), ?_, ?_, hmap⟩
  · have hend : run fuel (among start (last :: (mid ++ [first])) n) [] =
        .ok (among start (last :: (mid ++ [first])) n) := by cases fuel <;> rfl
    rw [hstart]
    rw [← hrev] at hrun hend
    exact read_of_run (hrun.trans hend) hdeep rfl htree
  · intro hnil
    rw [hnil] at hmap
    simp at hmap

end Reader
end Acceptance.Pattern
