import Acceptance.Proofs.Matching
import Acceptance.Proofs.StubReading
import Acceptance.Proofs.Variation

/-!
The pattern of a description matches just the texts that the description varies to, in particular the
description itself.
-/
namespace Acceptance.Pattern
open Relation Description

/-- The expressions lead from one place to another, one after the other. -/
def leadsAll : List (Expr CharSet) → Spot → Spot → Prop
  | [] => fun p q => q = p
  | e :: es => fun p q => ∃ m, e.leads p m ∧ leadsAll es m q

theorem leadsAll_append (es fs : List (Expr CharSet)) (p q : Spot) :
    leadsAll (es ++ fs) p q ↔ ∃ m, leadsAll es p m ∧ leadsAll fs m q := by
  induction es generalizing p with
  | nil => simp [leadsAll]
  | cons e es ih =>
    simp only [List.cons_append, leadsAll, ih]
    constructor
    · rintro ⟨m, he, n, hes, hfs⟩
      exact ⟨n, ⟨m, he, hes⟩, hfs⟩
    · rintro ⟨n, ⟨m, he, hes⟩, hfs⟩
      exact ⟨m, he, n, hes, hfs⟩

theorem leads_sequence_iff (ts : List Tree) (p q : Spot) :
    (Tree.sequence ts).expr.leads p q ↔ leadsAll (ts.map Tree.expr) p q := by
  induction ts generalizing p with
  | nil => rfl
  | cons t ts ih =>
    cases ts with
    | nil => simp [Tree.sequence, leadsAll]
    | cons u us =>
      rw [List.map_cons, leadsAll]
      simp only [← ih]
      rfl

/-- From any place, the expressions lead over just the texts in `L`. -/
def Takes (es : List (Expr CharSet)) (L : List Char → Prop) : Prop :=
  ∀ p rest, (∃ q, leadsAll es p q ∧ q.after = rest) ↔ ∃ w, L w ∧ p.after = w ++ rest

section Takes
variable {es fs : List (Expr CharSet)} {L M : List Char → Prop}

theorem Takes.congr (h : Takes es L) (hLM : ∀ w, L w ↔ M w) : Takes es M := by
  intro p rest
  simp only [← hLM]
  exact h p rest

theorem takes_nil : Takes [] (· = []) := by
  intro p rest
  simp [leadsAll]

theorem Takes.append (h : Takes es L) (h' : Takes fs M) :
    Takes (es ++ fs) fun w => ∃ u v, L u ∧ M v ∧ w = u ++ v := by
  intro p rest
  constructor
  · rintro ⟨q, hq, hrest⟩
    obtain ⟨m, hes, hfs⟩ := (leadsAll_append es fs p q).1 hq
    obtain ⟨v, hv, hm⟩ := (h' m rest).1 ⟨q, hfs, hrest⟩
    obtain ⟨u, hu, hp⟩ := (h p (v ++ rest)).1 ⟨m, hes, hm⟩
    exact ⟨u ++ v, ⟨u, v, hu, hv, rfl⟩, by rw [hp, List.append_assoc]⟩
  · rintro ⟨_, ⟨u, v, hu, hv, rfl⟩, hp⟩
    rw [List.append_assoc] at hp
    obtain ⟨m, hes, hm⟩ := (h p (v ++ rest)).2 ⟨u, hu, hp⟩
    obtain ⟨q, hfs, hrest⟩ := (h' m rest).2 ⟨v, hv, hm⟩
    exact ⟨q, (leadsAll_append es fs p q).2 ⟨m, hes, hfs⟩, hrest⟩

theorem takes_char (c : Char) : Takes [.one (.one c)] (· = [c]) := by
  intro p rest
  simp only [leadsAll, Expr.leads, CharSet.has_one, decide_eq_true_eq]
  constructor
  · rintro ⟨_, ⟨_, ⟨d, rest, hp, rfl, rfl⟩, rfl⟩, rfl⟩
    exact ⟨[d], rfl, hp⟩
  · rintro ⟨_, rfl, hp⟩
    exact ⟨_, ⟨_, ⟨c, rest, hp, rfl, rfl⟩, rfl⟩, rfl⟩

/-- A repetition of one character or more takes all texts of such characters but the empty one. -/
theorem takes_many (greedy : Bool) (s : CharSet) :
    Takes [.plus greedy (.one s)] fun w => w ≠ [] ∧ ∀ c ∈ w, s.has c = true := by
  intro p rest
  constructor
  · rintro ⟨q, ⟨_, h, rfl⟩, rfl⟩
    change TransGen (Expr.one s).leads p q at h
    induction h using TransGen.head_induction_on with
    | @single p hp =>
      obtain ⟨c, after, hp, hc, rfl⟩ := hp
      exact ⟨[c], ⟨by simp, by simpa using hc⟩, hp⟩
    | @head p m hp _ ih =>
      obtain ⟨c, after, hp, hc, rfl⟩ := hp
      obtain ⟨w, ⟨-, hw⟩, hafter⟩ := ih
      simp only at hafter
      exact ⟨c :: w, ⟨by simp, List.forall_mem_cons.2 ⟨hc, hw⟩⟩, by rw [hp, hafter]; rfl⟩
  · rintro ⟨w, ⟨hne, hw⟩, hp⟩
    suffices h : ∃ q, TransGen (Expr.one s).leads p q ∧ q.after = rest by
      obtain ⟨q, h, hrest⟩ := h
      exact ⟨q, ⟨q, h, rfl⟩, hrest⟩
    induction w generalizing p with
    | nil => exact absurd rfl hne
    | cons c w ih =>
      obtain ⟨hc, hw⟩ := List.forall_mem_cons.1 hw
      have hstep : (Expr.one s).leads p ⟨some c, w ++ rest⟩ := ⟨c, w ++ rest, hp, hc, rfl⟩
      by_cases hnil : w = []
      · subst hnil
        exact ⟨_, .single hstep, rfl⟩
      · obtain ⟨q, h, hrest⟩ := ih ⟨some c, w ++ rest⟩ rfl hnil hw
        exact ⟨q, .head hstep h, hrest⟩

theorem takes_literal (text : List Char) : Takes (tokenExprs (.literal text)) (· = text) := by
  induction text with
  | nil => exact takes_nil
  | cons c text ih =>
    refine ((takes_char c).append ih).congr fun w => ?_
    simp

theorem has_numberSet_iff (c : Char) :
    numberSet.has c = true ↔ ('0' ≤ c ∧ c ≤ '9') ∨ c = '+' ∨ c = '-' := by
  simp [numberSet, CharSet.has, or_assoc]

theorem takes_quotedNumber : Takes (tokenExprs .quotedNumber) IsQuotedNumber := by
  refine (((takes_char '"').append (takes_many true numberSet)).append (takes_char '"')).congr ?_
  intro w
  simp only [has_numberSet_iff]
  constructor
  · rintro ⟨_, _, ⟨_, ns, rfl, ⟨hne, hns⟩, rfl⟩, rfl, rfl⟩
    exact ⟨ns, hne, hns, rfl⟩
  · rintro ⟨ns, hne, hns, rfl⟩
    exact ⟨_, _, ⟨_, ns, rfl, ⟨hne, hns⟩, rfl⟩, rfl, rfl⟩

/-- What tokens are read as takes the texts that the tokens stand for. -/
theorem takes_tokens (ts : List Token) : Takes (ts.flatMap tokenExprs) (Fits ts) := by
  induction ts with
  | nil => exact takes_nil
  | cons t ts ih =>
    rw [List.flatMap_cons]
    cases t with
    | literal text =>
      refine ((takes_literal text).append ih).congr fun w => ?_
      constructor
      · rintro ⟨_, v, rfl, hv, rfl⟩
        exact ⟨v, rfl, hv⟩
      · rintro ⟨v, rfl, hv⟩
        exact ⟨_, v, rfl, hv, rfl⟩
    | quotedNumber =>
      refine (takes_quotedNumber.append ih).congr fun w => ?_
      constructor
      · rintro ⟨q, v, hq, hv, rfl⟩
        exact ⟨q, v, hq, rfl, hv⟩
      · rintro ⟨q, v, hq, rfl, hv⟩
        exact ⟨q, v, hq, hv, rfl⟩

end Takes

/-- Bound to both ends of the text, expressions occur only as the whole of it. -/
theorem occursIn_bound_iff {es : List (Expr CharSet)} {L : List Char → Prop} (h : Takes es L)
    {ts : List Tree} (hts : ts.map Tree.expr = es ++ [.look .textEnd]) (text : List Char) :
    (Tree.sequence (.look .textStart :: ts)).expr.occursIn text = true ↔ L text := by
  have hend (m : Spot) : Look.textEnd.holds m.gap = true ↔ m.after = [] := by
    simp [Look.holds, Spot.gap]
  have hstart (before : Option Char) (rest : List Char) :
      Look.textStart.holds (Spot.gap ⟨before, rest⟩) = true ↔ before = none := by
    simp [Look.holds, Spot.gap]
  rw [Expr.occursIn_iff]
  simp only [leads_sequence_iff, List.map_cons, hts, leadsAll, leadsAll_append, Tree.expr, Expr.leads,
    hend]
  constructor
  · rintro ⟨skipped, rest, _, rfl, _, ⟨rfl, hskipped⟩, m, hes, _, ⟨rfl, hafter⟩, rfl⟩
    obtain rfl : skipped = [] := by simpa [hstart] using hskipped
    obtain ⟨w, hw, hrest⟩ := (h _ _).1 ⟨_, hes, hafter⟩
    obtain rfl : rest = w := hrest.trans (List.append_nil w)
    exact hw
  · intro hL
    obtain ⟨m, hes, hafter⟩ := (h ⟨none, text⟩ []).2 ⟨text, hL, (List.append_nil text).symm⟩
    exact ⟨[], text, m, rfl, _, ⟨rfl, (hstart _ _).2 rfl⟩, m, hes, m, ⟨rfl, hafter⟩, rfl⟩

/-- A pattern that begins with an assertion is not searched for by texts alone. -/
theorem literals?_look_append (l : Look) (s : Shape) : ((Shape.look l).append s).literals? = none := by
  cases s <;> rfl

/-- If it is not too large, a pattern that begins with an assertion is searched for as it is written. -/
theorem searched?_look_sequence {l : Look} {ts : List Tree} (hne : ts ≠ []) {tree : Tree}
    (h : (Tree.sequence (.look l :: ts)).searched? = some tree) :
    tree = Tree.sequence (.look l :: ts) := by
  obtain ⟨t, ts, rfl⟩ := List.exists_cons_of_ne_nil hne
  have hlit : (Tree.sequence (.look l :: t :: ts)).shape.literals? = none :=
    literals?_look_append l _
  rw [Tree.searched?, hlit] at h
  split at h
  · cases h
  · exact (Option.some.inj h).symm

theorem exists_compile_pattern (d : String)
    (h : compile (pattern d) ≠ .error ⟨pattern d, .oversized⟩) :
    ∃ p, compile (pattern d) = .ok p ∧ ∀ t : String, p.isMatch t = true ↔ Variant d.toList t.toList := by
  obtain ⟨ts, hread, hne, hexpr⟩ := Reader.read_pattern d
  cases htree : (Tree.sequence (.look .textStart :: ts)).searched? with
  | none =>
    refine absurd ?_ h
    simp only [compile, hread, htree]
  | some tree =>
    obtain rfl := searched?_look_sequence hne htree
    refine ⟨⟨pattern d, (Tree.sequence (.look .textStart :: ts)).expr, []⟩, ?_, fun t => ?_⟩
    · simp only [compile, hread, htree]
    · exact (occursIn_bound_iff (takes_tokens _) hexpr t.toList).trans (fits_tokens_iff _ _)

/-- The pattern of a description compiles, and what it matches are the variations of the description,
itself among them. -/
theorem compile_pattern (d : String) (h : compile (pattern d) ≠ .error ⟨pattern d, .oversized⟩) :
    ∃ p, compile (pattern d) = .ok p ∧
      (∀ t : String, p.isMatch t = true ↔ Variant d.toList t.toList) ∧ p.isMatch d = true := by
  obtain ⟨p, hcompile, hmatch⟩ := exists_compile_pattern d h
  exact ⟨p, hcompile, hmatch, (hmatch d).2 (variant_refl _)⟩

theorem compile_pattern_cukes : ∃ p, compile (pattern "I have \"3\" (new) cukes") = .ok p ∧
    (∀ t : String, p.isMatch t = true ↔ Variant "I have \"3\" (new) cukes".toList t.toList) ∧
    p.isMatch "I have \"3\" (new) cukes" = true := by
  have hok : (compile (pattern "I have \"3\" (new) cukes")).isOk = true := by decide +kernel
  refine compile_pattern "I have \"3\" (new) cukes" ?_
  intro herror
  rw [herror] at hok
  cases hok

end Acceptance.Pattern
