import Acceptance.Pattern.Search
import Mathlib.Logic.Relation

/-!
What an expression matches, from place to place in a text. The search for a match finds one exactly if
there is one.
-/
namespace Acceptance.Pattern
open Relation

/-- A place in a text: the character before it, if there is one, and the text after it. -/
structure Spot where
  before : Option Char
  after : List Char

namespace Spot

def gap (p : Spot) : Gap := ⟨p.before, p.after.head?⟩

/-- The same place or one further on, where less text is left. -/
def Upto (p q : Spot) : Prop := q = p ∨ q.after.length < p.after.length

theorem upto_refl (p : Spot) : p.Upto p := .inl rfl

theorem Upto.trans {p q r : Spot} (hpq : p.Upto q) (hqr : q.Upto r) : p.Upto r := by
  rcases hpq with rfl | hpq
  · exact hqr
  · rcases hqr with rfl | hqr
    · exact .inr hpq
    · exact .inr (Nat.lt_trans hqr hpq)

/-- Nothing leads back. -/
theorem Upto.antisymm {p q : Spot} (hpq : p.Upto q) (hqp : q.Upto p) : q = p := by
  rcases hpq with h | h
  · exact h
  · rcases hqp with h' | h'
    · exact h'.symm
    · omega

end Spot

namespace Expr

/-- From which place to which one a match of the expression leads. -/
def leads : Expr CharSet → Spot → Spot → Prop
  | empty => fun p q => q = p
  | look l => fun p q => q = p ∧ l.holds p.gap = true
  | one s => fun p q => ∃ c rest, p.after = c :: rest ∧ s.has c = true ∧ q = ⟨some c, rest⟩
  | group _ e => e.leads
  | cat a b => fun p q => ∃ m, a.leads p m ∧ b.leads m q
  | alt a b => fun p q => a.leads p q ∨ b.leads p q
  | star _ e => ReflTransGen e.leads
  | plus _ e => TransGen e.leads

/-- An expression without its marks. -/
def bare (e : Expr Leaf) : Expr CharSet := e.map (·.set)

/-- From which place to which one a match leads on that has come to one of the marks. -/
def resumes : Expr Leaf → Spot → Spot → Prop
  | empty | look _ => fun _ _ => False
  | one a => fun p q => a.hit = true ∧ q = p
  | group _ e => e.resumes
  | cat a b => fun p q => (∃ m, a.resumes p m ∧ b.bare.leads m q) ∨ b.resumes p q
  | alt a b => fun p q => a.resumes p q ∨ b.resumes p q
  | star _ e | plus _ e => fun p q => ∃ m, e.resumes p m ∧ ReflTransGen e.bare.leads m q

theorem upto_of_star {r : Spot → Spot → Prop} (hr : ∀ p q, r p q → p.Upto q) {p q : Spot}
    (h : ReflTransGen r p q) : p.Upto q := by
  induction h with
  | refl => exact p.upto_refl
  | tail _ hq ih => exact ih.trans (hr _ _ hq)

theorem upto_of_leads {e : Expr CharSet} {p q : Spot} (h : e.leads p q) : p.Upto q := by
  induction e generalizing p q with
  | empty => exact .inl h
  | look l => exact .inl h.1
  | one s =>
    obtain ⟨c, rest, hp, -, rfl⟩ := h
    exact .inr (by simp [hp])
  | group _ e ih => exact ih h
  | cat a b iha ihb =>
    obtain ⟨m, ha, hb⟩ := h
    exact (iha ha).trans (ihb hb)
  | alt a b iha ihb => exact h.elim iha ihb
  | star _ e ih => exact upto_of_star (fun _ _ => ih) h
  | plus _ e ih => exact upto_of_star (fun _ _ => ih) h.to_reflTransGen

theorem upto_of_resumes {e : Expr Leaf} {p q : Spot} (h : e.resumes p q) : p.Upto q := by
  induction e generalizing p q with
  | empty => exact h.elim
  | look l => exact h.elim
  | one a => exact .inl h.2
  | group _ e ih => exact ih h
  | cat a b iha ihb =>
    rcases h with ⟨m, ha, hb⟩ | hb
    · exact (iha ha).trans (upto_of_leads hb)
    · exact ihb hb
  | alt a b iha ihb => exact h.elim iha ihb
  | star _ e ih | plus _ e ih =>
    obtain ⟨m, he, hm⟩ := h
    exact (ih he).trans (upto_of_star (fun _ _ => upto_of_leads) hm)

/-- An expression is skipped at a place if a match leads from there to there. -/
theorem skips_iff (e : Expr Leaf) (p : Spot) : e.skips p.gap = true ↔ e.bare.leads p p := by
  induction e with
  | empty => simp [skips, bare, map, leads]
  | look l => simp [skips, bare, map, leads]
  | one a =>
    have hno : ¬ (one a).bare.leads p p := by
      rintro ⟨c, rest, hp, -, rfl⟩
      simp at hp
    simp [skips, hno]
  | group _ e ih => exact ih
  | cat a b iha ihb =>
    rw [skips, Bool.and_eq_true, iha, ihb]
    constructor
    · rintro ⟨ha, hb⟩
      exact ⟨p, ha, hb⟩
    · rintro ⟨m, ha, hb⟩
      obtain rfl := (upto_of_leads ha).antisymm (upto_of_leads hb)
      exact ⟨ha, hb⟩
  | alt a b iha ihb =>
    rw [skips, Bool.or_eq_true, iha, ihb]
    rfl
  | star _ e _ => exact ⟨fun _ => .refl, fun _ => rfl⟩
  | plus _ e ih =>
    rw [skips, ih]
    constructor
    · exact TransGen.single
    · intro h
      obtain ⟨m, hm, hrest⟩ := TransGen.head'_iff.1 h
      have hback := upto_of_star (fun _ _ => upto_of_leads) hrest
      obtain rfl := (upto_of_leads hm).antisymm hback
      exact hm

theorem resumes_star_self (e : Expr Leaf) (p : Spot) :
    (∃ m, e.resumes p m ∧ ReflTransGen e.bare.leads m p) ↔ e.resumes p p := by
  constructor
  · rintro ⟨m, hm, hrest⟩
    have hback := upto_of_star (fun _ _ => upto_of_leads) hrest
    obtain rfl := (upto_of_resumes hm).antisymm hback
    exact hm
  · exact fun h => ⟨p, h, .refl⟩

/-- A mark is at the end of an expression if a match leads on from it to where it is. -/
theorem ends_iff (e : Expr Leaf) (p : Spot) : e.ends p.gap = true ↔ e.resumes p p := by
  induction e with
  | empty => simp [ends, resumes]
  | look l => simp [ends, resumes]
  | one a => simp [ends, resumes]
  | group _ e ih => exact ih
  | cat a b iha ihb =>
    rw [ends, Bool.or_eq_true, Bool.and_eq_true, iha, ihb, skips_iff]
    constructor
    · rintro (⟨ha, hb⟩ | hb)
      · exact .inl ⟨p, ha, hb⟩
      · exact .inr hb
    · rintro (⟨m, ha, hb⟩ | hb)
      · obtain rfl := (upto_of_resumes ha).antisymm (upto_of_leads hb)
        exact .inl ⟨ha, hb⟩
      · exact .inr hb
  | alt a b iha ihb =>
    rw [ends, Bool.or_eq_true, iha, ihb]
    rfl
  | star _ e ih | plus _ e ih => exact ih.trans (resumes_star_self e p).symm

theorem bare_advance (e : Expr Leaf) (g : Gap) (enter : Bool) (c : Char) :
    (e.advance g enter c).bare = e.bare := by
  unfold bare
  induction e generalizing enter with
  | empty | look | one => rfl
  | group _ e ih | star _ e ih | plus _ e ih => simp only [advance, map, ih]
  | cat a b iha ihb | alt a b iha ihb => simp only [advance, map, iha, ihb]

/-- A repetition that leads on has a first round that does. -/
theorem exists_first_round {r : Spot → Spot → Prop} {p q : Spot} (h : ReflTransGen r p q)
    (hne : q ≠ p) : ∃ m, m ≠ p ∧ r p m ∧ ReflTransGen r m q := by
  induction h using ReflTransGen.head_induction_on with
  | refl => exact absurd rfl hne
  | @head p m hpm hmq ih =>
    by_cases hm : m = p
    · subst hm
      exact ih hne
    · exact ⟨m, hm, hpm, hmq⟩

theorem ne_of_upto {p m q : Spot} (hm : m ≠ p) (hpm : p.Upto m) (hmq : m.Upto q) : q ≠ p := by
  rintro rfl
  exact hm (hpm.antisymm hmq)

/-- The rounds of a repetition after a character has been read: a round begins before it, either the
first one or one after a round that has come to its end there, or else a round goes on. -/
theorem rounds_advance (e : Expr Leaf) (p q : Spot) (enter : Bool) :
    (∃ m, (m ≠ p ∧ (((enter || e.ends p.gap) = true ∧ e.bare.leads p m) ∨ e.resumes p m)) ∧
        ReflTransGen e.bare.leads m q) ↔
      q ≠ p ∧ ((enter = true ∧ ReflTransGen e.bare.leads p q) ∨
        ∃ m, e.resumes p m ∧ ReflTransGen e.bare.leads m q) := by
  rw [Bool.or_eq_true, ends_iff]
  constructor
  · rintro ⟨m, ⟨hm, h⟩, hrest⟩
    have hmq := upto_of_star (fun _ _ => upto_of_leads) hrest
    rcases h with ⟨hbegin, hl⟩ | hr
    · refine ⟨ne_of_upto hm (upto_of_leads hl) hmq, ?_⟩
      rcases hbegin with henter | hend
      · exact .inl ⟨henter, .head hl hrest⟩
      · exact .inr ⟨p, hend, .head hl hrest⟩
    · exact ⟨ne_of_upto hm (upto_of_resumes hr) hmq, .inr ⟨m, hr, hrest⟩⟩
  · rintro ⟨hq, ⟨henter, h⟩ | ⟨m, hr, h⟩⟩
    · obtain ⟨m, hm, hl, hrest⟩ := exists_first_round h hq
      exact ⟨m, ⟨hm, .inl ⟨.inl henter, hl⟩⟩, hrest⟩
    · by_cases hm : m = p
      · subst hm
        obtain ⟨m', hm', hl, hrest⟩ := exists_first_round h hq
        exact ⟨m', ⟨hm', .inl ⟨.inr hr, hl⟩⟩, hrest⟩
      · exact ⟨m, ⟨hm, .inr hr⟩, h⟩

/-- What a match does that has read `c`: it has entered the expression before `c`, or it has come from
a mark; in both cases it ends behind `c`. -/
theorem resumes_advance (e : Expr Leaf) {p : Spot} {c : Char} {rest : List Char}
    (hp : p.after = c :: rest) (enter : Bool) (q : Spot) :
    (e.advance p.gap enter c).resumes ⟨some c, rest⟩ q ↔
      q ≠ p ∧ ((enter = true ∧ e.bare.leads p q) ∨ e.resumes p q) := by
  induction e generalizing enter q with
  | empty | look l =>
    constructor
    · exact False.elim
    · rintro ⟨hq, ⟨-, h⟩ | h⟩
      · first | exact hq h | exact hq h.1
      · exact h
  | one a =>
    simp only [advance, resumes, bare, map, leads, hp, Bool.and_eq_true]
    constructor
    · rintro ⟨⟨henter, hc⟩, rfl⟩
      refine ⟨?_, .inl ⟨henter, c, rest, rfl, hc, rfl⟩⟩
      rintro rfl
      simp at hp
    · rintro ⟨hq, ⟨henter, d, ds, hd, hc, rfl⟩ | ⟨-, h⟩⟩
      · cases hd
        exact ⟨⟨henter, hc⟩, rfl⟩
      · exact absurd h hq
  | group _ e ih => exact ih enter q
  | cat a b iha ihb =>
    have henter : ((enter && a.skips p.gap) || a.ends p.gap) = true ↔
        (enter = true ∧ a.bare.leads p p) ∨ a.resumes p p := by
      rw [Bool.or_eq_true, Bool.and_eq_true, skips_iff, ends_iff]
    simp only [advance, resumes, bare_advance, iha, ihb, henter]
    constructor
    · rintro (⟨m, ⟨hm, ha⟩, hb⟩ | ⟨hq, hb⟩)
      · rcases ha with ⟨he, ha⟩ | ha
        · exact ⟨ne_of_upto hm (upto_of_leads ha) (upto_of_leads hb), .inl ⟨he, m, ha, hb⟩⟩
        · exact ⟨ne_of_upto hm (upto_of_resumes ha) (upto_of_leads hb), .inr (.inl ⟨m, ha, hb⟩)⟩
      · rcases hb with ⟨⟨he, ha⟩ | ha, hb⟩ | hb
        · exact ⟨hq, .inl ⟨he, p, ha, hb⟩⟩
        · exact ⟨hq, .inr (.inl ⟨p, ha, hb⟩)⟩
        · exact ⟨hq, .inr (.inr hb)⟩
    · rintro ⟨hq, ⟨he, m, ha, hb⟩ | ⟨m, ha, hb⟩ | hb⟩
      · by_cases hm : m = p
        · subst hm
          exact .inr ⟨hq, .inl ⟨.inl ⟨he, ha⟩, hb⟩⟩
        · exact .inl ⟨m, ⟨hm, .inl ⟨he, ha⟩⟩, hb⟩
      · by_cases hm : m = p
        · subst hm
          exact .inr ⟨hq, .inl ⟨.inr ha, hb⟩⟩
        · exact .inl ⟨m, ⟨hm, .inr ha⟩, hb⟩
      · exact .inr ⟨hq, .inr hb⟩
  | alt a b iha ihb =>
    simp only [advance, resumes, iha, ihb, ← and_or_left]
    rw [or_or_or_comm, ← and_or_left]
    rfl
  | star _ e ih =>
    simp only [advance, resumes, bare_advance, ih]
    exact rounds_advance e p q enter
  | plus _ e ih =>
    simp only [advance, resumes, bare_advance, ih]
    rw [rounds_advance, and_congr_right_iff]
    intro hq
    have hplus : ReflTransGen e.bare.leads p q ↔ TransGen e.bare.leads p q := by
      rw [reflTransGen_iff_eq_or_transGen, or_iff_right hq]
    rw [hplus]
    rfl

/-- The search succeeds if a match leads on from a mark where the search is, or some match begins there
or further on. -/
theorem search_iff (e : Expr Leaf) (before : Option Char) (text : List Char) :
    e.search before text = true ↔
      (∃ q, e.resumes ⟨before, text⟩ q) ∨
        ∃ skipped rest q, text = skipped ++ rest ∧
          e.bare.leads ⟨skipped.getLast?.or before, rest⟩ q := by
  induction text generalizing e before with
  | nil =>
    have hend {q : Spot} (h : Spot.Upto ⟨before, []⟩ q) : q = ⟨before, []⟩ := by
      rcases h with h | h
      · exact h
      · exact absurd h (Nat.not_lt_zero _)
    have hskips := skips_iff e ⟨before, []⟩
    have hends := ends_iff e ⟨before, []⟩
    simp only [Spot.gap, List.head?_nil] at hskips hends
    rw [search, Bool.or_eq_true, hskips, hends]
    constructor
    · rintro (h | h)
      · exact .inr ⟨[], [], _, rfl, h⟩
      · exact .inl ⟨_, h⟩
    · rintro (⟨q, h⟩ | ⟨skipped, rest, q, htext, h⟩)
      · obtain rfl := hend (upto_of_resumes h)
        exact .inr h
      · obtain ⟨rfl, rfl⟩ := List.append_eq_nil_iff.1 htext.symm
        obtain rfl := hend (upto_of_leads h)
        exact .inl h
  | cons c text ih =>
    have hskips := skips_iff e ⟨before, c :: text⟩
    have hends := ends_iff e ⟨before, c :: text⟩
    have hadvance := resumes_advance e (p := ⟨before, c :: text⟩) rfl true
    simp only [Spot.gap, List.head?_cons, true_and] at hskips hends hadvance
    rw [search, Bool.or_eq_true, Bool.or_eq_true, hskips, hends, ih]
    simp only [hadvance, bare_advance]
    constructor
    · rintro ((h | h) | ⟨q, -, h | h⟩ | ⟨skipped, rest, q, rfl, h⟩)
      · exact .inr ⟨[], _, _, rfl, h⟩
      · exact .inl ⟨_, h⟩
      · exact .inr ⟨[], _, _, rfl, h⟩
      · exact .inl ⟨_, h⟩
      · refine .inr ⟨c :: skipped, rest, q, rfl, ?_⟩
        cases hlast : skipped.getLast? <;> simpa [List.getLast?_cons, hlast] using h
    · rintro (⟨q, h⟩ | ⟨skipped, rest, q, htext, h⟩)
      · by_cases hq : q = ⟨before, c :: text⟩
        · subst hq
          exact .inl (.inr h)
        · exact .inr (.inl ⟨q, hq, .inr h⟩)
      · cases skipped with
        | nil =>
          obtain rfl : c :: text = rest := htext
          by_cases hq : q = ⟨before, c :: text⟩
          · subst hq
            exact .inl (.inl h)
          · exact .inr (.inl ⟨q, hq, .inl h⟩)
        | cons d skipped =>
          obtain ⟨rfl, rfl⟩ := List.cons_eq_cons.1 htext
          refine .inr (.inr ⟨skipped, rest, q, rfl, ?_⟩)
          cases hlast : skipped.getLast? <;> simpa [List.getLast?_cons, hlast] using h

theorem bare_unmarked (e : Expr CharSet) :
    (e.map fun s => ({ set := s } : Leaf)).bare = e := by
  unfold bare
  induction e with
  | empty | look | one => rfl
  | group _ e ih | star _ e ih | plus _ e ih => simp only [map, ih]
  | cat a b iha ihb | alt a b iha ihb => simp only [map, iha, ihb]

theorem not_resumes_unmarked (e : Expr CharSet) (p q : Spot) :
    ¬ (e.map fun s => ({ set := s } : Leaf)).resumes p q := by
  induction e generalizing p q with
  | empty | look l => exact id
  | one s => simp [map, resumes]
  | group _ e ih => exact ih p q
  | cat a b iha ihb =>
    rintro (⟨m, h, -⟩ | h)
    · exact iha p m h
    · exact ihb p q h
  | alt a b iha ihb =>
    rintro (h | h)
    · exact iha p q h
    · exact ihb p q h
  | star _ e ih | plus _ e ih =>
    rintro ⟨m, h, -⟩
    exact ih p m h

/-- An expression occurs in a text if a match leads from some place of it to another. -/
theorem occursIn_iff (e : Expr CharSet) (text : List Char) :
    e.occursIn text = true ↔
      ∃ skipped rest q, text = skipped ++ rest ∧ e.leads ⟨skipped.getLast?, rest⟩ q := by
  rw [occursIn, search_iff, bare_unmarked]
  simp only [not_resumes_unmarked, exists_false, false_or, Option.or_none]

end Expr
end Acceptance.Pattern
