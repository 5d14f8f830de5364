import Acceptance.Suite.Record

/-!
Escalation keeps the more severe of two outcomes. What it leaves of many is the first of the most severe
ones, so the status of a feature does not depend on the order of its scenarios.
-/
namespace Acceptance

namespace Outcome

theorem severity_escalate (a b : Outcome) :
    (a.escalate b).severity = max a.severity b.severity := by
  unfold escalate
  split
  · omega
  · omega

theorem escalate_assoc (a b c : Outcome) :
    (a.escalate b).escalate c = a.escalate (b.escalate c) := by
  unfold escalate
  by_cases hab : a.severity < b.severity
  · by_cases hbc : b.severity < c.severity
    · rw [if_pos hab, if_pos hbc, if_pos (Nat.lt_trans hab hbc)]
    · rw [if_pos hab, if_neg hbc, if_pos hab]
  · by_cases hbc : b.severity < c.severity
    · rw [if_neg hab, if_pos hbc]
    · rw [if_neg hab, if_neg hbc, if_neg hab, if_neg (by omega)]

theorem success_escalate (a : Outcome) : success.escalate a = a := by
  cases a <;> rfl

theorem escalate_success (a : Outcome) : a.escalate success = a := if_neg (Nat.not_lt_zero _)

instance : Std.Associative escalate := ⟨escalate_assoc⟩

theorem worst_append (os os' : List Outcome) :
    worst (os ++ os') = (worst os).escalate (worst os') := by
  calc worst (os ++ os') = os'.foldl escalate (worst os) := List.foldl_append
    _ = os'.foldl escalate ((worst os).escalate success) := by rw [escalate_success]
    _ = (worst os).escalate (worst os') := List.foldl_assoc

theorem worst_cons (o : Outcome) (os : List Outcome) : worst (o :: os) = o.escalate (worst os) := by
  have hone : worst [o] = o := success_escalate o
  rw [← List.singleton_append, worst_append, hone]

theorem severity_le_worst {o : Outcome} {os : List Outcome} (h : o ∈ os) :
    o.severity ≤ (worst os).severity := by
  induction os with
  | nil => cases h
  | cons p os ih =>
    rw [worst_cons, severity_escalate]
    rcases List.mem_cons.1 h with rfl | h
    · exact Nat.le_max_left _ _
    · exact Nat.le_trans (ih h) (Nat.le_max_right _ _)

/-- The outcome is the first of the most severe ones. -/
def IsFirstWorst (o : Outcome) (os : List Outcome) : Prop :=
  ∃ before after, os = before ++ o :: after ∧ (∀ p ∈ before, p.severity < o.severity) ∧
    ∀ p ∈ after, p.severity ≤ o.severity

theorem isFirstWorst_worst {os : List Outcome} (h : os ≠ []) : (worst os).IsFirstWorst os := by
  induction os with
  | nil => exact absurd rfl h
  | cons o os ih =>
    rw [worst_cons, escalate]
    split
    next hless =>
      -- a more severe one stands behind `o`
      have hne : os ≠ [] := by
        rintro rfl
        exact absurd hless (Nat.not_lt_zero _)
      obtain ⟨before, after, hos, hbefore, hafter⟩ := ih hne
      exact ⟨o :: before, after, congrArg (o :: ·) hos, List.forall_mem_cons.2 ⟨hless, hbefore⟩, hafter⟩
    next hmost =>
      refine ⟨[], os, rfl, fun p hp => absurd hp List.not_mem_nil, fun p hp => ?_⟩
      exact Nat.le_trans (severity_le_worst hp) (Nat.le_of_not_lt hmost)

theorem worst_mem {os : List Outcome} (h : os ≠ []) : worst os ∈ os := by
  obtain ⟨before, after, hos, -⟩ := isFirstWorst_worst h
  have hmem : worst os ∈ before ++ worst os :: after :=
    List.mem_append_right before List.mem_cons_self
  rwa [← hos] at hmem

theorem worst_mem_cons (os : List Outcome) : worst os ∈ success :: os := by
  cases os with
  | nil => exact List.mem_cons_self
  | cons o os => exact List.mem_cons_of_mem success (worst_mem (List.cons_ne_nil o os))

theorem severity_worst_le {os : List Outcome} {n : Nat} (h : ∀ o ∈ os, o.severity ≤ n) :
    (worst os).severity ≤ n := by
  rcases List.mem_cons.1 (worst_mem_cons os) with hworst | hworst
  · rw [hworst]
    exact Nat.zero_le n
  · exact h _ hworst

theorem worst_eq_success_iff {os : List Outcome} : worst os = success ↔ ∀ o ∈ os, o = success := by
  constructor
  · intro hworst o ho
    have hle := severity_le_worst ho
    rw [hworst] at hle
    cases o with
    | success => rfl
    | notImplemented _ | pending _ | failure _ => exact absurd hle (Nat.not_succ_le_zero _)
  · intro h
    by_cases hos : os = []
    · rw [hos]
      rfl
    · exact h _ (worst_mem hos)

/-- The severity that goes with a status. -/
def rankOf : Status → Nat
  | .failed => 3
  | .pending => 2
  | .undefined => 1
  | .passed | .skipped => 0

theorem severity_eq_rankOf (o : Outcome) : o.severity = rankOf o.status := by
  cases o <;> rfl

/-- What is most severe decides the status. -/
theorem status_worst {o : Outcome} {os : List Outcome} (ho : o ∈ .success :: os)
    (h : ∀ o' ∈ os, o'.severity ≤ o.severity) : (worst os).status = o.status := by
  have hle : o.severity ≤ (worst os).severity := by
    rcases List.mem_cons.1 ho with rfl | ho
    · exact Nat.zero_le _
    · exact severity_le_worst ho
  have hge : (worst os).severity ≤ o.severity := severity_worst_le h
  cases hw : worst os <;> cases o <;> simp_all [severity, status]

/-- The first of some outcomes remains if it is no success and those behind it are no worse than undefined. -/
theorem worst_cons_of_ne_success {a : Outcome} (ha : a ≠ .success) {os : List Outcome}
    (h : ∀ o ∈ os, o.severity ≤ 1) : worst (a :: os) = a := by
  have hsevere : 1 ≤ a.severity := by
    cases a with
    | success => exact absurd rfl ha
    | notImplemented _ | pending _ | failure _ => exact Nat.succ_pos _
  rw [worst_cons, escalate, if_neg (Nat.not_lt_of_le (Nat.le_trans (severity_worst_le h) hsevere))]

theorem worst_cons_success (os : List Outcome) : worst (.success :: os) = worst os := rfl

end Outcome

namespace FeatureRecord
open Outcome

/-- A failure decides the status, then a pending scenario, then an undefined one. -/
theorem status_eq (f : FeatureRecord) : f.status =
    if ∃ s ∈ f.scenarios, s.status = .failed then .failed
    else if ∃ s ∈ f.scenarios, s.status = .pending then .pending
    else if ∃ s ∈ f.scenarios, s.status = .undefined then .undefined
    else .passed := by
  let w := worst (f.scenarios.map (·.outcome))
  change w.status = _
  -- no scenario is worse than `w`, and one is as bad unless `w` is a success
  have habsent (status : Status) (h : rankOf w.status < rankOf status) :
      ¬ ∃ s ∈ f.scenarios, s.status = status := by
    rintro ⟨s, hs, rfl⟩
    have hle : s.outcome.severity ≤ w.severity := severity_le_worst (List.mem_map_of_mem hs)
    rw [severity_eq_rankOf, severity_eq_rankOf] at hle
    exact absurd h (Nat.not_lt_of_le hle)
  have hpresent (h : w ≠ .success) : ∃ s ∈ f.scenarios, s.status = w.status := by
    have hne : f.scenarios.map (·.outcome) ≠ [] := fun hnil => h (congrArg worst hnil)
    obtain ⟨s, hs, hw⟩ := List.mem_map.1 (worst_mem hne)
    exact ⟨s, hs, congrArg Outcome.status hw⟩
  cases hw : w with
  | failure reason =>
    rw [hw] at hpresent
    have hfailed : ∃ s ∈ f.scenarios, s.status = .failed := hpresent Outcome.noConfusion
    rw [if_pos hfailed]
    rfl
  | pending reason =>
    rw [hw] at habsent hpresent
    have hpending : ∃ s ∈ f.scenarios, s.status = .pending := hpresent Outcome.noConfusion
    rw [if_neg (habsent .failed (Nat.lt_add_one 2)), if_pos hpending]
    rfl
  | notImplemented step =>
    rw [hw] at habsent hpresent
    have hundefined : ∃ s ∈ f.scenarios, s.status = .undefined := hpresent Outcome.noConfusion
    rw [if_neg (habsent .failed (Nat.lt_add_of_pos_right Nat.two_pos)),
      if_neg (habsent .pending (Nat.lt_add_one 1)), if_pos hundefined]
    rfl
  | success =>
    rw [hw] at habsent
    rw [if_neg (habsent .failed (Nat.succ_pos 2)), if_neg (habsent .pending (Nat.succ_pos 1)),
      if_neg (habsent .undefined (Nat.succ_pos 0))]
    rfl

theorem status_eq_of_perm {f g : FeatureRecord} (h : f.scenarios.Perm g.scenarios) :
    f.status = g.status := by
  simp only [status_eq, h.mem_iff]

end FeatureRecord

/-- Escalation is a monoid with success as its unit. Of some outcomes it leaves the first of the most severe
ones, so that the status of a feature is that of a failed scenario if there is one, else that of a pending
one, else that of an undefined one, in whatever order they stand. -/
theorem Outcome.escalate_laws :
    (∀ a b c : Outcome, (a.escalate b).escalate c = a.escalate (b.escalate c)) ∧
    (∀ a : Outcome, success.escalate a = a ∧ a.escalate success = a) ∧
    (∀ os : List Outcome, os ≠ [] → (os.foldl escalate success).IsFirstWorst os) ∧
    (∀ os : List Outcome, os.foldl escalate success = success ↔ ∀ o ∈ os, o = success) ∧
    (∀ os os' : List Outcome, (os ++ os').foldl escalate success =
      (os.foldl escalate success).escalate (os'.foldl escalate success)) ∧
    (∀ f : FeatureRecord, f.status =
      if ∃ s ∈ f.scenarios, s.status = .failed then .failed
      else if ∃ s ∈ f.scenarios, s.status = .pending then .pending
      else if ∃ s ∈ f.scenarios, s.status = .undefined then .undefined
      else .passed) ∧
    ∀ f g : FeatureRecord, f.scenarios.Perm g.scenarios → f.status = g.status := by
  refine ⟨escalate_assoc, fun a => ⟨success_escalate a, escalate_success a⟩, ?_, ?_, worst_append,
    FeatureRecord.status_eq, ?_⟩
  · intro os hos
    exact isFirstWorst_worst hos
  · intro os
    exact worst_eq_success_iff
  · intro f g h
    exact FeatureRecord.status_eq_of_perm h

theorem Outcome.escalate_laws_ties :
    let os : List Outcome := [.pending "a", .failure "b", .success, .failure "c"]
    let early : ScenarioRecord := ⟨"f", "early", 2, .pending "a", []⟩
    let late : ScenarioRecord := ⟨"f", "late", 4, .failure "b", []⟩
    os ≠ [] ∧ (os.foldl escalate success).IsFirstWorst os ∧ os.foldl escalate success = .failure "b" ∧
      [early, late].Perm [late, early] ∧
      (⟨"f", [early, late]⟩ : FeatureRecord).status = (⟨"f", [late, early]⟩ : FeatureRecord).status := by
  intro os early late
  obtain ⟨-, -, hfirst, -, -, -, horder⟩ := escalate_laws
  have hne : os ≠ [] := List.cons_ne_nil _ _
  have hperm : [early, late].Perm [late, early] := List.Perm.swap late early []
  exact ⟨hne, hfirst os hne, by decide, hperm, horder ⟨"f", _⟩ ⟨"f", _⟩ hperm⟩

end Acceptance
