import Acceptance.Proofs.Separation
import Acceptance.Proofs.StubCollection
import Mathlib.Algebra.BigOperators.Group.List.Basic
import Mathlib.Data.List.Sort

/-!
Effects of features. If the actions of a registry depend on nothing but their arguments, a feature adds the
same to every suite that runs it, whatever ran before. So the order of features makes no difference but to
the order of their records, and a second run adds to the counters what the first one did.
-/
namespace Acceptance

/-! ### Counters are added -/

namespace Counters

instance : Zero Counters := ⟨{}⟩

instance : Add Counters := ⟨fun c d => ⟨c.total + d.total, c.success + d.success,
  c.failures + d.failures, c.pending + d.pending, c.undefined + d.undefined, c.optout + d.optout⟩⟩

theorem add_def (c d : Counters) : c + d = ⟨c.total + d.total, c.success + d.success,
    c.failures + d.failures, c.pending + d.pending, c.undefined + d.undefined,
    c.optout + d.optout⟩ := rfl

theorem zero_def : (0 : Counters) = {} := rfl

instance : AddCommMonoid Counters where
  add_assoc a b c := by simp only [add_def, Nat.add_assoc]
  zero_add a := by simp only [add_def, zero_def, Nat.zero_add]
  add_zero a := by simp only [add_def, zero_def, Nat.add_zero]
  add_comm a b := by simp only [add_def, Nat.add_comm]
  nsmul := nsmulRec

theorem grow_eq_add (c : Counters) : c.grow = c + grow 0 := rfl

theorem tally_eq_add (c : Counters) (t : Status) : c.tally t = c + tally 0 t := by
  cases t <;> rfl

theorem count_eq_add (c : Counters) (t : Status) : c.count t = c + count 0 t := by
  cases t <;> rfl

end Counters

namespace Stats

instance : Zero Stats := ⟨{}⟩

instance : Add Stats := ⟨fun a b => ⟨a.features + b.features, a.scenarios + b.scenarios, a.steps + b.steps⟩⟩

theorem add_def (a b : Stats) :
    a + b = ⟨a.features + b.features, a.scenarios + b.scenarios, a.steps + b.steps⟩ := rfl

theorem zero_def : (0 : Stats) = ⟨0, 0, 0⟩ := rfl

instance : AddCommMonoid Stats where
  add_assoc a b c := by simp only [add_def, add_assoc]
  zero_add a := by simp only [add_def, zero_def, zero_add]
  add_zero a := by simp only [add_def, zero_def, add_zero]
  add_comm a b := by simp only [add_def, add_comm]
  nsmul := nsmulRec

end Stats

/-! ### What a suite gains -/

/-- How a scenario counts that was run for a feature; one that is undefined does not count for the
feature. -/
def ScenarioRun.gains (run : ScenarioRun) : Stats where
  features := if run.status = .undefined then 0 else Counters.tally 0 run.status
  scenarios := Counters.count 0 run.status
  steps := (run.steps.map fun step => Counters.count 0 step.status).sum

/-- How a feature counts with the runs of its scenarios. -/
def featureGains (runs : List ScenarioRun) : Stats :=
  ⟨Counters.grow 0, 0, 0⟩ + (runs.map (·.gains)).sum

namespace Suite

theorem stats_addSteps (s : Suite) (runs : List StepRun) : (runs.foldl addStep s).stats =
    s.stats + ⟨0, 0, (runs.map fun run => Counters.count 0 run.status).sum⟩ := by
  induction runs generalizing s with
  | nil => simp [Stats.add_def]
  | cons run runs ih =>
    have hstep : (s.addStep run).stats = s.stats + ⟨0, 0, Counters.count 0 run.status⟩ := by
      simp [addStep, countStep, Stats.add_def, Counters.count_eq_add s.stats.steps]
    rw [List.foldl_cons, ih, hstep, add_assoc, List.map_cons, List.sum_cons]
    simp [Stats.add_def]

theorem stats_addScenario (s : Suite) (name : String) (run : ScenarioRun) :
    ((s.addScenario name run).tallyFeature run.status).stats = s.stats + run.gains := by
  have hscenario : (s.addScenario name run).stats =
      s.stats + ⟨0, Counters.count 0 run.status, run.gains.steps⟩ := by
    have hcount : (s.addScenario name run).stats =
        (run.steps.foldl addStep s).stats + ⟨0, Counters.count 0 run.status, 0⟩ := by
      simp [addScenario, Stats.add_def, ← Counters.count_eq_add]
    rw [hcount, stats_addSteps, add_assoc]
    simp [Stats.add_def, ScenarioRun.gains]
  rw [tallyFeature]
  split
  next h => rw [hscenario, ScenarioRun.gains, if_pos h]
  next h =>
    rw [hscenario, ScenarioRun.gains, if_neg h]
    simp [Stats.add_def, ← Counters.tally_eq_add]

theorem stats_addFeature (s : Suite) (name : String) (runs : List ScenarioRun) :
    (s.addFeature name runs).stats = s.stats + featureGains runs := by
  induction runs using List.reverseRecOn with
  | nil => simp [addFeature, beginFeature, featureGains, Stats.add_def, ← Counters.grow_eq_add]
  | append_singleton runs run ih =>
    rw [addFeature_concat, stats_addScenario, ih, featureGains, featureGains, List.map_append,
      List.sum_append, List.map_singleton, List.sum_singleton]
    simp only [add_assoc]

theorem config_addSteps (s : Suite) (runs : List StepRun) :
    (runs.foldl addStep s).config = s.config := by
  induction runs generalizing s with
  | nil => rfl
  | cons run runs ih => exact ih (s.addStep run)

theorem kept_config (config : Config) : Kept fun s => s.config = config := by
  refine ⟨fun s status h => h, fun s name run h => ?_, fun s name h => h, fun s status h => ?_⟩
  · exact (s.config_addSteps run.steps).trans h
  · rw [tallyFeature]
    split <;> exact h

/-- Lists of stubs in ascending order are the same if they have the same members. -/
theorem Ascending.eq_of_mem_iff {texts texts' : List String} (h : Ascending texts)
    (h' : Ascending texts') (hmem : ∀ x, x ∈ texts ↔ x ∈ texts') : texts = texts' :=
  List.Pairwise.eq_of_mem_iff h h' hmem

end Suite

/-! ### Registries with the same definitions -/

namespace Registry

variable {σ : Type}

/-- The registries have the same definitions, of which others may be used. -/
def Alike (r r' : Registry σ) : Prop := r'.definitions.map unmark = r.definitions.map unmark

theorem eq_of_unmark_eq {d e : Definition σ} (h : unmark d = unmark e) (hused : d.used = e.used) :
    d = e := by
  obtain ⟨keyword, pattern, action, used⟩ := d
  obtain ⟨keyword', pattern', action', used'⟩ := e
  simp only [unmark, Definition.mk.injEq, and_true] at h
  obtain ⟨rfl, rfl, rfl⟩ := h
  obtain rfl : used = used' := hused
  rfl

theorem definitions_eq_of_marked {r r' : Registry σ} (h : r.Alike r')
    (hmarked : ∀ n, History.Marked r' n ↔ History.Marked r n) : r'.definitions = r.definitions := by
  refine List.ext_getElem? fun n => ?_
  have hn := congrArg (·[n]?) h
  have hused := hmarked n
  simp only [List.getElem?_map] at hn
  rw [History.Marked, History.Marked] at hused
  cases hd : r.definitions[n]? with
  | none =>
    rw [hd] at hn
    exact Option.map_eq_none_iff.1 hn
  | some d =>
    rw [hd] at hn hused
    obtain ⟨d', hd', hunmark⟩ := Option.map_eq_some_iff.1 hn
    rw [hd', Option.map_some, Option.map_some, Option.some.injEq, Option.some.injEq,
      ← Bool.eq_iff_iff] at hused
    rw [hd', eq_of_unmark_eq hunmark hused]

end Registry

/-! ### The effect of a feature -/

/-- What the run of a feature adds to a suite, which definitions it uses, and what a suite says of it that is
strict or is not. -/
structure Effect where
  gains : Stats
  stubs : List String
  record : FeatureRecord
  uses : Set Nat
  verdict : Bool → Except SuiteError Unit

variable {σ : Type}

/-- A feature that was run in a suite, against a registry, had the effect and no other one. -/
structure Effect.Of (e : Effect) (s : Suite) (r : Registry σ)
    (ran : Suite × Run σ (Except SuiteError Unit)) : Prop where
  config : ran.1.config = s.config
  stats : ran.1.stats = s.stats + e.gains
  snippets : ∀ x, x ∈ ran.1.snippets ↔ x ∈ s.snippets ∨ x ∈ e.stubs
  ascending : Suite.Ascending s.snippets → Suite.Ascending ran.1.snippets
  records : ran.1.records = s.records ++ [e.record]
  alike : r.Alike ran.2.registry
  used : ∀ n, History.Marked ran.2.registry n ↔ History.Marked r n ∨ n ∈ e.uses
  value : ran.2.value = e.verdict s.config.strict

/-- The numbers of the definitions that the steps of a feature select. -/
def Registry.selected (r : Registry σ) (feature : Feature) : Set Nat :=
  { n | ∃ text optOut, .find text optOut ∈ Sharing.findsOfScenarios r feature.scenarios ∧
    ∃ d, History.First r.definitions text n d }

/-- The effect of a feature where the registry gives the answers. -/
def Registry.effect (r : Registry σ) (f : Answers) (feature : Feature) : Effect :=
  let runs := feature.scenarios.map f.runScenario
  { gains := featureGains runs
    stubs := (runs.flatMap (·.steps)).filterMap (·.snippet?)
    record := ⟨feature.name, runs.map (·.record feature.name)⟩
    uses := r.selected feature
    verdict := fun strict => Suite.verdict strict feature.name runs }

theorem Registry.effect_of {r r' : Registry σ} {f : Answers} (h : r.Gives f) (halike : r.Alike r')
    (s : Suite) (feature : Feature) :
    (r.effect f feature).Of s r' (s.testFeature r' feature) := by
  have h' : r'.Gives f := gives_of_unmark_eq h halike
  obtain ⟨hruns, -⟩ := h'.runScenarios feature.scenarios
  have hsuite : (s.testFeature r' feature).1 =
      s.addFeature feature.name (feature.scenarios.map f.runScenario) := by
    rw [← hruns]
    rfl
  have hregistry : (s.testFeature r' feature).2.registry =
      (r'.accesses (Sharing.findsOfScenarios r feature.scenarios)).registry := by
    rw [Sharing.findsOfScenarios_congr h h']
    exact (Sharing.does_testFeature s r' feature).registry
  have haccepted := Sharing.accepted_findsOfScenarios r feature.scenarios
  refine {
    config := ?_
    stats := ?_
    snippets := fun x => ?_
    ascending := fun hascending => ?_
    records := ?_
    alike := ?_
    used := fun n => ?_
    value := ?_ }
  · rw [hsuite]
    exact (Suite.kept_config s.config).addFeature rfl _ _
  · rw [hsuite]
    exact s.stats_addFeature _ _
  · rw [hsuite, Suite.mem_snippets_addFeature]
    simp only [effect, List.mem_filterMap]
  · rw [hsuite]
    exact Suite.kept_ascending.addFeature hascending _ _
  · rw [hsuite]
    exact s.records_addFeature _ _
  · rw [Alike, hregistry, History.unmark_accesses, haccepted, List.append_nil]
  · rw [hregistry, Sharing.marked_accesses haccepted]
    simp only [History.exists_first_iff halike]
    rfl
  · have hverdict : (s.testFeature r' feature).2.value = Suite.verdict s.config.strict feature.name
        (r'.runScenarios feature.scenarios).value := rfl
    rw [hverdict, hruns]
    rfl

/-! ### Features one after the other -/

namespace Session

/-- What runs of features have left behind, if their effects were these. -/
structure Left (s t : Session σ) (effects : List Effect) : Prop where
  stats : t.stats = s.stats + (effects.map (·.gains)).sum
  snippets : ∀ x, x ∈ t.suite.snippets ↔ x ∈ s.suite.snippets ∨ ∃ e ∈ effects, x ∈ e.stubs
  ascending : Suite.Ascending s.suite.snippets → Suite.Ascending t.suite.snippets
  records : t.records = s.records ++ effects.map (·.record)
  alike : s.registry.Alike t.registry
  used : ∀ n, History.Marked t.registry n ↔ History.Marked s.registry n ∨ ∃ e ∈ effects, n ∈ e.uses

theorem left_nil (s : Session σ) : s.Left s [] where
  stats := by simp
  snippets := by simp
  ascending := id
  records := by simp
  alike := rfl
  used := by simp

theorem Left.trans {s t u : Session σ} {effects more : List Effect} (h : s.Left t effects)
    (h' : t.Left u more) : s.Left u (effects ++ more) where
  stats := by rw [h'.stats, h.stats, List.map_append, List.sum_append, add_assoc]
  snippets x := by
    rw [h'.snippets, h.snippets, or_assoc]
    simp only [List.mem_append, or_and_right, exists_or]
  ascending hascending := h'.ascending (h.ascending hascending)
  records := by rw [h'.records, h.records, List.map_append, List.append_assoc]
  alike := h'.alike.trans h.alike
  used n := by
    rw [h'.used, h.used, or_assoc]
    simp only [List.mem_append, or_and_right, exists_or]

theorem left_feature {s : Session σ} {feature : Feature} {e : Effect}
    (h : e.Of s.suite s.registry (s.suite.testFeature s.registry feature)) :
    s.Left (s.call (.feature feature)) [e] where
  stats := by
    rw [List.map_singleton, List.sum_singleton]
    exact h.stats
  snippets x := by
    simp only [List.mem_singleton, exists_eq_left]
    exact h.snippets x
  ascending := h.ascending
  records := h.records
  alike := h.alike
  used n := by
    simp only [List.mem_singleton, exists_eq_left]
    exact h.used n

theorem left_features {r : Registry σ} {f : Answers} (h : r.Gives f) {s : Session σ}
    (halike : r.Alike s.registry) (features : List Feature) :
    s.Left (s.run (features.map .feature)) (features.map (r.effect f)) := by
  induction features generalizing s with
  | nil => exact left_nil s
  | cons feature features ih =>
    have hfirst := left_feature (Registry.effect_of h halike s.suite feature)
    exact hfirst.trans (ih (hfirst.alike.trans halike))

/-- The sessions differ in nothing but the order of what they recorded. -/
structure SameButOrder (s t : Session σ) : Prop where
  stats : s.stats = t.stats
  summary : s.suite.summary = t.suite.summary
  snippets : s.suite.snippetText = t.suite.snippetText
  used : s.registry.definitions.map (·.used) = t.registry.definitions.map (·.used)

/-- The same effects in another order leave the same behind. -/
theorem Left.sameButOrder {s t u : Session σ} {effects effects' : List Effect} (h : s.Left t effects)
    (h' : s.Left u effects') (hperm : effects.Perm effects')
    (hascending : Suite.Ascending s.suite.snippets) : t.SameButOrder u := by
  have hstats : t.stats = u.stats := by
    rw [h.stats, h'.stats, (hperm.map (·.gains)).sum_eq]
  have hsnippets : t.suite.snippets = u.suite.snippets := by
    refine (h.ascending hascending).eq_of_mem_iff (h'.ascending hascending) fun x => ?_
    simp only [h.snippets, h'.snippets, hperm.mem_iff]
  have hdefinitions : t.registry.definitions = u.registry.definitions := by
    refine Registry.definitions_eq_of_marked (h.alike.trans h'.alike.symm) fun n => ?_
    simp only [h.used, h'.used, hperm.mem_iff]
  refine ⟨hstats, ?_, ?_, ?_⟩
  · have hstats : t.suite.stats = u.suite.stats := hstats
    rw [Suite.summary, Suite.summary, hstats]
  · rw [Suite.snippetText, Suite.snippetText, hsnippets]
  · rw [hdefinitions]

/-- A second time, effects leave no new stub. -/
theorem Left.snippets_again {s t u : Session σ} {effects : List Effect} (h : s.Left t effects)
    (h' : t.Left u effects) (hascending : Suite.Ascending s.suite.snippets) :
    u.suite.snippets = t.suite.snippets := by
  have ht := h.ascending hascending
  refine (h'.ascending ht).eq_of_mem_iff ht fun x => ?_
  rw [h'.snippets, h.snippets, or_assoc, or_self]

/-- What a feature does to a suite does not depend on what ran before, if the actions of the registry depend
on nothing but their arguments. So features in another order leave the same counters, summary, stubs and
used definitions, with their records in that order, and when they are run once more the counters gain the
same and there is no new stub. -/
theorem effects_features (r : Registry σ) (h : r.Steady) : ∃ effect : Feature → Effect,
    (∀ (s : Suite) (r' : Registry σ) (feature : Feature), r.Alike r' →
      (effect feature).Of s r' (s.testFeature r' feature)) ∧
    ∀ s : Session σ, r.Alike s.registry → Suite.Ascending s.suite.snippets →
      ∀ features features' : List Feature, features.Perm features' →
        let one := s.run (features.map .feature)
        let other := s.run (features'.map .feature)
        let again := one.run (features.map .feature)
        let gains := (features.map fun feature => (effect feature).gains).sum
        one.SameButOrder other ∧
          one.records = s.records ++ (features.map fun feature => (effect feature).record) ∧
          other.records = s.records ++ (features'.map fun feature => (effect feature).record) ∧
          one.stats = s.stats + gains ∧ again.stats = one.stats + gains ∧
          again.suite.snippets = one.suite.snippets := by
  obtain ⟨f, hf⟩ := h.exists_gives
  refine ⟨r.effect f, fun s r' feature halike => Registry.effect_of hf halike s feature, ?_⟩
  intro s halike hascending features features' hperm one other again gains
  have hone : s.Left one (features.map (r.effect f)) := left_features hf halike features
  have hother : s.Left other (features'.map (r.effect f)) := left_features hf halike features'
  have hagain : one.Left again (features.map (r.effect f)) :=
    left_features hf (hone.alike.trans halike) features
  have hgains : gains = ((features.map (r.effect f)).map (·.gains)).sum := by
    rw [List.map_map]
    rfl
  refine ⟨hone.sameButOrder hother (hperm.map _) hascending, ?_, ?_, ?_, ?_, ?_⟩
  · rw [hone.records, List.map_map]
    rfl
  · rw [hother.records, List.map_map]
    rfl
  · rw [hone.stats, hgains]
  · rw [hagain.stats, hgains]
  · exact hone.snippets_again hagain hascending

theorem effects_features_counting :
    let r := Sharing.countingRegistry
    let first : Scenario := ⟨"first", [⟨.Given, "x", 2⟩, ⟨.When, "\"1\"", 3⟩, ⟨.Then, "x", 4⟩], 1⟩
    let second : Scenario := ⟨"second", [⟨.Given, "y", 6⟩, ⟨.But, "\"2\"", 7⟩], 5⟩
    let a : Feature := { name := "a", scenarios := [first, second] }
    let b : Feature := { name := "b", scenarios := [second] }
    let s : Session Nat :=
      { suite := { config := { strict := true }, snippets := ["z"], records := [⟨"b", []⟩] }
        registry := { r with state := 5 } }
    let one := s.run [.feature a, .feature b]
    let other := s.run [.feature b, .feature a]
    r.Steady ∧ r.Alike s.registry ∧ Suite.Ascending s.suite.snippets ∧
      [a, b].Perm [b, a] ∧ one.SameButOrder other ∧ one.records ≠ other.records ∧
      one.suite.snippets.length = 3 ∧
      (one.run [.feature a, .feature b]).suite.snippets = one.suite.snippets ∧
      ∃ e : Effect, e.Of s.suite s.registry (s.suite.testFeature s.registry a) ∧
        e.Of other.suite s.registry (other.suite.testFeature s.registry a) := by
  intro r first second a b s one other
  have hascending : Suite.Ascending s.suite.snippets := List.pairwise_singleton _ "z"
  obtain ⟨effect, heffect, hruns⟩ := effects_features r Sharing.steady_countingRegistry
  obtain ⟨hsame, -, -, -, -, hagain⟩ := hruns s rfl hascending [a, b] [b, a] (.swap b a [])
  exact ⟨Sharing.steady_countingRegistry, rfl, hascending, .swap b a [], hsame, by decide +kernel,
    by decide +kernel, hagain, effect a, heffect s.suite s.registry a rfl,
    heffect other.suite s.registry a rfl⟩

end Session

end Acceptance
