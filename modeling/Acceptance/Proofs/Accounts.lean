import Acceptance.Suite.Basic
import Mathlib.Data.List.Induction

/-!
The counters of a suite and its records tell the same, whichever steps, scenarios and features it runs
in whichever order, and no counter ever decreases.
-/
namespace Acceptance

namespace Counters

/-- The counter for a status. -/
def of (c : Counters) : Status → Nat
  | .passed => c.success
  | .failed => c.failures
  | .pending => c.pending
  | .undefined => c.undefined
  | .skipped => c.optout

/-- No counter is higher than that of the same name on the other side. -/
instance : LE Counters := ⟨fun c d => c.total ≤ d.total ∧ c.success ≤ d.success ∧
  c.failures ≤ d.failures ∧ c.pending ≤ d.pending ∧ c.undefined ≤ d.undefined ∧ c.optout ≤ d.optout⟩

theorem le_refl (c : Counters) : c ≤ c := by
  refine ⟨?_, ?_, ?_, ?_, ?_, ?_⟩ <;> exact Nat.le_refl _

theorem le_trans {c d e : Counters} (h : c ≤ d) (h' : d ≤ e) : c ≤ e := by
  obtain ⟨h₀, h₁, h₂, h₃, h₄, h₅⟩ := h
  obtain ⟨h₀', h₁', h₂', h₃', h₄', h₅'⟩ := h'
  refine ⟨?_, ?_, ?_, ?_, ?_, ?_⟩ <;> exact Nat.le_trans ‹_› ‹_›

theorem le_grow (c : Counters) : c ≤ c.grow := by
  refine ⟨?_, ?_, ?_, ?_, ?_, ?_⟩ <;> simp [grow]

theorem le_tally (c : Counters) (s : Status) : c ≤ c.tally s := by
  cases s <;> refine ⟨?_, ?_, ?_, ?_, ?_, ?_⟩ <;> simp [tally]

theorem le_count (c : Counters) (s : Status) : c ≤ c.count s :=
  le_trans c.le_grow (c.grow.le_tally s)

@[simp] theorem total_tally (c : Counters) (s : Status) : (c.tally s).total = c.total := by
  cases s <;> rfl

theorem of_tally (c : Counters) (s t : Status) : (c.tally s).of t = c.of t + [s].count t := by
  cases s <;> cases t <;> rfl

/-- `n` things have been counted, and the statuses in the list have been told of them. -/
structure Counts (c : Counters) (n : Nat) (told : List Status) : Prop where
  total : c.total = n
  of : ∀ s, c.of s = told.count s

variable {c : Counters} {n : Nat} {told : List Status}

theorem counts_zero : ({} : Counters).Counts 0 [] :=
  ⟨rfl, fun s => by cases s <;> rfl⟩

theorem Counts.grow (h : c.Counts n told) : c.grow.Counts (n + 1) told := by
  refine ⟨?_, fun s => ?_⟩
  · rw [Counters.grow, h.total]
  · rw [← h.of s]
    cases s <;> rfl

theorem Counts.tally (h : c.Counts n told) (s : Status) : (c.tally s).Counts n (told ++ [s]) := by
  refine ⟨?_, fun t => ?_⟩
  · rw [total_tally, h.total]
  · rw [of_tally, h.of, List.count_append]

theorem Counts.count (h : c.Counts n told) (s : Status) : (c.count s).Counts (n + 1) (told ++ [s]) :=
  h.grow.tally s

theorem Counts.count_all (h : c.Counts told.length told) (s : Status) :
    (c.count s).Counts (told ++ [s]).length (told ++ [s]) := by
  rw [List.length_append]
  exact h.count s

theorem Counts.perm (h : c.Counts n told) {told' : List Status} (hp : told.Perm told') :
    c.Counts n told' :=
  ⟨h.total, fun s => (h.of s).trans (hp.count_eq s)⟩

theorem length_eq_sum_count (told : List Status) :
    told.length = told.count .passed + told.count .failed + told.count .pending +
      told.count .undefined + told.count .skipped := by
  induction told with
  | nil => rfl
  | cons s told ih =>
    rw [List.length_cons, ih]
    cases s <;> simp <;> omega

/-- If every thing counted has told its status, the total is the sum of the other counters. -/
theorem Counts.total_eq_sum (h : c.Counts told.length told) :
    c.total = c.success + c.failures + c.pending + c.undefined + c.optout := by
  rw [h.total, length_eq_sum_count, ← h.of, ← h.of, ← h.of, ← h.of, ← h.of]
  rfl

end Counters

namespace Stats

/-- No counter of any level is higher than on the other side. -/
instance : LE Stats :=
  ⟨fun a b => a.features ≤ b.features ∧ a.scenarios ≤ b.scenarios ∧ a.steps ≤ b.steps⟩

theorem le_refl (a : Stats) : a ≤ a :=
  ⟨a.features.le_refl, a.scenarios.le_refl, a.steps.le_refl⟩

theorem le_trans {a b c : Stats} (h : a ≤ b) (h' : b ≤ c) : a ≤ c := by
  obtain ⟨hf, hsc, hst⟩ := h
  obtain ⟨hf', hsc', hst'⟩ := h'
  exact ⟨Counters.le_trans hf hf', Counters.le_trans hsc hsc', Counters.le_trans hst hst'⟩

end Stats

/-- The records of the scenarios of all features. -/
def scenarioRecords (fs : List FeatureRecord) : List ScenarioRecord := fs.flatMap (·.scenarios)

/-- The records of the steps of all scenarios. -/
def stepRecords (fs : List FeatureRecord) : List StepRecord := (scenarioRecords fs).flatMap (·.steps)

theorem scenarioRecords_file (r : ScenarioRecord) (fs : List FeatureRecord) :
    scenarioRecords (FeatureRecord.file r fs) = scenarioRecords fs ++ [r] := by
  unfold scenarioRecords
  induction fs with
  | nil => rfl
  | cons f fs ih =>
    cases fs with
    | nil =>
      rw [FeatureRecord.file]
      split <;> simp
    | cons g gs =>
      have hfile : FeatureRecord.file r (f :: g :: gs) = f :: FeatureRecord.file r (g :: gs) := rfl
      rw [hfile, List.flatMap_cons, ih, ← List.append_assoc, ← List.flatMap_cons]

theorem FeatureRecord.file_append (r : ScenarioRecord) (fs : List FeatureRecord)
    {gs : List FeatureRecord} (h : gs ≠ []) : file r (fs ++ gs) = fs ++ file r gs := by
  induction fs with
  | nil => rfl
  | cons f fs ih =>
    obtain ⟨g, gs', hcons⟩ := List.exists_cons_of_ne_nil (List.append_ne_nil_of_right_ne_nil fs h)
    have hfile : file r (f :: (fs ++ gs)) = f :: file r (fs ++ gs) := by
      rw [hcons]
      rfl
    rw [List.cons_append, hfile, ih, List.cons_append]

theorem Outcome.status_ne_skipped (o : Outcome) : o.status ≠ .skipped := by
  cases o <;> simp [status]

namespace Suite
open Counters

/-- A feature is taken into account scenario by scenario. -/
theorem addFeature_concat (s : Suite) (name : String) (runs : List ScenarioRun) (run : ScenarioRun) :
    s.addFeature name (runs ++ [run]) =
      ((s.addFeature name runs).addScenario name run).tallyFeature run.status := by
  rw [addFeature, List.foldl_append]
  rfl

/-- The property is kept by whatever a suite does to take something into account. -/
structure Kept (P : Suite → Prop) : Prop where
  countStep : ∀ s status, P s → P (s.countStep status)
  addScenario : ∀ s name run, P s → P (s.addScenario name run)
  beginFeature : ∀ s name, P s → P (s.beginFeature name)
  tallyFeature : ∀ s status, P s → P (s.tallyFeature status)

theorem Kept.addFeature {P : Suite → Prop} (h : Kept P) {s : Suite} (hs : P s) (name : String)
    (runs : List ScenarioRun) : P (s.addFeature name runs) := by
  induction runs using List.reverseRecOn with
  | nil => exact h.beginFeature s name hs
  | append_singleton runs run ih =>
    rw [addFeature_concat]
    exact h.tallyFeature _ run.status (h.addScenario _ name run ih)

/-! What the records become. -/

theorem records_addSteps (s : Suite) (runs : List StepRun) :
    (runs.foldl addStep s).records = s.records := by
  induction runs generalizing s with
  | nil => rfl
  | cons run runs ih => exact ih (s.addStep run)

theorem records_addScenario (s : Suite) (name : String) (run : ScenarioRun) :
    (s.addScenario name run).records = FeatureRecord.file (run.record name) s.records :=
  congrArg _ (s.records_addSteps run.steps)

theorem records_tallyFeature (s : Suite) (status : Status) :
    (s.tallyFeature status).records = s.records := by
  rw [tallyFeature]
  split <;> rfl

/-- A feature has one record, behind all others, with all its scenarios. -/
theorem records_addFeature (s : Suite) (name : String) (runs : List ScenarioRun) :
    (s.addFeature name runs).records = s.records ++ [⟨name, runs.map (·.record name)⟩] := by
  induction runs using List.reverseRecOn with
  | nil => rfl
  | append_singleton runs run ih =>
    -- the last record is that of the feature, so the scenario joins it
    have hjoins : FeatureRecord.file (run.record name) [⟨name, runs.map (·.record name)⟩] =
        [⟨name, runs.map (·.record name) ++ [run.record name]⟩] := if_pos rfl
    rw [addFeature_concat, records_tallyFeature, records_addScenario, ih,
      FeatureRecord.file_append _ _ (List.cons_ne_nil _ _), hjoins, List.map_append]
    rfl

/-! What the counters become. -/

/-- The counters of a suite agree with its records, with the statuses of the steps that were run
directly, with the number of features and with the statuses of the scenarios run for them. -/
structure Agrees (s : Suite) (direct : List Status) (features : Nat) (ran : List Status) : Prop where
  steps : s.stats.steps.Counts ((stepRecords s.records).map (·.status) ++ direct).length
    ((stepRecords s.records).map (·.status) ++ direct)
  scenarios : s.stats.scenarios.Counts (scenarioRecords s.records).length
    ((scenarioRecords s.records).map (·.status))
  features : s.stats.features.Counts features (ran.filter (· ≠ .undefined))

variable {s : Suite} {direct ran : List Status} {features : Nat}

theorem agrees_fresh (config : Config) : Agrees { config } [] 0 [] :=
  ⟨counts_zero, counts_zero, counts_zero⟩

theorem agrees_countStep (h : s.Agrees direct features ran) (status : Status) :
    (s.countStep status).Agrees (direct ++ [status]) features ran := by
  refine ⟨?_, h.scenarios, h.features⟩
  have hcount := h.steps.count_all status
  rwa [List.append_assoc] at hcount

theorem agrees_addStep (h : s.Agrees direct features ran) (run : StepRun) :
    (s.addStep run).Agrees (direct ++ [run.status]) features ran := by
  obtain ⟨hsteps, hscenarios, hfeatures⟩ := agrees_countStep h run.status
  exact ⟨hsteps, hscenarios, hfeatures⟩

/-- While the steps of a scenario have no record yet, they are as if run directly. -/
theorem agrees_addSteps (h : s.Agrees direct features ran) (runs : List StepRun) :
    (runs.foldl addStep s).Agrees (direct ++ runs.map (·.status)) features ran := by
  induction runs generalizing s direct with
  | nil => rwa [List.map_nil, List.append_nil]
  | cons run runs ih =>
    have hrest := ih (agrees_addStep h run)
    rwa [List.append_assoc] at hrest

theorem agrees_addScenario (h : s.Agrees direct features ran) (name : String) (run : ScenarioRun) :
    (s.addScenario name run).Agrees direct features ran := by
  -- The statuses of the steps move from the end of the direct ones to the end of the recorded ones.
  have hrun := agrees_addSteps h run.steps
  rw [addScenario]
  generalize run.steps.foldl addStep s = s' at hrun ⊢
  have hsteps : (stepRecords (FeatureRecord.file (run.record name) s'.records)).map (·.status) =
      (stepRecords s'.records).map (·.status) ++ run.steps.map (·.status) := by
    rw [stepRecords, scenarioRecords_file, List.flatMap_append, List.map_append, ← stepRecords]
    simp [ScenarioRun.record, StepRun.record]
  have hperm : ((stepRecords s'.records).map (·.status) ++ (direct ++ run.steps.map (·.status))).Perm
      ((stepRecords s'.records).map (·.status) ++ run.steps.map (·.status) ++ direct) := by
    rw [List.append_assoc]
    exact List.perm_append_comm.append_left _
  refine ⟨?_, ?_, hrun.features⟩
  · have hcount := hrun.steps.perm hperm
    rw [hperm.length_eq] at hcount
    simp only [hsteps]
    exact hcount
  · have hcount := hrun.scenarios.count run.status
    simp only [scenarioRecords_file, List.length_append, List.map_append]
    exact hcount

theorem agrees_beginFeature (h : s.Agrees direct features ran) (name : String) :
    (s.beginFeature name).Agrees direct (features + 1) ran := by
  have hrecords : scenarioRecords (s.records ++ [⟨name, []⟩]) = scenarioRecords s.records := by
    simp [scenarioRecords]
  refine ⟨?_, ?_, h.features.grow⟩
  · simp only [beginFeature, stepRecords, hrecords]
    exact h.steps
  · simp only [beginFeature, hrecords]
    exact h.scenarios

theorem agrees_tallyFeature (h : s.Agrees direct features ran) (status : Status) :
    (s.tallyFeature status).Agrees direct features (ran ++ [status]) := by
  rw [tallyFeature]
  by_cases hundefined : status = .undefined
  · rw [if_pos hundefined]
    refine ⟨h.steps, h.scenarios, ?_⟩
    have hfilter : (ran ++ [status]).filter (· ≠ .undefined) = ran.filter (· ≠ .undefined) := by
      simp [hundefined]
    rw [hfilter]
    exact h.features
  · rw [if_neg hundefined]
    refine ⟨h.steps, h.scenarios, ?_⟩
    have hfilter : (ran ++ [status]).filter (· ≠ .undefined) =
        ran.filter (· ≠ .undefined) ++ [status] := by
      simp [hundefined]
    rw [hfilter]
    exact h.features.tally status

theorem agrees_addFeature (h : s.Agrees direct features ran) (name : String)
    (runs : List ScenarioRun) :
    (s.addFeature name runs).Agrees direct (features + 1) (ran ++ runs.map (·.status)) := by
  induction runs using List.reverseRecOn with
  | nil =>
    rw [List.map_nil, List.append_nil]
    exact agrees_beginFeature h name
  | append_singleton runs run ih =>
    rw [addFeature_concat, List.map_append, ← List.append_assoc]
    exact agrees_tallyFeature (agrees_addScenario ih name run) run.status

theorem le_countStep (s : Suite) (status : Status) : s.stats ≤ (s.countStep status).stats :=
  ⟨le_refl _, le_refl _, le_count _ status⟩

theorem le_addSteps (s : Suite) (runs : List StepRun) : s.stats ≤ (runs.foldl addStep s).stats := by
  induction runs generalizing s with
  | nil => exact s.stats.le_refl
  | cons run runs ih => exact Stats.le_trans (s.le_countStep run.status) (ih (s.addStep run))

theorem le_addScenario (s : Suite) (name : String) (run : ScenarioRun) :
    s.stats ≤ (s.addScenario name run).stats :=
  Stats.le_trans (s.le_addSteps run.steps) ⟨le_refl _, le_count _ run.status, le_refl _⟩

theorem le_tallyFeature (s : Suite) (status : Status) : s.stats ≤ (s.tallyFeature status).stats := by
  rw [tallyFeature]
  split
  · exact s.stats.le_refl
  · exact ⟨le_tally _ status, le_refl _, le_refl _⟩

theorem le_beginFeature (s : Suite) (name : String) : s.stats ≤ (s.beginFeature name).stats :=
  ⟨le_grow _, le_refl _, le_refl _⟩

/-- No counter ever decreases. -/
theorem kept_le (stats : Stats) : Kept fun s => stats ≤ s.stats :=
  ⟨fun s status h => Stats.le_trans h (s.le_countStep status),
    fun s name run h => Stats.le_trans h (s.le_addScenario name run),
    fun s name h => Stats.le_trans h (s.le_beginFeature name),
    fun s status h => Stats.le_trans h (s.le_tallyFeature status)⟩

end Suite
end Acceptance
