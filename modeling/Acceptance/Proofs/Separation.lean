import Acceptance.Proofs.Sharing
import Acceptance.Proofs.Strictness

/-!
Suites that share a registry whose actions depend on nothing but their arguments do not influence each
other. Each gets and keeps what it would if it were alone with the registry, and all that they leave behind
together is which definitions are used.
-/
namespace Acceptance

variable {σ : Type}

/-- What a use of a registry gives back. -/
inductive Returned where
  | outcome (o : Outcome)
  | verdict (v : Except SuiteError Unit)
  | found (m : Match)

def Suite.returned (s : Suite) (r : Registry σ) : Call → Returned
  | .step step optOut => .outcome (s.testStep r step optOut).2.value
  | .scenario featureName scenario => .outcome (s.testScenario r featureName scenario).2.value
  | .feature f => .verdict (s.testFeature r f).2.value
  | .test f => .verdict (s.test r f).2.value

/-- A request that leaves the definitions as they are, so that it can be made while a registry is
shared. -/
inductive Use where
  | find (text : String) (optOut : Bool)
  | call (suite : Nat) (call : Call)

namespace Use

def request : Use → Request σ
  | find text optOut => .direct (.find text optOut)
  | call i c => .call i c

/-- The suite that makes the use of the registry, unless it is made directly. -/
def suite? : Use → Option Nat
  | find _ _ => none
  | call i _ => some i

def returned (suites : Nat → Suite) (r : Registry σ) : Use → Returned
  | find text optOut => .found (r.find text optOut).value
  | call i c => (suites i).returned r c

end Use

namespace Sharing

/-- The suites and the registry after uses that are made one after the other. -/
def after (suites : Nat → Suite) (r : Registry σ) (uses : List Use) : Run σ (Nat → Suite) :=
  asks suites r (uses.map Use.request)

/-- What each of the uses gives back. -/
def returns (suites : Nat → Suite) (r : Registry σ) : List Use → List Returned
  | [] => []
  | u :: more =>
    let next := ask suites r u.request
    u.returned suites r :: returns next.value next.registry more

/-- The uses that a suite makes, or those that are made directly. -/
def only (party : Option Nat) (uses : List Use) : List Use := uses.filter (·.suite? = party)

/-- What the uses of one party give back when all are made. -/
def returnsTo (party : Option Nat) (suites : Nat → Suite) (r : Registry σ) (uses : List Use) :
    List Returned :=
  ((uses.zip (returns suites r uses)).filter (·.1.suite? = party)).map Prod.snd

/-- Every party gets the same, and every suite ends up the same, as when no other party uses the
registry. A definition is used just if it was so before or is so after the uses of some party alone. -/
structure Separate (suites : Nat → Suite) (r : Registry σ) (uses : List Use) : Prop where
  gets : ∀ party, returnsTo party suites r uses = returns suites r (only party uses)
  keeps : ∀ i, (after suites r uses).value i = (after suites r (only (some i) uses)).value i
  used : ∀ n, History.Marked (after suites r uses).registry n ↔
    History.Marked r n ∨ ∃ party, History.Marked (after suites r (only party uses)).registry n

/-! What uses ask of the registry. -/

theorem accepted_findsOfSteps (r : Registry σ) (optOut : Bool) (steps : List Step) :
    History.accepted (findsOfSteps r optOut steps) = [] := by
  induction steps generalizing r optOut with
  | nil => rfl
  | cons step steps ih => exact ih _ _

theorem accepted_findsOfScenarios (r : Registry σ) (scenarios : List Scenario) :
    History.accepted (findsOfScenarios r scenarios) = [] := by
  induction scenarios generalizing r with
  | nil => rfl
  | cons scenario scenarios ih =>
    rw [findsOfScenarios, History.accepted, List.filterMap_append]
    exact List.append_eq_nil_iff.2 ⟨accepted_findsOfSteps r false scenario.steps, ih _⟩

/-- No use registers anything. -/
theorem accepted_accessesOf (r : Registry σ) (u : Use) :
    History.accepted (accessesOf r u.request) = [] := by
  cases u with
  | find text optOut => rfl
  | call i c =>
    cases c with
    | step step optOut => rfl
    | scenario name scenario => exact accepted_findsOfSteps r false scenario.steps
    | feature f | test f => exact accepted_findsOfScenarios r f.scenarios

theorem unmark_ask (suites : Nat → Suite) (r : Registry σ) (u : Use) :
    (ask suites r u.request).registry.definitions.map Registry.unmark =
      r.definitions.map Registry.unmark := by
  rw [(does_ask suites r u.request).registry, History.unmark_accesses, accepted_accessesOf,
    List.append_nil]

section Gives

variable {r r' : Registry σ} {f : Answers}

theorem gives_ask (h : r.Gives f) (suites : Nat → Suite) (u : Use) :
    (ask suites r u.request).registry.Gives f :=
  Registry.gives_of_unmark_eq h (unmark_ask suites r u)

/-! Registries that give the same answers make no difference. -/

theorem findsOfSteps_congr (h : r.Gives f) (h' : r'.Gives f) (optOut : Bool) (steps : List Step) :
    findsOfSteps r optOut steps = findsOfSteps r' optOut steps := by
  induction steps generalizing r r' optOut with
  | nil => rfl
  | cons step steps ih =>
    obtain ⟨hvalue, hregistry⟩ := h.runStep step optOut
    obtain ⟨hvalue', hregistry'⟩ := h'.runStep step optOut
    rw [findsOfSteps, findsOfSteps, hvalue, hvalue', ih hregistry hregistry']

theorem findsOfScenarios_congr (h : r.Gives f) (h' : r'.Gives f) (scenarios : List Scenario) :
    findsOfScenarios r scenarios = findsOfScenarios r' scenarios := by
  induction scenarios generalizing r r' with
  | nil => rfl
  | cons scenario scenarios ih =>
    have hregistry := (h.runSteps false scenario.steps).2
    have hregistry' := (h'.runSteps false scenario.steps).2
    rw [findsOfScenarios, findsOfScenarios, findsOfSteps_congr h h']
    exact congrArg _ (ih hregistry hregistry')

theorem accessesOf_congr (h : r.Gives f) (h' : r'.Gives f) (u : Use) :
    accessesOf r u.request = accessesOf r' u.request := by
  cases u with
  | find text optOut => rfl
  | call i c =>
    cases c with
    | step step optOut => rfl
    | scenario name scenario => exact findsOfSteps_congr h h' false scenario.steps
    | feature g | test g => exact findsOfScenarios_congr h h' g.scenarios

theorem runScenario_congr (h : r.Gives f) (h' : r'.Gives f) (scenario : Scenario) :
    (r.runScenario scenario).value = (r'.runScenario scenario).value := by
  have hsteps := (h.runSteps false scenario.steps).1.trans (h'.runSteps false scenario.steps).1.symm
  exact congrArg (ScenarioRun.mk scenario) hsteps

theorem runScenarios_congr (h : r.Gives f) (h' : r'.Gives f) (scenarios : List Scenario) :
    (r.runScenarios scenarios).value = (r'.runScenarios scenarios).value :=
  (h.runScenarios scenarios).1.trans (h'.runScenarios scenarios).1.symm

/-- A suite takes the same into account, and gives back the same. -/
theorem answer_congr (h : r.Gives f) (h' : r'.Gives f) (s : Suite) (c : Call) :
    (s.answer r c).value = (s.answer r' c).value ∧ s.returned r c = s.returned r' c := by
  cases c with
  | step step optOut =>
    have hrun := (h.runStep step optOut).1.trans (h'.runStep step optOut).1.symm
    simp only [Suite.answer, Suite.returned, Suite.testStep, hrun, and_self]
  | scenario name scenario =>
    have hrun := runScenario_congr h h' scenario
    simp only [Suite.answer, Suite.returned, Suite.testScenario, hrun, and_self]
  | feature g =>
    have hruns := runScenarios_congr h h' g.scenarios
    simp only [Suite.answer, Suite.returned, Suite.testFeature, hruns, and_self]
  | test g =>
    have hruns := runScenarios_congr h h' g.scenarios
    have hsuite : (s.test r g).1 = (s.test r' g).1 := by
      rw [Session.suite_test, Session.suite_test, hruns]
    have hvalue : (s.test r g).2.value = (s.test r' g).2.value := by
      rw [(s.alarms_test r g).value, (s.alarms_test r' g).value]
      simp only [Suite.testFeature, hruns]
    exact ⟨hsuite, congrArg Returned.verdict hvalue⟩

theorem found_congr (h : r.Gives f) (h' : r'.Gives f) (text : String) (optOut : Bool) :
    (r.find text optOut).value = (r'.find text optOut).value :=
  (h.find text optOut).1.trans (h'.find text optOut).1.symm

/-! One party at a time. -/

/-- The suites are the same as far as the party is concerned. -/
def Agree (party : Option Nat) (suites suites' : Nat → Suite) : Prop :=
  ∀ i, party = some i → suites i = suites' i

theorem agree_ask_own (h : r.Gives f) (h' : r'.Gives f) {suites suites' : Nat → Suite} {u : Use}
    (hagree : Agree u.suite? suites suites') :
    u.returned suites r = u.returned suites' r' ∧
      Agree u.suite? (ask suites r u.request).value (ask suites' r' u.request).value := by
  cases u with
  | find text optOut =>
    exact ⟨congrArg Returned.found (found_congr h h' text optOut), fun i hi => nomatch hi⟩
  | call i c =>
    have hsuite : suites i = suites' i := hagree i rfl
    obtain ⟨hvalue, hreturned⟩ := answer_congr h h' (suites i) c
    rw [hsuite] at hvalue hreturned
    refine ⟨?_, fun j hj => ?_⟩
    · rw [Use.returned, Use.returned, hsuite, hreturned]
    · obtain rfl := Option.some.inj hj
      simp only [ask, Use.request, hsuite, hvalue]

/-- What another party does leaves the suite of a party as it is. -/
theorem agree_ask_other {party : Option Nat} {u : Use} (hu : u.suite? ≠ party)
    (suites : Nat → Suite) (r : Registry σ) : Agree party (ask suites r u.request).value suites := by
  intro i hi
  cases u with
  | find text optOut => rfl
  | call j c =>
    have hij : i ≠ j := by
      rintro rfl
      exact hu hi.symm
    exact if_neg hij

theorem only_cons_own (u : Use) (uses : List Use) : only u.suite? (u :: uses) = u :: only u.suite? uses :=
  List.filter_cons_of_pos (by simp)

theorem only_cons_other {party : Option Nat} {u : Use} (hu : u.suite? ≠ party) (uses : List Use) :
    only party (u :: uses) = only party uses :=
  List.filter_cons_of_neg (by simpa using hu)

theorem returnsTo_cons_own (suites : Nat → Suite) (r : Registry σ) (u : Use) (uses : List Use) :
    returnsTo u.suite? suites r (u :: uses) = u.returned suites r ::
      returnsTo u.suite? (ask suites r u.request).value (ask suites r u.request).registry uses := by
  simp [returnsTo, returns]

theorem returnsTo_cons_other {party : Option Nat} {u : Use} (hu : u.suite? ≠ party)
    (suites : Nat → Suite) (r : Registry σ) (uses : List Use) :
    returnsTo party suites r (u :: uses) =
      returnsTo party (ask suites r u.request).value (ask suites r u.request).registry uses := by
  simp [returnsTo, returns, hu]

/-- A party gets and keeps the same when the uses of all others are left out. -/
theorem separate_party (h : r.Gives f) (h' : r'.Gives f) {party : Option Nat}
    {suites suites' : Nat → Suite} (hagree : Agree party suites suites') (uses : List Use) :
    returnsTo party suites r uses = returns suites' r' (only party uses) ∧
      Agree party (after suites r uses).value (after suites' r' (only party uses)).value := by
  induction uses generalizing r r' suites suites' with
  | nil => exact ⟨rfl, hagree⟩
  | cons u uses ih =>
    have hnext := gives_ask h suites u
    by_cases hu : u.suite? = party
    · subst hu
      obtain ⟨hreturned, hsuites⟩ := agree_ask_own h h' hagree
      obtain ⟨hreturns, hafter⟩ := ih hnext (gives_ask h' suites' u) hsuites
      rw [only_cons_own, returnsTo_cons_own, hreturns, hreturned]
      exact ⟨rfl, hafter⟩
    · have hsuites : Agree party (ask suites r u.request).value suites' :=
        fun i hi => (agree_ask_other hu suites r i hi).trans (hagree i hi)
      obtain ⟨hreturns, hafter⟩ := ih hnext h' hsuites
      rw [only_cons_other hu, returnsTo_cons_other hu, hreturns]
      exact ⟨rfl, hafter⟩

/-! Used definitions. -/

/-- Accesses that register nothing mark the definitions that their finds select. -/
theorem marked_accesses {as : List (Access σ)} (has : History.accepted as = []) (r : Registry σ)
    (n : Nat) : History.Marked (r.accesses as).registry n ↔ History.Marked r n ∨
      ∃ text optOut, .find text optOut ∈ as ∧ ∃ d, History.First r.definitions text n d := by
  induction as generalizing r with
  | nil => simp [Registry.accesses]
  | cons a as ih =>
    obtain ⟨ha, has⟩ := List.forall_mem_cons.1 (List.filterMap_eq_nil_iff.1 has)
    have hunmark : (r.access a).registry.definitions.map Registry.unmark =
        r.definitions.map Registry.unmark := by
      rw [History.unmark_access, ha, Option.toList_none, List.append_nil]
    have hrest := ih (List.filterMap_eq_nil_iff.2 has) (r.access a).registry
    simp only [History.exists_first_iff hunmark] at hrest
    rw [Registry.accesses, hrest]
    cases a with
    | register keyword pattern action =>
      rw [History.marked_register]
      simp
    | find text optOut =>
      rw [History.marked_find, or_assoc]
      refine or_congr_right ⟨?_, ?_⟩
      · rintro (hfirst | ⟨text', optOut', hmem, hfirst⟩)
        · exact ⟨text, optOut, List.mem_cons_self, hfirst⟩
        · exact ⟨text', optOut', List.mem_cons_of_mem _ hmem, hfirst⟩
      · rintro ⟨text', optOut', hmem, hfirst⟩
        rcases List.mem_cons.1 hmem with heq | hmem
        · cases heq
          exact .inl hfirst
        · exact .inr ⟨text', optOut', hmem, hfirst⟩

/-- What all uses ask for, if the registry does not change its answers. -/
theorem history_eq_flatMap (h : r.Gives f) (h' : r'.Gives f) (suites : Nat → Suite) (uses : List Use) :
    history suites r' (uses.map Use.request) = uses.flatMap fun u => accessesOf r u.request := by
  induction uses generalizing r' suites with
  | nil => rfl
  | cons u uses ih =>
    rw [List.map_cons, history, ih (gives_ask h' suites u), accessesOf_congr h' h]
    rfl

theorem marked_after (h : r.Gives f) (suites : Nat → Suite) (uses : List Use) (n : Nat) :
    History.Marked (after suites r uses).registry n ↔ History.Marked r n ∨
      ∃ u ∈ uses, ∃ text optOut, .find text optOut ∈ accessesOf r u.request ∧
        ∃ d, History.First r.definitions text n d := by
  have hregistry : (after suites r uses).registry =
      (r.accesses (uses.flatMap fun u => accessesOf r u.request)).registry := by
    rw [← history_eq_flatMap h h suites uses]
    exact (does_asks suites r (uses.map Use.request)).registry
  have hnone : History.accepted (uses.flatMap fun u => accessesOf r u.request) = [] := by
    refine List.filterMap_eq_nil_iff.2 fun a ha => ?_
    obtain ⟨u, -, ha⟩ := List.mem_flatMap.1 ha
    exact List.filterMap_eq_nil_iff.1 (accepted_accessesOf r u) a ha
  rw [hregistry, marked_accesses hnone]
  refine or_congr_right ⟨?_, ?_⟩
  · rintro ⟨text, optOut, hmem, hfirst⟩
    obtain ⟨u, hu, hmem⟩ := List.mem_flatMap.1 hmem
    exact ⟨u, hu, text, optOut, hmem, hfirst⟩
  · rintro ⟨u, hu, text, optOut, hmem, hfirst⟩
    exact ⟨text, optOut, List.mem_flatMap.2 ⟨u, hu, hmem⟩, hfirst⟩

theorem marked_after_iff (h : r.Gives f) (suites : Nat → Suite) (uses : List Use) (n : Nat) :
    History.Marked (after suites r uses).registry n ↔ History.Marked r n ∨
      ∃ party, History.Marked (after suites r (only party uses)).registry n := by
  simp only [marked_after h, only, List.mem_filter, decide_eq_true_eq]
  constructor
  · rintro (hmarked | ⟨u, hu, hfinds⟩)
    · exact .inl hmarked
    · exact .inr ⟨u.suite?, .inr ⟨u, ⟨hu, rfl⟩, hfinds⟩⟩
  · rintro (hmarked | ⟨party, hmarked | ⟨u, ⟨hu, -⟩, hfinds⟩⟩)
    · exact .inl hmarked
    · exact .inl hmarked
    · exact .inr ⟨u, hu, hfinds⟩

end Gives

/-- Suites that share a registry whose actions depend on nothing but their arguments, and finds that are
made beside them, do not influence each other, however their calls take turns. -/
theorem separate_after {r : Registry σ} (h : r.Steady) (suites : Nat → Suite) (uses : List Use) :
    Separate suites r uses := by
  obtain ⟨f, hf⟩ := h.exists_gives
  refine ⟨fun party => ?_, fun i => ?_, marked_after_iff hf suites uses⟩
  · have hagree : Agree party suites suites := fun _ _ => rfl
    exact (separate_party hf hf hagree uses).1
  · have hagree : Agree (some i) suites suites := fun _ _ => rfl
    exact (separate_party hf hf hagree uses).2 i rfl

/-- A registry whose actions count their calls, which makes no difference to what they give back. -/
def countingRegistry : Registry Nat where
  definitions := [
    ⟨.Given, ⟨"x", .one (.one 'x'), []⟩, fun _ n => (.returned (.ok ()), n + 1), false⟩,
    ⟨.Then, ⟨"y", .one (.one 'y'), []⟩, fun _ n => (.panicked (.text "no y"), n + 1), false⟩,
    ⟨.Then, ⟨"z", .one (.one 'z'), []⟩, fun _ n => (.returned (.ok ()), n), false⟩]
  state := 0

theorem steady_countingRegistry : countingRegistry.Steady := by
  intro d hd args state state'
  simp only [countingRegistry, List.mem_cons, List.not_mem_nil, or_false] at hd
  rcases hd with rfl | rfl | rfl <;> rfl

theorem separate_after_counting :
    let suites : Nat → Suite := fun i => { config := { strict := decide (i = 1) } }
    let first : Scenario := ⟨"first", [⟨.Given, "x", 2⟩, ⟨.When, "\"1\"", 3⟩, ⟨.Then, "x", 4⟩], 1⟩
    let second : Scenario := ⟨"second", [⟨.Given, "y", 6⟩, ⟨.Then, "x", 7⟩], 5⟩
    let uses := [Use.call 0 (.scenario "a" first), .find "a y" true,
      .call 1 (.test { name := "a", scenarios := [second, first] }), .call 0 (.step ⟨.But, "x", 0⟩ false),
      .find "x" false, .call 1 (.feature { name := "b" }), .call 0 (.scenario "a" second)]
    countingRegistry.Steady ∧
      (after suites countingRegistry uses).registry.definitions.map (·.used) = [true, true, false] ∧
      Separate suites countingRegistry uses := by
  intro suites first second uses
  exact ⟨steady_countingRegistry, by decide +kernel,
    separate_after steady_countingRegistry suites uses⟩

end Sharing
end Acceptance
