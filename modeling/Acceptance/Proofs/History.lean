import Acceptance.Proofs.Steady
import Mathlib.Data.List.Induction

/-!
Registries and their histories. What a registry holds, which definition a text selects, which definitions
are used and which actions have been run can all be told from the registrations and the finds so far.
-/
namespace Acceptance

/-- What can be asked of a registry. -/
inductive Access (σ : Type) where
  | register (keyword : Keyword) (pattern : String) (action : Action σ)
  | find (text : String) (optOut : Bool)

variable {σ : Type}

namespace Registry

def access (r : Registry σ) : Access σ → Run σ Unit
  | .register keyword pattern action =>
    let run := r.register keyword pattern action
    ⟨(), run.registry, run.events⟩
  | .find text optOut =>
    let run := r.find text optOut
    ⟨(), run.registry, run.events⟩

/-- One access after the other. -/
def accesses (r : Registry σ) : List (Access σ) → Run σ Unit
  | [] => ⟨(), r, []⟩
  | a :: more =>
    let first := r.access a
    let rest := first.registry.accesses more
    ⟨(), rest.registry, first.events ++ rest.events⟩

end Registry

/-- The call of an action. -/
def Event.call? : Event → Option (Nat × Args)
  | invoked definition args => some (definition, args)
  | logged _ | failed => none

def calls (events : List Event) : List (Nat × Args) := events.filterMap Event.call?

/-! What is told of histories alone. -/
namespace History

/-- The definition that an access adds; a pattern that is rejected adds none. -/
def added? : Access σ → Option (Definition σ)
  | .register keyword pattern action =>
    match Pattern.compile pattern with
    | .error _ => none
    | .ok pattern => some { keyword, pattern, action }
  | .find _ _ => none

/-- The accepted registrations, in order. -/
def accepted (past : List (Access σ)) : List (Definition σ) := past.filterMap added?

/-- `d` has the number `i`, its pattern matches the text, and that of no earlier definition does. -/
structure First (ds : List (Definition σ)) (text : String) (i : Nat) (d : Definition σ) : Prop where
  numbered : ds[i]? = some d
  matching : d.pattern.isMatch text = true
  earlier : ∀ j < i, ∀ e, ds[j]? = some e → e.pattern.isMatch text = false

/-- Some find selected definition `i` among the definitions of its time. -/
def Selected (past : List (Access σ)) (i : Nat) : Prop :=
  ∃ earlier text optOut later d, past = earlier ++ .find text optOut :: later ∧
    First (accepted earlier) text i d

/-- The calls of actions that a history leads to, from a state to another one: one for each find that
selects a definition and is not to be skipped, and none for anything else. -/
inductive Leads (start : σ) : List (Access σ) → List (Nat × Args) → σ → Prop
  | nil : Leads start [] [] start
  | call {past : List (Access σ)} {calls : List (Nat × Args)} {state : σ} {text : String} {i : Nat}
      {d : Definition σ} (h : Leads start past calls state) (hd : First (accepted past) text i d) :
      Leads start (past ++ [.find text false]) (calls ++ [(i, d.pattern.captures text)])
        (d.action (d.pattern.captures text) state).2
  | idle {past : List (Access σ)} {calls : List (Nat × Args)} {state : σ} {a : Access σ}
      (h : Leads start past calls state)
      (ha : ∀ text i d, a = .find text false → ¬ First (accepted past) text i d) :
      Leads start (past ++ [a]) calls state

open Classical in
/-- What has come of a registry without definitions that began in a state, if a history is all that was
asked of it. -/
structure Follows {α : Type} (start : σ) (past : List (Access σ)) (now : Run σ α) : Prop where
  definitions : now.registry.definitions =
    (accepted past).zipIdx.map fun d => { d.1 with used := decide (Selected past d.2) }
  unused : now.registry.unused =
    ((accepted past).zipIdx.filter fun d => decide (¬ Selected past d.2)).map Prod.fst
  selects : ∀ text i, (now.registry.select text).map Prod.fst = some i ↔
    ∃ d, First (accepted past) text i d
  lasts : ∀ text i more, (now.registry.select text).map Prod.fst = some i →
    ((now.registry.accesses more).registry.select text).map Prod.fst = some i
  found : ∀ text optOut, (now.registry.find text optOut).value.isMatch = true ↔
    ∃ i d, First (accepted past) text i d
  executed : ∀ text i d, First (accepted past) text i d → (now.registry.find text false).value =
    .executed (d.action (d.pattern.captures text) now.registry.state).1.result
  unmatched : ∀ text optOut, (now.registry.find text optOut).value.isMatch = false →
    (now.registry.find text optOut).registry = now.registry
  rejected : ∀ keyword pattern action e,
    (now.registry.register keyword pattern action).value = .error e →
      (now.registry.register keyword pattern action).registry = now.registry
  calls : Leads start past (calls now.events) now.registry.state

/-! What the registry does. -/

theorem select_eq_some_iff {r : Registry σ} {text : String} {i : Nat} {d : Definition σ} :
    r.select text = some (i, d) ↔ First r.definitions text i d := by
  have hswap : r.select text = some (i, d) ↔
      r.definitions.zipIdx.find? (·.1.covers text) = some (d, i) := by
    rw [Registry.select, Option.map_eq_some_iff]
    constructor
    · rintro ⟨⟨e, j⟩, hfind, heq⟩
      cases heq
      exact hfind
    · intro hfind
      exact ⟨(d, i), hfind, rfl⟩
  rw [hswap, List.find?_eq_some_iff_getElem]
  constructor
  · rintro ⟨hcovers, j, hj, hget, hearlier⟩
    rw [List.getElem_zipIdx, Nat.zero_add, Prod.mk.injEq] at hget
    obtain ⟨rfl, rfl⟩ := hget
    rw [List.length_zipIdx] at hj
    refine ⟨List.getElem?_eq_getElem hj, hcovers, ?_⟩
    intro k hk e he
    have hnot := hearlier k hk
    obtain ⟨hlt, rfl⟩ := List.getElem?_eq_some_iff.1 he
    simpa [Definition.covers] using hnot
  · rintro ⟨hnumbered, hmatching, hearlier⟩
    obtain ⟨hi, rfl⟩ := List.getElem?_eq_some_iff.1 hnumbered
    refine ⟨hmatching, i, by simpa using hi, by simp, ?_⟩
    intro j hj
    have hnot := hearlier j hj _ (List.getElem?_eq_getElem (by omega))
    simp [Definition.covers, hnot]

/-- Which definition is the first one does not depend on which of them are used. -/
theorem First.of_unmark {ds es : List (Definition σ)} {text : String} {i : Nat} {d : Definition σ}
    (h : First ds text i d) (heq : ds.map Registry.unmark = es.map Registry.unmark) :
    ∃ e, First es text i e ∧ e.pattern = d.pattern ∧ e.action = d.action := by
  have hget (j : Nat) : ds[j]?.map Registry.unmark = es[j]?.map Registry.unmark := by
    rw [← List.getElem?_map, heq, List.getElem?_map]
  have hi := hget i
  rw [h.numbered, Option.map_some] at hi
  obtain ⟨e, he, hunmark⟩ := Option.map_eq_some_iff.1 hi.symm
  have hpattern : e.pattern = d.pattern := congrArg (·.pattern) hunmark
  refine ⟨e, ⟨he, hpattern ▸ h.matching, ?_⟩, hpattern, congrArg (·.action) hunmark⟩
  intro j hj e' he'
  have hj' := hget j
  rw [he', Option.map_some] at hj'
  obtain ⟨d', hd', hunmark'⟩ := Option.map_eq_some_iff.1 hj'
  have hpattern' : d'.pattern = e'.pattern := congrArg (·.pattern) hunmark'
  exact hpattern' ▸ h.earlier j hj d' hd'

theorem exists_first_iff {ds es : List (Definition σ)}
    (heq : ds.map Registry.unmark = es.map Registry.unmark) (text : String) (i : Nat) :
    (∃ d, First ds text i d) ↔ ∃ d, First es text i d := by
  constructor
  · rintro ⟨d, hd⟩
    obtain ⟨e, he, -⟩ := hd.of_unmark heq
    exact ⟨e, he⟩
  · rintro ⟨d, hd⟩
    obtain ⟨e, he, -⟩ := hd.of_unmark heq.symm
    exact ⟨e, he⟩

theorem First.append {ds : List (Definition σ)} {text : String} {i : Nat} {d : Definition σ}
    (h : First ds text i d) (more : List (Definition σ)) : First (ds ++ more) text i d := by
  obtain ⟨hi, -⟩ := List.getElem?_eq_some_iff.1 h.numbered
  refine ⟨?_, h.matching, ?_⟩
  · rw [List.getElem?_append_left hi, h.numbered]
  · intro j hj e he
    rw [List.getElem?_append_left (by omega)] at he
    exact h.earlier j hj e he

/-- A text has one first definition at most. -/
theorem First.unique {ds : List (Definition σ)} {text : String} {i j : Nat} {d e : Definition σ}
    (hd : First ds text i d) (he : First ds text j e) : i = j ∧ d = e := by
  have hij : i = j := by
    rcases Nat.lt_trichotomy i j with hlt | heq | hgt
    · exact absurd hd.matching (by simp [he.earlier i hlt d hd.numbered])
    · exact heq
    · exact absurd he.matching (by simp [hd.earlier j hgt e he.numbered])
  subst hij
  exact ⟨rfl, Option.some.inj (hd.numbered.symm.trans he.numbered)⟩

theorem select_eq_none_iff {r : Registry σ} {text : String} :
    r.select text = none ↔ ∀ i d, ¬ First r.definitions text i d := by
  rw [Option.eq_none_iff_forall_not_mem]
  simp only [Option.mem_def, Prod.forall, select_eq_some_iff]

theorem find_of_unmatched {r : Registry σ} {text : String}
    (h : ∀ i d, ¬ First r.definitions text i d) (optOut : Bool) :
    r.find text optOut = ⟨.unmatched, r, [.debug s!"no step definition matches '{text}'"]⟩ := by
  rw [Registry.find, select_eq_none_iff.2 h]

theorem find_skip_of_first {r : Registry σ} {text : String} {i : Nat} {d : Definition σ}
    (h : First r.definitions text i d) : r.find text true =
      ⟨.optedOut, r.markUsed i, [.debug s!"skipping '{text}' after an earlier unsuccessful step"]⟩ := by
  rw [Registry.find, select_eq_some_iff.2 h]
  rfl

theorem find_run_of_first {r : Registry σ} {text : String} {i : Nat} {d : Definition σ}
    (h : First r.definitions text i d) : r.find text false =
      let reply := d.action (d.pattern.captures text) r.state
      ⟨.executed reply.1.result, { r.markUsed i with state := reply.2 },
        [.invoked i (d.pattern.captures text)]⟩ := by
  rw [Registry.find, select_eq_some_iff.2 h]
  rfl

/-- A find is a match if some definition is the first one that matches. -/
theorem isMatch_find_iff (r : Registry σ) (text : String) (optOut : Bool) :
    (r.find text optOut).value.isMatch = true ↔ ∃ i d, First r.definitions text i d := by
  cases hselect : r.select text with
  | none =>
    have hnone := select_eq_none_iff.1 hselect
    simp [find_of_unmatched hnone, hnone, Match.isMatch]
  | some found =>
    obtain ⟨i, d⟩ := found
    have hfirst := select_eq_some_iff.1 hselect
    have hsome : ∃ i d, First r.definitions text i d := ⟨i, d, hfirst⟩
    cases optOut with
    | true => simp [find_skip_of_first hfirst, Match.isMatch, hsome]
    | false => simp [find_run_of_first hfirst, Match.isMatch, hsome]

theorem registry_find_of_not_isMatch {r : Registry σ} {text : String} {optOut : Bool}
    (h : (r.find text optOut).value.isMatch = false) : (r.find text optOut).registry = r := by
  have hnone : ∀ i d, ¬ First r.definitions text i d := by
    intro i d hd
    have hmatch := (isMatch_find_iff r text optOut).2 ⟨i, d, hd⟩
    rw [h] at hmatch
    cases hmatch
  rw [find_of_unmatched hnone]

/-- A find marks the definition that it selects, and does nothing else to the definitions. -/
theorem definitions_find_of_first {r : Registry σ} {text : String} {i : Nat} {d : Definition σ}
    (h : First r.definitions text i d) (optOut : Bool) :
    (r.find text optOut).registry.definitions = (r.markUsed i).definitions := by
  cases optOut with
  | true => rw [find_skip_of_first h]
  | false => rw [find_run_of_first h]

theorem used_of_added {a : Access σ} {d : Definition σ} (h : added? a = some d) : d.used = false := by
  unfold added? at h
  split at h
  next =>
    split at h
    next => cases h
    next => rw [← Option.some.inj h]
  next => cases h

/-- A registration that is accepted adds a definition at the end, and one that is rejected adds none. -/
theorem registry_register (r : Registry σ) (keyword : Keyword) (pattern : String)
    (action : Action σ) : (r.register keyword pattern action).registry =
      { r with
        definitions := r.definitions ++ (added? (.register keyword pattern action)).toList } := by
  cases hcompile : Pattern.compile pattern with
  | error e => simp [Registry.register, added?, hcompile]
  | ok p => simp [Registry.register, added?, hcompile]

theorem registry_register_of_error {r : Registry σ} {keyword : Keyword} {pattern : String}
    {action : Action σ} {e : Pattern.Error}
    (h : (r.register keyword pattern action).value = .error e) :
    (r.register keyword pattern action).registry = r := by
  unfold Registry.register at h ⊢
  split
  next => rfl
  next hok => simp [hok] at h

theorem unmark_access (r : Registry σ) (a : Access σ) :
    (r.access a).registry.definitions.map Registry.unmark =
      r.definitions.map Registry.unmark ++ (added? a).toList := by
  cases a with
  | register keyword pattern action =>
    have hadded : (added? (.register keyword pattern action)).toList.map Registry.unmark =
        (added? (.register keyword pattern action)).toList := by
      cases h : added? (.register keyword pattern action) with
      | none => rfl
      | some d => simp [Registry.unmark, ← used_of_added h]
    rw [Registry.access, registry_register, List.map_append, hadded]
  | find text optOut =>
    have hkeep : (r.find text optOut).registry.definitions.map Registry.unmark =
        r.definitions.map Registry.unmark := by
      cases hselect : r.select text with
      | none => rw [find_of_unmatched (select_eq_none_iff.1 hselect)]
      | some found =>
        obtain ⟨i, d⟩ := found
        rw [definitions_find_of_first (select_eq_some_iff.1 hselect), Registry.unmark_markUsed]
    simpa [Registry.access, added?] using hkeep

/-- Definition `i` of the registry is marked as used. -/
def Marked (r : Registry σ) (i : Nat) : Prop := r.definitions[i]?.map (·.used) = some true

theorem marked_register (r : Registry σ) (keyword : Keyword) (pattern : String) (action : Action σ)
    (i : Nat) : Marked (r.access (.register keyword pattern action)).registry i ↔ Marked r i := by
  rw [Registry.access, registry_register, Marked, Marked, List.getElem?_append]
  split
  next => rfl
  next hi =>
    have hnone : r.definitions[i]? = none := List.getElem?_eq_none (by omega)
    have hunused : (added? (.register keyword pattern action)).toList[i - r.definitions.length]?.map
        (·.used) ≠ some true := by
      intro h
      obtain ⟨d, hd, hused⟩ := Option.map_eq_some_iff.1 h
      have hadded := Option.mem_toList.1 (List.mem_of_getElem? hd)
      rw [used_of_added hadded] at hused
      cases hused
    simp [hnone, hunused]

theorem marked_find (r : Registry σ) (text : String) (optOut : Bool) (i : Nat) :
    Marked (r.access (.find text optOut)).registry i ↔
      Marked r i ∨ ∃ d, First r.definitions text i d := by
  change Marked (r.find text optOut).registry i ↔ _
  cases hselect : r.select text with
  | none =>
    have hnone := select_eq_none_iff.1 hselect
    rw [find_of_unmatched hnone]
    simp [hnone i]
  | some found =>
    obtain ⟨j, d⟩ := found
    have hfirst := select_eq_some_iff.1 hselect
    have hmarked : Marked (r.find text optOut).registry i ↔
        (r.definitions.modify j ({ · with used := true }))[i]?.map (·.used) = some true := by
      rw [Marked, definitions_find_of_first hfirst]
      rfl
    rw [hmarked, List.getElem?_modify]
    by_cases hij : j = i
    · subst hij
      have hsome : ∃ e, First r.definitions text j e := ⟨d, hfirst⟩
      simp [hfirst.numbered, hsome]
    · have hnone : ¬ ∃ e, First r.definitions text i e := by
        rintro ⟨e, he⟩
        exact hij (hfirst.unique he).1
      simp [hij, hnone, Marked]

/-! What histories tell when one more access is made. -/

@[simp] theorem accepted_append (past : List (Access σ)) (a : Access σ) :
    accepted (past ++ [a]) = accepted past ++ (added? a).toList := by
  cases h : added? a <;> simp [accepted, h]

theorem unmark_accepted (past : List (Access σ)) :
    (accepted past).map Registry.unmark = accepted past := by
  have hunmark : ∀ d ∈ accepted past, Registry.unmark d = d := by
    intro d hd
    obtain ⟨a, -, ha⟩ := List.mem_filterMap.1 hd
    simp [Registry.unmark, ← used_of_added ha]
  rw [List.map_congr_left hunmark, List.map_id']

theorem selected_append {past : List (Access σ)} {a : Access σ} {i : Nat} :
    Selected (past ++ [a]) i ↔ Selected past i ∨
      ∃ text optOut d, a = .find text optOut ∧ First (accepted past) text i d := by
  constructor
  · rintro ⟨earlier, text, optOut, later, d, hpast, hfirst⟩
    rcases List.eq_nil_or_concat later with rfl | ⟨later, b, rfl⟩
    · obtain ⟨rfl, ha⟩ := List.append_inj' hpast rfl
      exact .inr ⟨text, optOut, d, List.singleton_inj.1 ha, hfirst⟩
    · rw [List.concat_eq_append, ← List.cons_append, ← List.append_assoc] at hpast
      obtain ⟨rfl, -⟩ := List.append_inj' hpast rfl
      exact .inl ⟨earlier, text, optOut, later, d, rfl, hfirst⟩
  · rintro (⟨earlier, text, optOut, later, d, rfl, hfirst⟩ | ⟨text, optOut, d, rfl, hfirst⟩)
    · exact ⟨earlier, text, optOut, later ++ [a], d, by simp, hfirst⟩
    · exact ⟨past, text, optOut, [], d, rfl, hfirst⟩

/-! What a run of accesses leaves. -/

theorem accesses_append (r : Registry σ) (past more : List (Access σ)) :
    r.accesses (past ++ more) =
      ⟨(), ((r.accesses past).registry.accesses more).registry,
        (r.accesses past).events ++ ((r.accesses past).registry.accesses more).events⟩ := by
  induction past generalizing r with
  | nil => rfl
  | cons a past ih =>
    rw [List.cons_append, Registry.accesses, Registry.accesses]
    simp [ih, List.append_assoc]

theorem unmark_accesses (r : Registry σ) (past : List (Access σ)) :
    (r.accesses past).registry.definitions.map Registry.unmark =
      r.definitions.map Registry.unmark ++ accepted past := by
  induction past generalizing r with
  | nil => simp [Registry.accesses, accepted]
  | cons a past ih =>
    have hcons : accepted (a :: past) = (added? a).toList ++ accepted past := by
      cases h : added? a <;> simp [accepted, h]
    rw [Registry.accesses, ih, unmark_access, hcons, List.append_assoc]

theorem unmark_definitions (start : σ) (past : List (Access σ)) :
    (({ state := start } : Registry σ).accesses past).registry.definitions.map Registry.unmark =
      (accepted past).map Registry.unmark := by
  rw [unmark_accesses, unmark_accepted]
  rfl

/-- The first definition of a registry is the first accepted one. -/
theorem first_accesses_iff (start : σ) (past : List (Access σ)) (text : String) (i : Nat) :
    (∃ d, First (({ state := start } : Registry σ).accesses past).registry.definitions text i d) ↔
      ∃ d, First (accepted past) text i d :=
  exists_first_iff (unmark_definitions start past) text i

theorem marked_iff_selected (start : σ) (past : List (Access σ)) (i : Nat) :
    Marked (({ state := start } : Registry σ).accesses past).registry i ↔ Selected past i := by
  induction past using List.reverseRecOn with
  | nil => simp [Marked, Registry.accesses, Selected]
  | append_singleton past a ih =>
    rw [accesses_append, selected_append, ← ih]
    cases a with
    | register keyword pattern action => simpa [Registry.accesses] using marked_register _ _ _ _ i
    | find text optOut =>
      simpa [Registry.accesses, ← first_accesses_iff start] using marked_find _ text optOut i

open Classical in
theorem definitions_accesses (start : σ) (past : List (Access σ)) :
    (({ state := start } : Registry σ).accesses past).registry.definitions =
      (accepted past).zipIdx.map fun d => { d.1 with used := decide (Selected past d.2) } := by
  refine List.ext_getElem? fun i => ?_
  have hunmark := congrArg (·[i]?) (unmark_definitions start past)
  have hmarked := marked_iff_selected start past i
  rw [Marked] at hmarked
  rw [List.getElem?_map, List.getElem?_zipIdx, Nat.zero_add]
  simp only [unmark_accepted, List.getElem?_map] at hunmark
  rw [← hunmark]
  cases h : (({ state := start } : Registry σ).accesses past).registry.definitions[i]? with
  | none => rfl
  | some d =>
    have hused : d.used = decide (Selected past i) := Bool.eq_iff_iff.2 (by simpa [h] using hmarked)
    simp [Registry.unmark, ← hused]

@[simp] theorem calls_append (events more : List Event) :
    calls (events ++ more) = calls events ++ calls more := List.filterMap_append

@[simp] theorem calls_nil : calls [] = [] := rfl

@[simp] theorem calls_logged (entry : LogEntry) (events : List Event) :
    calls (.logged entry :: events) = calls events := rfl

@[simp] theorem calls_debug (message : String) (events : List Event) :
    calls (.debug message :: events) = calls events := rfl

@[simp] theorem calls_info (message : String) (events : List Event) :
    calls (.info message :: events) = calls events := rfl

@[simp] theorem calls_failed (events : List Event) : calls (.failed :: events) = calls events := rfl

@[simp] theorem calls_invoked (i : Nat) (args : Args) (events : List Event) :
    calls (.invoked i args :: events) = (i, args) :: calls events := rfl

theorem calls_register (r : Registry σ) (keyword : Keyword) (pattern : String)
    (action : Action σ) : calls (r.register keyword pattern action).events = [] := by
  unfold Registry.register
  split <;> rfl

/-- One access makes at most one call, as it should from what the registry holds. -/
theorem leads_access {start : σ} {past : List (Access σ)} {made : List (Nat × Args)}
    {r : Registry σ} (h : Leads start past made r.state)
    (hunmark : r.definitions.map Registry.unmark = (accepted past).map Registry.unmark)
    (a : Access σ) : Leads start (past ++ [a]) (made ++ calls (r.access a).events)
      (r.access a).registry.state := by
  cases a with
  | register keyword pattern action =>
    have hnone : ∀ text i d, Access.register keyword pattern action = .find text false →
        ¬ First (accepted past) text i d := fun _ _ _ h => nomatch h
    simpa [Registry.access, calls_register, registry_register] using h.idle hnone
  | find text optOut =>
    simp only [Registry.access]
    cases hselect : r.select text with
    | none =>
      have hfirst := select_eq_none_iff.1 hselect
      have hnone : ∀ text' i d, (.find text optOut : Access σ) = .find text' false →
          ¬ First (accepted past) text' i d := by
        rintro text' i d ⟨⟩ hd
        obtain ⟨e, he, -⟩ := hd.of_unmark hunmark.symm
        exact hfirst i e he
      rw [find_of_unmatched hfirst]
      simpa using h.idle hnone
    | some found =>
      obtain ⟨i, d⟩ := found
      have hfirst := select_eq_some_iff.1 hselect
      cases optOut with
      | true =>
        have hnone : ∀ text' i d, (.find text true : Access σ) = .find text' false →
            ¬ First (accepted past) text' i d := fun _ _ _ h => nomatch h
        rw [find_skip_of_first hfirst]
        simpa [Registry.markUsed] using h.idle hnone
      | false =>
        -- the definition that was registered has the same pattern and the same action
        obtain ⟨e, he, hpattern, haction⟩ := hfirst.of_unmark hunmark
        rw [find_run_of_first hfirst]
        simpa [haction, hpattern] using h.call he

theorem leads_accesses (start : σ) (past : List (Access σ)) :
    Leads start past (calls (({ state := start } : Registry σ).accesses past).events)
      (({ state := start } : Registry σ).accesses past).registry.state := by
  induction past using List.reverseRecOn with
  | nil => exact .nil
  | append_singleton past a ih =>
    have hstep := leads_access ih (unmark_definitions start past) a
    rw [accesses_append, calls_append]
    simpa [Registry.accesses] using hstep

theorem select_accesses_iff (start : σ) (past : List (Access σ)) (text : String) (i : Nat) :
    ((({ state := start } : Registry σ).accesses past).registry.select text).map Prod.fst = some i ↔
      ∃ d, First (accepted past) text i d := by
  rw [← first_accesses_iff start, Option.map_eq_some_iff]
  simp [select_eq_some_iff]

open Classical in
theorem unused_accesses (start : σ) (past : List (Access σ)) :
    (({ state := start } : Registry σ).accesses past).registry.unused =
      ((accepted past).zipIdx.filter fun d => decide (¬ Selected past d.2)).map Prod.fst := by
  have hunmark : ∀ d ∈ accepted past, Registry.unmark d = d :=
    List.map_eq_map_iff.1 ((unmark_accepted past).trans (List.map_id' _).symm)
  have hall : ∀ d ∈ (accepted past).zipIdx.filter fun d => decide (¬ Selected past d.2),
      { d.1 with used := decide (Selected past d.2) } = d.1 := by
    rintro ⟨d, i⟩ hd
    obtain ⟨hmem, hselected⟩ := List.mem_filter.1 hd
    rw [← hunmark d (List.fst_mem_of_mem_zipIdx hmem)]
    simpa [Registry.unmark] using hselected
  rw [Registry.unused, definitions_accesses, List.filter_map, ← List.map_congr_left hall]
  simp [Function.comp_def]

/-- Whatever is asked of a registry, what has come of it follows from what was asked. -/
theorem follows_accesses (start : σ) (past : List (Access σ)) :
    Follows start past (({ state := start } : Registry σ).accesses past) where
  definitions := definitions_accesses start past
  unused := unused_accesses start past
  selects := select_accesses_iff start past
  lasts := by
    intro text i more hi
    obtain ⟨d, hd⟩ := (select_accesses_iff start past text i).1 hi
    have hmore := (select_accesses_iff start (past ++ more) text i).2
      ⟨d, by simpa [accepted] using hd.append (accepted more)⟩
    rwa [accesses_append] at hmore
  found := by
    intro text optOut
    rw [isMatch_find_iff]
    exact exists_congr fun i => first_accesses_iff start past text i
  executed := by
    intro text i d hd
    obtain ⟨e, he, hpattern, haction⟩ := hd.of_unmark (unmark_definitions start past).symm
    rw [find_run_of_first he, haction, hpattern]
  unmatched := fun _ _ h => registry_find_of_not_isMatch h
  rejected := fun _ _ _ _ h => registry_register_of_error h
  calls := leads_accesses start past

/-- Of a run nothing counts but the registry that it leaves and the calls on the way. -/
theorem Follows.congr {α β : Type} {start : σ} {past : List (Access σ)} {now : Run σ α}
    {now' : Run σ β} (h : Follows start past now) (hregistry : now'.registry = now.registry)
    (hcalls : Acceptance.calls now'.events = Acceptance.calls now.events) :
    Follows start past now' := by
  obtain ⟨_, registry, events⟩ := now'
  obtain rfl : registry = now.registry := hregistry
  exact ⟨h.definitions, h.unused, h.selects, h.lasts, h.found, h.executed, h.unmatched, h.rejected,
    hcalls ▸ h.calls⟩

end History
end Acceptance
