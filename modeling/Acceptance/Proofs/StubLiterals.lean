import Acceptance.Proofs.Masks
import Acceptance.Proofs.RawReading
import Acceptance.Proofs.Rescanning

/-!
The literals of stubs. A program may have a raw literal only if its carriage returns stand before line feeds
and its marks are not too many. The stub of a step that was read from a text has such a literal unless there
is a carriage return in its description, or a double quote with so many marks behind it.
-/
namespace Acceptance

namespace Text

/-- A program may have the raw literal. -/
structure IsPermitted (literal : List Char) : Prop where
  returns : ∀ before after, literal = before ++ '\r' :: after → ['\n'] <+: after
  marks : ∀ n content, literal = 'r' :: (List.replicate n '#' ++ '"' :: content) → n ≤ 255

/-- In a literal without line feeds no carriage return stands before one. -/
theorem isPermitted_rawLiteral_iff {s : List Char} (hs : '\n' ∉ s) :
    IsPermitted (rawLiteral s) ↔ '\r' ∉ s ∧ ¬ closing 255 <:+: s := by
  have hfeed : '\n' ∉ rawLiteral s := by rwa [mem_rawLiteral_iff (by decide)]
  rw [closing_infix_iff (by decide), Nat.not_lt, ← mem_rawLiteral_iff (by decide) (c := '\r')]
  constructor
  · intro h
    constructor
    · intro hmem
      obtain ⟨before, after, hsplit⟩ := List.append_of_mem hmem
      obtain ⟨rest, rfl⟩ := h.returns before after hsplit
      exact hfeed (by simp [hsplit])
    · exact h.marks (rawWidth s) _ rfl
  · rintro ⟨hret, hmarks⟩
    constructor
    · intro before after hsplit
      exact absurd (by simp [hsplit]) hret
    · intro n content hsplit
      obtain ⟨rfl, -⟩ := replicate_append_cancel (by decide) (List.cons.inj hsplit).2
      exact hmarks

/-! ### Marks in a pattern -/

theorem longestRun_concat {c : Char} (hquote : c ≠ '"') (hmark : c ≠ '#') (run : Option Nat)
    (s : List Char) : longestRun run (s ++ [c]) = longestRun run s := by
  fun_induction longestRun run s with
  | case1 run => simp [longestRun, hquote, hmark]
  | case2 run rest ih => simp [longestRun, ih]
  | case3 run rest _ ih => simp [longestRun, ih]
  | case4 run d rest hq hm ih => simp [longestRun, hq, hm, ih]

/-- Characters that are neither double quotes nor marks make no difference where no run is being read. -/
theorem longestRun_plain {ns : List Char} (hquote : '"' ∉ ns) (hmark : '#' ∉ ns) (rest : List Char) :
    longestRun none (ns ++ rest) = longestRun none rest := by
  induction ns with
  | nil => rfl
  | cons c ns ih =>
    simp only [List.mem_cons, not_or] at hquote hmark
    simp [longestRun, Ne.symm hquote.1, Ne.symm hmark.1, ih hquote.2 hmark.2]

/-- What stands between two double quotes makes no difference. -/
theorem longestRun_quoted {ns : List Char} (hne : ns ≠ []) (hquote : '"' ∉ ns) (hmark : '#' ∉ ns)
    (run : Option Nat) (rest : List Char) :
    longestRun run ('"' :: (ns ++ '"' :: rest)) = longestRun run ('"' :: rest) := by
  cases ns with
  | nil => exact absurd rfl hne
  | cons c ns =>
    simp only [List.mem_cons, not_or] at hquote hmark
    simp [longestRun, Ne.symm hquote.1, Ne.symm hmark.1, longestRun_plain hquote.2 hmark.2]

theorem longestRun_cons_congr {s t : List Char} (h : ∀ run, longestRun run s = longestRun run t)
    (c : Char) (run : Option Nat) : longestRun run (c :: s) = longestRun run (c :: t) := by
  simp only [longestRun, h]

end Text

namespace Description
open Text (longestRun)

theorem longestRun_code (c : Char) (run : Option Nat) (s : List Char) :
    longestRun run (code (some c) ++ s) = longestRun run (c :: s) := by
  by_cases hc : isSpecial c = true
  · have hquote : c ≠ '"' := by
      rintro rfl
      exact absurd hc (by decide)
    have hmark : c ≠ '#' := by
      rintro rfl
      exact absurd hc (by decide)
    rw [code_special hc]
    simp [longestRun, hquote, hmark]
  · rw [code_plain hc]
    rfl

theorem longestRun_numberPattern (run : Option Nat) (s : List Char) :
    longestRun run (numberPattern ++ s) = longestRun run ('"' :: s) :=
  Text.longestRun_quoted (by decide : "([0-9+-]+)".toList ≠ []) (by decide) (by decide) run s

theorem longestRun_number {q : List Char} (hq : IsQuotedNumber q) (run : Option Nat) (s : List Char) :
    longestRun run (q ++ s) = longestRun run ('"' :: s) := by
  obtain ⟨ns, hne, hns, rfl⟩ := hq
  rw [List.cons_append, List.append_assoc]
  exact Text.longestRun_quoted hne (notMem_number (by decide) hns) (notMem_number (by decide) hns) run s

theorem longestRun_mask (s : List Char) (run : Option Nat) (rest : List Char) :
    longestRun run ((mask (tokens s)).flatMap code ++ rest) = longestRun run (s ++ rest) := by
  fun_induction tokens s generalizing run with
  | case1 s after hs ih =>
    obtain ⟨q, hq, rfl⟩ := afterNumber?_eq_some_iff.1 hs
    have hmask : (mask (.quotedNumber :: tokens after)).flatMap code =
        numberPattern ++ (mask (tokens after)).flatMap code := rfl
    rw [hmask, List.append_assoc, List.append_assoc, longestRun_numberPattern, longestRun_number hq]
    exact Text.longestRun_cons_congr ih '"' run
  | case2 => rfl
  | case3 c s _ ih =>
    rw [mask_consChar, List.flatMap_cons, List.append_assoc, longestRun_code]
    exact Text.longestRun_cons_congr ih c run

/-- A pattern needs as many marks as its description. -/
theorem rawWidth_pattern (d : String) :
    Text.rawWidth (pattern d).toList = Text.rawWidth d.toList := by
  have hstart (s : List Char) : longestRun none ('^' :: s) = longestRun none s :=
    Text.longestRun_plain (by decide : '"' ∉ ['^']) (by decide) s
  rw [Text.rawWidth, Text.rawWidth, toList_pattern, hstart, masked, longestRun_mask,
    Text.longestRun_concat (by decide) (by decide)]

end Description

namespace Feature.Outline

theorem exists_line_of_mem_steps {ls : List NumberedLine} {step : Step} (h : step ∈ steps ls) :
    ∃ l ∈ ls, ∃ d, stepText? l.1 = some (step.keyword, d) ∧ step.description = String.ofList d := by
  obtain ⟨l, hl, hstep⟩ := List.mem_filterMap.1 h
  obtain ⟨⟨k, d⟩, htext, rfl⟩ := Option.map_eq_some_iff.1 hstep
  exact ⟨l, hl, d, htext, rfl⟩

theorem exists_steps_of_mem_scenarios {ls : List NumberedLine} {s : Scenario} (h : s ∈ scenarios ls) :
    ∃ part, part ⊆ ls ∧ s.steps = steps part := by
  obtain ⟨tail, htail, hs⟩ := List.mem_filterMap.1 h
  cases tail with
  | nil => cases hs
  | cons l rest =>
    obtain ⟨d, -, rfl⟩ := Option.map_eq_some_iff.1 hs
    have hrest : rest ⊆ ls := List.subset_of_cons_subset ((List.mem_tails _ _).1 htail).subset
    exact ⟨untilScenario rest, List.Subset.trans (List.takeWhile_subset _) hrest, rfl⟩

theorem exists_scenarios_of_mem_features {ls : List NumberedLine} {f : Feature}
    (h : f ∈ features ls) : ∃ part, part ⊆ ls ∧ f.scenarios = scenarios part := by
  obtain ⟨tail, htail, hf⟩ := List.mem_filterMap.1 h
  cases tail with
  | nil => cases hf
  | cons l rest =>
    obtain ⟨name, -, rfl⟩ := Option.map_eq_some_iff.1 hf
    have hrest : rest ⊆ ls := List.subset_of_cons_subset ((List.mem_tails _ _).1 htail).subset
    have hbody : body (untilFeature rest) ⊆ untilFeature rest :=
      List.Subset.trans (List.takeWhile_subset _) (List.dropWhile_subset _)
    exact ⟨body (untilFeature rest),
      List.Subset.trans hbody (List.Subset.trans (List.takeWhile_subset _) hrest), rfl⟩

/-- A step of a feature stands in one of the lines. -/
theorem exists_line_of_mem_features {ls : List NumberedLine} {f : Feature} (hf : f ∈ features ls)
    {s : Scenario} (hs : s ∈ f.scenarios) {step : Step} (hstep : step ∈ s.steps) :
    ∃ l ∈ ls, ∃ d, stepText? l.1 = some (step.keyword, d) ∧ step.description = String.ofList d := by
  obtain ⟨block, hblock, hscenarios⟩ := exists_scenarios_of_mem_features hf
  rw [hscenarios] at hs
  obtain ⟨part, hpart, hsteps⟩ := exists_steps_of_mem_scenarios hs
  rw [hsteps] at hstep
  obtain ⟨l, hl, htext⟩ := exists_line_of_mem_steps hstep
  exact ⟨l, hblock (hpart hl), htext⟩

end Feature.Outline

namespace Feature
open Outline

/-- A description of a step is a part of a line. -/
theorem newline_notMem_of_mem_scanAll {text : String} {f : Feature} (hf : f ∈ (scanAll text).features)
    {s : Scenario} (hs : s ∈ f.scenarios) {step : Step} (hstep : step ∈ s.steps) :
    '\n' ∉ step.description.toList := by
  rw [scanAll_eq_found] at hf
  obtain ⟨l, hl, d, htext, hd⟩ := exists_line_of_mem_features hf hs hstep
  have hline : '\n' ∉ l.1 :=
    Text.notMem_linesWith (Text.notMem_cut '\n' text.toList) '\r' l.1 (List.fst_mem_of_mem_zipIdx hl)
  rw [(stepText?_eq_some_iff.1 htext).1] at hline
  rw [hd, String.toList_ofList]
  exact fun hmem => hline (List.mem_append_right _ hmem)

end Feature

/-- The literal in the stub of a step. -/
def Step.literal (step : Step) : List Char :=
  Text.rawLiteral (Description.pattern step.description).toList

theorem Step.isPermitted_literal_iff {step : Step} (h : '\n' ∉ step.description.toList) :
    Text.IsPermitted step.literal ↔
      '\r' ∉ step.description.toList ∧ ¬ Text.closing 255 <:+: step.description.toList := by
  have hfeed : '\n' ∉ (Description.pattern step.description).toList := by
    rwa [Description.mem_pattern_iff (by decide) (by decide)]
  rw [literal, Text.isPermitted_rawLiteral_iff hfeed, Description.mem_pattern_iff (by decide) (by decide),
    Text.closing_infix_iff (by decide), Text.closing_infix_iff (by decide),
    Description.rawWidth_pattern]

/-- The stub of a step that was read from a text has a literal that a program may have, unless there is a
carriage return in the description, or a double quote with 255 marks behind it. -/
theorem Feature.isPermitted_literals (text : String) : ∀ f ∈ (scanAll text).features,
    ∀ s ∈ f.scenarios, ∀ step ∈ s.steps,
      step.snippet.toList = "registry.".toList ++
        (step.keyword.method.toList ++ '(' :: (step.literal ++ stubEnd.toList)) ∧
      (Text.IsPermitted step.literal ↔ '\r' ∉ step.description.toList ∧
        ¬ '"' :: List.replicate 255 '#' <:+: step.description.toList) := by
  intro f hf s hs step hstep
  refine ⟨?_, Step.isPermitted_literal_iff (newline_notMem_of_mem_scanAll hf hs hstep)⟩
  rw [Step.snippet_eq, toList_stubText]
  rfl

theorem Feature.isPermitted_literals_returns :
    let text := "Feature: a\r\n  Scenario: b\r\n    Given \"#c\"\r\n"
    let step : Step := ⟨.Given, "\"#c\"", 3⟩
    let s : Scenario := ⟨"b", [step], 2⟩
    let f : Feature := ⟨"a", "", [s]⟩
    f ∈ (scanAll text).features ∧ s ∈ f.scenarios ∧ step ∈ s.steps ∧ Text.IsPermitted step.literal := by
  intro text step s f
  have hf : f ∈ (scanAll text).features := by decide +kernel
  have hs : s ∈ f.scenarios := List.mem_singleton_self s
  have hstep : step ∈ s.steps := List.mem_singleton_self step
  have hiff := (isPermitted_literals text f hf s hs step hstep).2
  exact ⟨hf, hs, hstep, hiff.2 (by decide +kernel)⟩

/-- A text can have steps whose stubs have other literals. -/
theorem Feature.not_isPermitted_literals :
    (∃ f ∈ (scanAll "Feature: a\n  Scenario: b\n    Given c\rd\n").features,
      ∃ s ∈ f.scenarios, ∃ step ∈ s.steps, ¬ Text.IsPermitted step.literal) ∧
    ∃ f ∈ (scanAll (String.ofList
        ("Feature: a\n  Scenario: b\n    Given ".toList ++ '"' :: List.replicate 255 '#'))).features,
      ∃ s ∈ f.scenarios, ∃ step ∈ s.steps, ¬ Text.IsPermitted step.literal := by
  constructor
  · let step : Step := ⟨.Given, "c\rd", 3⟩
    have hliteral : ¬ Text.IsPermitted step.literal := by
      rw [Step.isPermitted_literal_iff (by decide)]
      exact fun h => h.1 (by decide)
    exact ⟨⟨"a", "", [⟨"b", [step], 2⟩]⟩, by decide +kernel, _, List.mem_cons_self, step,
      List.mem_cons_self, hliteral⟩
  · let step : Step := ⟨.Given, String.ofList (Text.closing 255), 3⟩
    have hdescription : step.description.toList = Text.closing 255 := String.toList_ofList
    have hliteral : ¬ Text.IsPermitted step.literal := by
      rw [Step.isPermitted_literal_iff (by rw [hdescription]; decide +kernel), hdescription]
      exact fun h => h.2 (List.infix_refl _)
    refine ⟨⟨"a", "", [⟨"b", [step], 2⟩]⟩, ?_, _, List.mem_cons_self, step, List.mem_cons_self, hliteral⟩
    rw [scanAll, String.toList_ofList]
    decide +kernel

end Acceptance
