import Acceptance.Proofs.Rescanning
import Acceptance.Proofs.StubCollection

/-!
Scanning a report. Its transcript is the printed text of the features that ran, without their descriptions,
and no line of the summary or of a stub is a header or a step, so the features are found in the report.
-/
namespace Acceptance
namespace Feature

/-- The feature without its description. -/
def undescribed (f : Feature) : Feature := { f with description := "" }

/-- The feature without its description and without the lines where things stand. -/
def bare (f : Feature) : Feature := f.unplaced.undescribed

theorem Printable.undescribed {f : Feature} (h : f.Printable) : f.undescribed.Printable :=
  ⟨h.name, ⟨[], rfl, by simp⟩, h.scenarios⟩

namespace Outline

instance : DecidablePred IsClean := fun line =>
  decidable_of_iff ('\n' ∉ line ∧ '\r' ∉ line) ⟨fun h => ⟨h.1, h.2⟩, fun h => ⟨h.newline, h.ret⟩⟩

theorem isClean_append {s t : List Char} (hs : IsClean s) (ht : IsClean t) : IsClean (s ++ t) :=
  ⟨by simp [hs.newline, ht.newline], by simp [hs.ret, ht.ret]⟩

/-- The line is neither a header nor a step, so in a feature it adds to the description at most. -/
structure IsSilent (line : List Char) : Prop extends IsPlain line where
  step : stepText? line = none

theorem isSilent_of_head {line : List Char} (hclean : IsClean line)
    (h : ∀ c ∈ line.head?, c ≠ 'F' ∧ c ≠ ' ') : IsSilent line := by
  have hstart (start rest : List Char) (c : Char) (hc : c = 'F' ∨ c = ' ') :
      line ≠ c :: start ++ rest := by
    rintro rfl
    obtain ⟨hF, hspace⟩ := h c rfl
    exact hc.elim hF hspace
  refine ⟨⟨hclean, ?_, ?_⟩, ?_⟩
  · exact restAfter?_eq_none fun rest => hstart "eature: ".toList rest 'F' (.inl rfl)
  · exact restAfter?_eq_none fun rest => hstart " Scenario: ".toList rest ' ' (.inr rfl)
  · rw [Option.eq_none_iff_forall_not_mem]
    rintro ⟨k, d⟩ hstep
    have hline := (stepText?_eq_some_iff.1 hstep).1
    rw [String.toList_append, String.toList_append, List.append_assoc, List.append_assoc] at hline
    exact hstart "   ".toList _ ' ' (.inr rfl) hline

/-- The text consists of lines of which none is a header or a step. -/
def Silent (text : List Char) : Prop :=
  ∃ lines : List (List Char), text = lines.flatMap (· ++ ['\n']) ∧ ∀ line ∈ lines, IsSilent line

theorem silent_nil : Silent [] := ⟨[], rfl, by simp⟩

theorem silent_line {line : List Char} (h : IsSilent line) : Silent (line ++ ['\n']) :=
  ⟨[line], by simp, by simpa using h⟩

theorem Silent.append {s t : List Char} (hs : Silent s) (ht : Silent t) : Silent (s ++ t) := by
  obtain ⟨lines, rfl, hlines⟩ := hs
  obtain ⟨lines', rfl, hlines'⟩ := ht
  exact ⟨lines ++ lines', List.flatMap_append.symm, List.forall_mem_append.2 ⟨hlines, hlines'⟩⟩

theorem silent_empty : Silent ['\n'] := by
  have hempty : IsSilent [] := isSilent_of_head (by decide) (by simp)
  exact silent_line hempty

theorem lines_of_silent {lines : List (List Char)} (h : ∀ line ∈ lines, IsSilent line) :
    Text.lines (lines.flatMap (· ++ ['\n'])) = lines := by
  induction lines with
  | nil => rfl
  | cons line lines ih =>
    obtain ⟨hline, hlines⟩ := List.forall_mem_cons.1 h
    rw [List.flatMap_cons, List.append_assoc, List.singleton_append,
      lines_append hline.newline hline.ret, ih hlines]

/-- Silent lines add nothing to what is open but a description. -/
theorem expected_silent {ls : List NumberedLine} (h : ∀ l ∈ ls, IsSilent l.1) (st : ScanState) :
    (expected st ls).map bare = st.feature?.toList.map bare := by
  induction ls generalizing st with
  | nil => rw [expected_nil]
  | cons l ls ih =>
    obtain ⟨hl, hls⟩ := List.forall_mem_cons.1 h
    cases st with
    | seeking => rw [expected_outside hl.feature (.inl rfl), ih hls]
    | stopped => rw [expected_outside hl.feature (.inr rfl), ih hls]
    | inFeature f =>
      rw [expected_inFeature_text hl.feature hl.scenario, ih hls]
      rfl
    | inScenario f s =>
      cases hb : isBody l.1 with
      | true =>
        have hsteps : steps [l] = [] := by simp [steps, hl.step]
        rw [expected_inScenario_body hl.feature hl.scenario hb, ih hls, hsteps, List.append_nil]
      | false =>
        rw [expected_inScenario_foreign hl.feature hb, List.map_append, ih hls]
        exact List.append_nil _

theorem found_silent {text : List Char} (h : Silent text) (st : ScanState) (n : Nat) :
    (found st n text).map bare = st.feature?.toList.map bare := by
  obtain ⟨lines, rfl, hlines⟩ := h
  rw [found, lines_of_silent hlines]
  exact expected_silent (fun l hl => hlines l.1 (List.fst_mem_of_mem_zipIdx hl)) st

/-- Features are found again where silent text follows them. -/
theorem found_printed_silent {fs : List Feature} (h : ∀ f ∈ fs, f.Printable) {rest : List Char}
    (hrest : Silent rest) :
    (found .seeking 1 (fs.flatMap Feature.canonical ++ rest)).map bare = fs.map bare := by
  obtain ⟨ended, st, hended, hfound⟩ := found_printed_append h .seeking [] rest
  have hbare (gs : List Feature) : gs.map bare = (gs.map unplaced).map undescribed :=
    List.map_map.symm
  change found .seeking 1 _ = _ at hfound
  rw [hfound, List.map_append, found_silent hrest, ← List.map_append, hended]
  change (placed [] fs).map bare = _
  rw [hbare, unplaced_placed, ← hbare]

end Outline
end Feature

open Feature Outline

/-! The transcript. -/

theorem toList_pushn (s : String) (c : Char) (n : Nat) :
    (s.pushn c n).toList = s.toList ++ List.replicate n c := by
  induction n with
  | zero => exact (List.append_nil _).symm
  | succ n ih =>
    have hpush : s.pushn c (n + 1) = (s.pushn c n).push c := rfl
    rw [hpush, String.toList_push, ih, List.append_assoc, List.replicate_succ']

theorem TranscriptLine.toList_shown (l : TranscriptLine) :
    l.shown.toList = List.replicate (2 * l.depth) ' ' ++ l.text.toList := by
  rw [shown, String.toList_append, toList_pushn]
  rfl

/-- A transcript as text, with a line feed behind each line. -/
def transcriptText (ls : List TranscriptLine) : List Char :=
  ls.flatMap fun l => l.shown.toList ++ ['\n']

theorem flatMap_eq_of_forall₂ {α β γ : Type} {f : α → List γ} {g : β → List γ} {as : List α}
    {bs : List β} (h : List.Forall₂ (fun a b => f a = g b) as bs) : as.flatMap f = bs.flatMap g := by
  induction h with
  | nil => rfl
  | cons hab _ ih => rw [List.flatMap_cons, List.flatMap_cons, hab, ih]

/-- The transcript of a scenario is its printed text. -/
theorem transcriptText_scenario {record : ScenarioRecord} {name : String} {run : ScenarioRun}
    (h : record.Tells name run) : transcriptText record.transcript = run.scenario.canonical := by
  have hheader : List.replicate 2 ' ' ++ s!"Scenario: {record.name}".toList ++ ['\n'] =
      run.scenario.header := by
    rw [String.toList_append, h.name]
    rfl
  have hstep (k : Keyword) (d : String) (status : Status) :
      (⟨2, s!"{k.name} {d}", status⟩ : TranscriptLine).shown.toList ++ ['\n'] =
        stepLine k d.toList ++ ['\n'] := by
    rw [TranscriptLine.toList_shown, String.toList_append, String.toList_append, stepLine]
    simp only [List.append_assoc]
    rfl
  have hsteps : (record.steps.map fun s => (s.keyword, s.description, s.line)).flatMap
        (fun s => stepLine s.1 s.2.1.toList ++ ['\n']) =
      (run.scenario.steps.map fun s => (s.keyword, s.description, s.line)).flatMap
        fun s => stepLine s.1 s.2.1.toList ++ ['\n'] := by
    rw [h.steps]
  rw [List.flatMap_map, List.flatMap_map] at hsteps
  have hcanonical : Step.canonical = fun s => stepLine s.keyword s.description.toList ++ ['\n'] :=
    funext canonical_step
  rw [transcriptText, ScenarioRecord.transcript, List.flatMap_cons, TranscriptLine.toList_shown,
    Scenario.canonical, ← hheader, List.flatMap_map, hcanonical]
  simp only [hstep, hsteps]

/-- The transcript of a feature is its printed text without the description. -/
theorem transcriptText_feature {record : FeatureRecord} {f : Feature} {runs : List ScenarioRun}
    (h : record.Tells f runs) : transcriptText record.transcript = f.undescribed.canonical := by
  have hheader : List.replicate 0 ' ' ++ s!"Feature: {record.name}".toList ++ ['\n'] =
      f.undescribed.header := by
    rw [String.toList_append, h.name]
    exact congrArg (· ++ ['\n']) (List.append_nil _).symm
  have hscenarios : runs.flatMap (·.scenario.canonical) =
      record.scenarios.flatMap fun r => transcriptText r.transcript :=
    flatMap_eq_of_forall₂ (h.records.imp fun _ _ hr => (transcriptText_scenario hr).symm)
  have hrest : f.scenarios.flatMap Scenario.canonical = runs.flatMap (·.scenario.canonical) := by
    rw [← h.scenarios, List.flatMap_map]
  rw [transcriptText, FeatureRecord.transcript, List.flatMap_cons, TranscriptLine.toList_shown,
    Feature.canonical, ← hheader, List.flatMap_assoc]
  change _ ++ record.scenarios.flatMap (fun r => transcriptText r.transcript) = _
  rw [← hscenarios, ← hrest]
  rfl

theorem transcriptText_suite {s : Suite} {fs : List Feature}
    (h : List.Forall₂ (fun f record => ∃ runs, record.Tells f runs) fs s.records) :
    transcriptText s.transcript = (fs.map Feature.undescribed).flatMap Feature.canonical := by
  have hrecords : fs.flatMap (·.undescribed.canonical) =
      s.records.flatMap fun r => transcriptText r.transcript :=
    flatMap_eq_of_forall₂ (h.imp fun _ _ ⟨_, hr⟩ => (transcriptText_feature hr).symm)
  rw [List.flatMap_map, hrecords, transcriptText, Suite.transcript, List.flatMap_assoc]
  rfl

/-! What follows the transcript. -/

theorem isClean_toDigits (n : Nat) : IsClean (Nat.toDigits 10 n) := by
  have hdigit : ∀ c ∈ Nat.toDigits 10 n, c.isDigit = true :=
    fun c hc => Nat.isDigit_of_mem_toDigits (by decide) (by decide) hc
  exact ⟨fun h => absurd (hdigit _ h) (by decide), fun h => absurd (hdigit _ h) (by decide)⟩

/-- A line that begins with a number is silent. -/
theorem isSilent_toDigits (n : Nat) {rest : List Char} (h : IsClean rest) :
    IsSilent (Nat.toDigits 10 n ++ rest) := by
  refine isSilent_of_head (isClean_append (isClean_toDigits n) h) fun c hc => ?_
  have hne : Nat.toDigits 10 n ≠ [] := by simp
  rw [List.head?_append_of_ne_nil _ hne] at hc
  have hdigit : c.isDigit = true :=
    Nat.isDigit_of_mem_toDigits (by decide) (by decide) (List.mem_of_head? hc)
  constructor
  · rintro rfl
    exact absurd hdigit (by decide)
  · rintro rfl
    exact absurd hdigit (by decide)

/-- Numbers with words behind them. -/
def counted (parts : List (Nat × String)) : List Char :=
  parts.flatMap fun part => Nat.toDigits 10 part.1 ++ part.2.toList

theorem isClean_counted {parts : List (Nat × String)} (h : ∀ part ∈ parts, IsClean part.2.toList) :
    IsClean (counted parts) := by
  induction parts with
  | nil => decide
  | cons part parts ih =>
    obtain ⟨hpart, hparts⟩ := List.forall_mem_cons.1 h
    exact isClean_append (isClean_append (isClean_toDigits part.1) hpart) (ih hparts)

theorem isSilent_counted {first : Nat × String} {more : List (Nat × String)}
    (h : ∀ part ∈ first :: more, IsClean part.2.toList) : IsSilent (counted (first :: more)) := by
  obtain ⟨hfirst, hmore⟩ := List.forall_mem_cons.1 h
  rw [counted, List.flatMap_cons, List.append_assoc]
  exact isSilent_toDigits first.1 (isClean_append hfirst (isClean_counted hmore))

theorem silent_summary (s : Suite) : Silent (s.summary.toList ++ ['\n']) := by
  let scenarios := [(s.stats.scenarios.total, " scenario ("),
    (s.stats.scenarios.undefined, " undefined, "), (s.stats.scenarios.failures, " failures, "),
    (s.stats.scenarios.pending, " pending)")]
  let steps := [(s.stats.steps.total, " steps ("), (s.stats.steps.undefined, " undefined, "),
    (s.stats.steps.failures, " failures, "), (s.stats.steps.pending, " pending, "),
    (s.stats.steps.optout, " optout)")]
  have hdigits (n : Nat) : (toString n).toList = Nat.toDigits 10 n := Nat.toList_repr
  have hstring (s : String) : toString s = s := rfl
  have hended : " pending)\n".toList = " pending)".toList ++ ['\n'] := by decide
  have hlines : s.summary.toList ++ ['\n'] =
      counted scenarios ++ ['\n'] ++ (counted steps ++ ['\n']) := by
    rw [Suite.summary]
    simp only [String.toList_append, hdigits, hstring, hended, scenarios, steps, counted,
      List.flatMap_cons, List.flatMap_nil, List.append_nil, List.append_assoc]
  have hscenarios : ∀ part ∈ scenarios, IsClean part.2.toList := by
    simp only [scenarios, List.forall_mem_cons]
    decide
  have hsteps : ∀ part ∈ steps, IsClean part.2.toList := by
    simp only [steps, List.forall_mem_cons]
    decide
  rw [hlines]
  exact (silent_line (isSilent_counted hscenarios)).append (silent_line (isSilent_counted hsteps))

theorem isClean_rawLiteral {s : List Char} (h : IsClean s) : IsClean (Text.rawLiteral s) := by
  constructor
  · rw [Text.mem_rawLiteral_iff (by decide)]
    exact h.newline
  · rw [Text.mem_rawLiteral_iff (by decide)]
    exact h.ret

theorem isClean_pattern {d : String} (h : IsRest d) : IsClean (Description.pattern d).toList := by
  constructor
  · rw [Description.mem_pattern_iff (by decide) (by decide)]
    exact h.newline
  · rw [Description.mem_pattern_iff (by decide) (by decide)]
    exact h.ret

/-- A stub is three lines, of which the first has the only text that is not its own. -/
theorem silent_snippet {step : Step} (h : IsRest step.description) :
    Silent (step.snippet.toList ++ ['\n']) := by
  let literal := Text.rawLiteral (Description.pattern step.description).toList
  have hend : stubEnd.toList = ", |_args| \x7b".toList ++ '\n' ::
      ("    Err(StepError::pending(\"Not implemented\"))".toList ++ '\n' :: "\x7d);".toList) := by
    decide
  have hmethod : IsClean (step.keyword.method.toList ++ ['(']) := by
    cases step.keyword <;> decide
  have hfirst : IsSilent ("registry.".toList ++ ((step.keyword.method.toList ++ ['(']) ++
      (literal ++ ", |_args| \x7b".toList))) := by
    refine isSilent_of_head ?_ (by simp)
    refine isClean_append (by decide) (isClean_append hmethod ?_)
    exact isClean_append (isClean_rawLiteral (isClean_pattern h)) (by decide)
  have hsecond : IsSilent "    Err(StepError::pending(\"Not implemented\"))".toList :=
    ⟨⟨by decide, by decide, by decide⟩, by decide⟩
  have hthird : IsSilent "\x7d);".toList := isSilent_of_head (by decide) (by simp)
  refine ⟨[_, _, _], ?_, List.forall_mem_cons.2 ⟨hfirst, List.forall_mem_cons.2 ⟨hsecond,
    List.forall_mem_singleton.2 hthird⟩⟩⟩
  rw [Step.snippet_eq, toList_stubText, hend]
  simp [literal]

theorem silent_intercalate {texts : List (List Char)} (hne : texts ≠ [])
    (h : ∀ text ∈ texts, Silent (text ++ ['\n'])) : Silent (['\n'].intercalate texts ++ ['\n']) := by
  induction texts with
  | nil => exact absurd rfl hne
  | cons text texts ih =>
    obtain ⟨htext, htexts⟩ := List.forall_mem_cons.1 h
    cases texts with
    | nil =>
      rw [List.intercalate_singleton]
      exact htext
    | cons text' texts =>
      rw [List.intercalate_cons_cons, List.append_assoc]
      exact htext.append (ih (List.cons_ne_nil _ _) htexts)

/-- A report is its transcript, with text behind it that is silent if the stubs are. -/
theorem exists_report_eq {s : Suite} (h : ∀ x ∈ s.snippets, Silent (x.toList ++ ['\n'])) :
    ∃ rest, s.report.toList = transcriptText s.transcript ++ rest ∧ Silent rest := by
  have htranscript : (String.join (s.transcript.map fun l => l.shown ++ "\n")).toList =
      transcriptText s.transcript := by
    rw [String.toList_join, List.flatMap_map]
    simp only [String.toList_append]
    rfl
  have hgap : Silent (if (String.join (s.transcript.map fun l => l.shown ++ "\n")).isEmpty then ""
      else "\n").toList := by
    split
    · exact silent_nil
    · exact silent_empty
  have hstubs : Silent (if s.snippets.isEmpty then "" else
      "\n" ++ Suite.snippetsHeader ++ "\n\n" ++ s.snippetText ++ "\n").toList := by
    split
    · exact silent_nil
    next hne =>
      have hheader : IsSilent Suite.snippetsHeader.toList :=
        isSilent_of_head (by decide) (by simp [Suite.snippetsHeader])
      have htexts : Silent (s.snippetText.toList ++ ['\n']) := by
        rw [Suite.snippetText, String.toList_intercalate]
        refine silent_intercalate (by simpa using hne) ?_
        rw [List.forall_mem_map]
        exact h
      have hparts : ("\n" ++ Suite.snippetsHeader ++ "\n\n" ++ s.snippetText ++ "\n").toList =
          ['\n'] ++ ((Suite.snippetsHeader.toList ++ ['\n']) ++
            (['\n'] ++ (s.snippetText.toList ++ ['\n']))) := by
        simp
      rw [hparts]
      exact silent_empty.append ((silent_line hheader).append (silent_empty.append htexts))
  refine ⟨_, ?_, hgap.append ((silent_summary s).append hstubs)⟩
  rw [Suite.report, ← htranscript]
  simp

namespace Session

variable {σ : Type}

/-- Features that are run have a record each, in order. -/
theorem exists_records_features (s : Session σ) (fs : List Feature) :
    ∃ records, (s.run (fs.map .feature)).records = s.records ++ records ∧
      List.Forall₂ (fun f record => ∃ runs, FeatureRecord.Tells record f runs) fs records := by
  unfold run
  induction fs generalizing s with
  | nil => exact ⟨[], (List.append_nil _).symm, .nil⟩
  | cons f fs ih =>
    obtain ⟨records, heq, htells⟩ := ih (s.call (.feature f))
    refine ⟨_ :: records, ?_, .cons ⟨_, FeatureRecord.tells_runScenarios s.registry f⟩ htells⟩
    rw [List.map_cons, List.foldl_cons, heq, records_feature, List.append_assoc]
    rfl

/-- A step that ended undefined is one of a scenario that was to be run. -/
theorem exists_scenario_of_mem_undefinedSteps {s : Session σ} {calls : List Call} {step : Step}
    (h : step ∈ undefinedSteps (s.chronicle calls)) :
    ∃ m ∈ calls.flatMap scenariosOf, step ∈ m.2.steps := by
  obtain ⟨run, hrun, rfl⟩ := List.mem_map.1 h
  obtain ⟨m, hm, hrun⟩ := List.mem_flatMap.1 (List.mem_of_mem_filter hrun)
  refine ⟨(m.1, m.2.scenario), ?_, ?_⟩
  · rw [← map_chronicle s calls]
    exact List.mem_map_of_mem hm
  · obtain ⟨r, scenario, heq⟩ := exists_of_mem_chronicle hm
    have hsteps : m.2.steps.map (·.step) = m.2.scenario.steps := by
      rw [heq]
      exact r.map_step_runSteps false scenario.steps
    rw [← hsteps]
    exact List.mem_map_of_mem hrun

theorem silent_snippets {fs : List Feature} (h : ∀ f ∈ fs, f.Printable) (config : Config)
    (r : Registry σ) : ∀ x ∈ ((fresh config r).run (fs.map .feature)).suite.snippets,
      Silent (x.toList ++ ['\n']) := by
  intro x hx
  have hfresh : x ∉ (fresh config r).suite.snippets := List.not_mem_nil
  rw [mem_snippets_run, or_iff_right hfresh, exists_snippet?_iff] at hx
  obtain ⟨step, hstep, rfl⟩ := hx
  obtain ⟨m, hm, hmem⟩ := exists_scenario_of_mem_undefinedSteps hstep
  rw [List.flatMap_map] at hm
  obtain ⟨f, hf, hm⟩ := List.mem_flatMap.1 hm
  obtain ⟨scenario, hscenario, rfl⟩ := List.mem_map.1 hm
  exact silent_snippet (((h f hf).scenarios scenario hscenario).steps step hmem)

/-- Features from a text without carriage returns, in any order, that a fresh suite runs are found again
in its report, but for descriptions and for the lines where things stand. No line of the summary or of a
stub, which stand in the report with a line feed behind them, can be a header or a step. -/
theorem scanAll_report (config : Config) (r : Registry σ) {text : String} (hret : '\r' ∉ text.toList)
    {fs : List Feature} (hfs : ∀ f ∈ fs, f ∈ (scanAll text).features) :
    let s := ((fresh config r).run (fs.map .feature)).suite
    (scanAll s.report).features.map Feature.bare = fs.map Feature.bare ∧
      ∀ part ∈ s.summary :: s.snippets, ∀ line ∈ linesOf (part.toList ++ ['\n']),
        featureName? line = none ∧ scenarioText? line = none ∧ stepText? line = none := by
  intro s
  have hprintable : ∀ f ∈ fs, f.Printable :=
    fun f hf => printable_of_mem_scanAll hret f (hfs f hf)
  have hsnippets : ∀ x ∈ s.snippets, Silent (x.toList ++ ['\n']) :=
    silent_snippets hprintable config r
  constructor
  · obtain ⟨rest, hreport, hrest⟩ := exists_report_eq hsnippets
    obtain ⟨records, hrecords, htells⟩ := exists_records_features (fresh config r) fs
    have hs : s.records = records := hrecords
    rw [← hs] at htells
    have hundescribed : ∀ f ∈ fs.map Feature.undescribed, f.Printable := by
      rw [List.forall_mem_map]
      exact fun f hf => (hprintable f hf).undescribed
    rw [scanAll_eq_found, hreport, transcriptText_suite htells,
      found_printed_silent hundescribed hrest, List.map_map]
    rfl
  · intro part hpart line hline
    have hsilent : Silent (part.toList ++ ['\n']) := by
      rcases List.mem_cons.1 hpart with rfl | hpart
      · exact silent_summary s
      · exact hsnippets part hpart
    obtain ⟨lines, heq, hlines⟩ := hsilent
    rw [← lines_eq_linesOf, heq, lines_of_silent hlines] at hline
    have hline := hlines line hline
    exact ⟨hline.feature, hline.scenario, hline.step⟩

/-- A text with texts that look like headers, and with a feature that has no scenario. -/
def imitations : String :=
  "Feature: Feature: a\n  Scenario:   Scenario: b\n    When Given \"1\" + 2\nstray\nFeature: c"

theorem scanAll_report_imitations :
    let features := (scanAll imitations).features
    let fs := features ++ features.reverse
    let s := ((fresh {} ({ state := () } : Registry Unit)).run (fs.map .feature)).suite
    '\r' ∉ imitations.toList ∧ (∀ f ∈ fs, f ∈ features) ∧ fs.length = 4 ∧ s.snippets.length = 1 ∧
      (scanAll s.report).features.map Feature.bare = fs.map Feature.bare ∧
      ∀ part ∈ s.summary :: s.snippets, ∀ line ∈ linesOf (part.toList ++ ['\n']),
        featureName? line = none ∧ scenarioText? line = none ∧ stepText? line = none := by
  intro features fs s
  have hret : '\r' ∉ imitations.toList := by simp [imitations]
  have hfs : ∀ f ∈ fs, f ∈ features := by
    intro f hf
    rcases List.mem_append.1 hf with hf | hf
    · exact hf
    · exact List.mem_reverse.1 hf
  exact ⟨hret, hfs, by decide +kernel, by decide +kernel,
    scanAll_report {} ({ state := () } : Registry Unit) hret hfs⟩

end Session
end Acceptance
