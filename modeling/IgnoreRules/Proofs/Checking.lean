import IgnoreRules.CommandLine.Run
import IgnoreRules.Proofs.Cells
import IgnoreRules.Proofs.CheckWords
import IgnoreRules.Proofs.Provenance

/-!
# What a check reports

A check asks the rules about one path after the other and puts what they say into a table
and an exit code. With the rules at hand nothing is left that could fail, but for one thing:
at length the report starts with the names of the sources, and these are shown as one text.
Each name is escaped by itself, and two of them together can still make up a tag, which may
close what was never opened. Then the whole check leads to nothing.

So there are two results. A check that gives a report says what the rules say, at length or
not; and the only checks of loaded rules that give no report are those at length whose
sources have names that cannot be shown together. A name does no harm unless it leaves a tag
open and another name follows.
-/

namespace IgnoreRules

namespace Report

/-! ## Names of sources -/

/-- The names of sources as they are handed on to be shown, one a line. -/
def sourceText (home : Path) (labels : List (List Char)) : List Char :=
  Markup.itemLines (labels.map (compactHome home))

section

variable [Markup.Display]

/-- The panel for the names of sources is there if their text can be shown. -/
theorem exists_sources {home : Path} {labels : List (List Char)} {shown : List Char}
    (h : Markup.plainText (sourceText home labels) = .ok shown) :
    ∃ panels, sources home labels = .ok panels := by
  rw [sourceText, Markup.itemLines, List.map_map] at h
  rw [sources]
  split
  · exact ⟨[], rfl⟩
  · exact ⟨_, bind_eq_ok_iff.2 ⟨shown, h, rfl⟩⟩

theorem sources_eq_error {home : Path} {labels : List (List Char)} {fault : Markup.Fault}
    (h : Markup.plainText (sourceText home labels) = .error fault) :
    sources home labels = .error fault := by
  rw [sources, if_neg]
  · rw [sourceText, Markup.itemLines, List.map_map] at h
    exact bind_eq_error_iff.2 (.inl h)
  · rintro rfl
    obtain ⟨shown, hshown⟩ : ∃ shown, Markup.plainText (sourceText home []) = .ok shown :=
      Markup.exists_plainText_itemLines (List.forall_mem_nil _)
    rw [hshown] at h
    cases h

/-- A single source is always shown. -/
theorem exists_plainText_singleton (home : Path) (label : List Char) :
    ∃ shown, Markup.plainText (sourceText home [label]) = .ok shown :=
  Markup.exists_plainText_itemLines (List.forall_mem_nil _)

/-- What cannot be shown has a name, other than the last, that leaves a tag open. -/
theorem exists_leavesOpen {home : Path} {labels : List (List Char)} {fault : Markup.Fault}
    (h : Markup.plainText (sourceText home labels) = .error fault) :
    ∃ label ∈ labels.dropLast, Markup.LeavesOpen (compactHome home label) := by
  by_contra hnone
  have hnames : ∀ name ∈ (labels.map (compactHome home)).dropLast, ¬ Markup.LeavesOpen name := by
    intro name hmem
    rw [← List.map_dropLast] at hmem
    obtain ⟨label, hlabel, rfl⟩ := List.mem_map.1 hmem
    exact fun hopen => hnone ⟨label, hlabel, hopen⟩
  obtain ⟨shown, hshown⟩ := Markup.exists_plainText_itemLines hnames
  rw [sourceText, hshown] at h
  cases h

end

end Report

namespace CommandLine

variable {fs : FileSystem} {selection : Selection} {config : Config} {rules : RuleSet}

/-- A selection that is loaded has its sources listed. -/
theorem exists_sourceLabels_of_load (h : selection.load fs = .ok (config, rules)) :
    ∃ labels, config.sourceLabels fs = .ok labels := by
  obtain ⟨_, hrules⟩ := Selection.load_eq_ok_iff_resolve.1 h
  obtain ⟨_, _, _, _, hfiles, _, _⟩ := Config.ruleSet_eq_ok_iff.1 hrules
  obtain ⟨_, _, hlayers, _, _⟩ := RuleFile.exists_layers_of_loadAll hfiles
  obtain ⟨labels, hlabels, _⟩ := Config.exists_sourceLabels hlayers
  exact ⟨labels, hlabels⟩

theorem exitCode_ofPanels (panels : List Panel) (success : Bool) :
    (Outcome.ofPanels panels success).exitCode = if success then 0 else 1 :=
  rfl

/-- The answer is about what was asked. -/
theorem answer_query (rules : RuleSet) (query : Query) : (rules.answer query).query = query := by
  rw [RuleSet.answer_eq, Decision.overruled_query, Decision.initial]

section

variable [Markup.Display]

/-! ## Decisions -/

/-- The outcome says what the rules say about the queries: whether one of them is ignored, and
in a table with a row for each of them, in order, what each was and what became of it. -/
structure Outcome.Reports (rules : RuleSet) (queries : List Query) (outcome : Outcome) : Prop where
  complaint : outcome.complaint = none
  success : outcome.exitCode = 0 ↔ ∃ query ∈ queries, (rules.answer query).ignored = true
  failure : outcome.exitCode = 1 ↔ ∀ query ∈ queries, (rules.answer query).ignored = false
  table : ∃ panels header rows,
    outcome.output = .panels (panels ++ [⟨"paths".toList, .table header rows⟩]) ∧
    header.take 3 = ["Path".toList, "Kind".toList, "Verdict".toList] ∧
    rows.map (·.take 3) = queries.map fun query =>
      [Report.shown query.path, Report.kindWord query.isDirectory,
        Report.verdictWord (rules.answer query).verdict]

/-- The exit code depends on the verdicts only. -/
theorem Outcome.Reports.exitCode_eq {outcome outcome' : Outcome} {rules rules' : RuleSet}
    {queries : List Query} (h : outcome.Reports rules queries)
    (h' : outcome'.Reports rules' queries)
    (hsame : ∀ query, (rules'.answer query).ignored = (rules.answer query).ignored) :
    outcome'.exitCode = outcome.exitCode := by
  by_cases hany : ∃ query ∈ queries, (rules.answer query).ignored = true
  · have hany' : ∃ query ∈ queries, (rules'.answer query).ignored = true := by
      simpa only [hsame] using hany
    rw [h.success.2 hany, h'.success.2 hany']
  · have hnone : ∀ query ∈ queries, (rules.answer query).ignored = false := by
      simpa using hany
    have hnone' : ∀ query ∈ queries, (rules'.answer query).ignored = false := by
      simpa only [hsame] using hnone
    rw [h.failure.2 hnone, h'.failure.2 hnone']

theorem reports_ofPanels (rules : RuleSet) {queries : List Query} (hsome : queries ≠ [])
    (verbose : Bool) (sources : List Panel) :
    Outcome.Reports rules queries
      (.ofPanels (sources ++ Report.decisions verbose (queries.map rules.answer))
        ((queries.map rules.answer).any (·.ignored))) where
  complaint := rfl
  success := by
    rw [exitCode_ofPanels]
    simp
  failure := by
    rw [exitCode_ofPanels]
    simp
  table := by
    have hdecisions : queries.map rules.answer ≠ [] := by simpa using hsome
    rw [Report.decisions, if_neg hdecisions]
    refine ⟨sources ++ [_], _, _, by rw [List.append_assoc]; rfl, rfl, ?_⟩
    rw [List.map_map, List.map_map]
    refine List.map_congr_left fun query _ => ?_
    show [Report.shown (rules.answer query).query.path,
      Report.kindWord (rules.answer query).query.isDirectory, _] = _
    rw [answer_query]

/-! ## Running a check -/

theorem check_of_error {failure : Failure} (h : selection.load fs = .error failure)
    (directory verbose : Bool) (paths : List (List Char)) :
    check fs selection directory verbose paths = .error failure := by
  rw [check, h]
  rfl

/-- A check of loaded rules is decided by the panels that come before the others. -/
theorem check_of_load (h : selection.load fs = .ok (config, rules)) (directory verbose : Bool)
    (paths : List (List Char)) :
    check fs selection directory verbose paths =
      (if verbose then sourcePanels fs config else .ok []).map fun sources =>
        .ofPanels (sources ++
            Report.decisions verbose ((queries directory paths).map rules.answer))
          (((queries directory paths).map rules.answer).any (·.ignored)) := by
  rw [check, h]
  cases verbose with
  | false => rfl
  | true =>
    show (sourcePanels fs config >>= _) = (sourcePanels fs config).map _
    cases sourcePanels fs config <;> rfl

theorem sourcePanels_of_labels {labels : List (List Char)}
    (h : config.sourceLabels fs = .ok labels) :
    sourcePanels fs config = (Report.sources fs.home labels).mapError .display := by
  rw [sourcePanels, h]

theorem exists_check_reports (hload : selection.load fs = .ok (config, rules))
    {labels : List (List Char)} (hlabels : config.sourceLabels fs = .ok labels) {verbose : Bool}
    (hshown : verbose = true →
      ∃ shown, Markup.plainText (Report.sourceText fs.home labels) = .ok shown)
    (directory : Bool) {paths : List (List Char)} (hpaths : paths ≠ []) :
    ∃ outcome, check fs selection directory verbose paths = .ok outcome ∧
      outcome.Reports rules (queries directory paths) := by
  have hqueries : queries directory paths ≠ [] := by simpa [queries] using hpaths
  rw [check_of_load hload]
  cases verbose with
  | false => exact ⟨_, rfl, reports_ofPanels rules hqueries false []⟩
  | true =>
      obtain ⟨shown, hshown⟩ := hshown rfl
      obtain ⟨panels, hpanels⟩ := Report.exists_sources hshown
      refine ⟨_, ?_, reports_ofPanels rules hqueries true panels⟩
      rw [if_pos rfl, sourcePanels_of_labels hlabels, hpanels]
      rfl

theorem check_eq_error (hload : selection.load fs = .ok (config, rules))
    {labels : List (List Char)} (hlabels : config.sourceLabels fs = .ok labels)
    {fault : Markup.Fault}
    (hfault : Markup.plainText (Report.sourceText fs.home labels) = .error fault)
    (directory : Bool) (paths : List (List Char)) :
    check fs selection directory true paths = .error (.display fault) := by
  rw [check_of_load hload, if_pos rfl, sourcePanels_of_labels hlabels,
    Report.sources_eq_error hfault]
  rfl

theorem run_of_ok {words : List (List Char)} {request : Request} {outcome : Outcome}
    (hwords : Request.ofWords words = .ok request) (h : perform fs request = .ok outcome) :
    run fs words = .ok outcome := by
  rw [run, hwords]
  dsimp only
  rw [h]

/-- A failure is complained about if there are words for it. -/
theorem run_of_error {words : List (List Char)} {request : Request} {failure : Failure}
    (hwords : Request.ofWords words = .ok request) (h : perform fs request = .error failure) :
    run fs words = if (failure.message? fs.home).isSome then .ok (.ofComplaint (.failure failure))
      else .error failure := by
  rw [run, hwords]
  dsimp only
  rw [h]

/-! ## What a check says -/

/-- A check of loaded rules says what the rules say, unless it is one at length and the names of
its sources cannot be shown together, which leads to nothing. Rules that are not loaded for a
reason that can be told give a complaint, no panels and exit code 2. The paths in the table are
escaped to be shown as they are given, and are so as far as escaping goes. -/
theorem run_check_reports {words : List (List Char)} {directory verbose : Bool}
    {paths : List (List Char)}
    (hwords : Request.ofWords words = .ok (.check selection directory verbose paths)) :
    paths ≠ [] ∧
    (∀ config rules, selection.load fs = .ok (config, rules) →
      ∃ labels, config.sourceLabels fs = .ok labels ∧
        ((∃ outcome, run fs words = .ok outcome ∧
            outcome.Reports rules (paths.map fun raw =>
              ⟨(Query.splitMarker raw).1, directory || (Query.splitMarker raw).2⟩) ∧
            (verbose = true →
              ∃ shown, Markup.plainText (Report.sourceText fs.home labels) = .ok shown)) ∨
          ∃ fault, run fs words = .error (.display fault) ∧ verbose = true ∧
            Markup.plainText (Report.sourceText fs.home labels) = .error fault ∧
            ∃ label ∈ labels.dropLast, Markup.LeavesOpen (compactHome fs.home label))) ∧
    (∀ failure, selection.load fs = .error failure → (failure.message? fs.home).isSome = true →
      run fs words =
        .ok { output := .panels [], complaint := some (.failure failure), exitCode := 2 }) ∧
    ∀ text, Report.Shows (Report.shown text) text := by
  have hpaths := ofWords_ne_nil hwords
  refine ⟨hpaths, fun config rules hload => ?_, fun failure hload hmessage => ?_,
    Report.shows_shown⟩
  · obtain ⟨labels, hlabels⟩ := exists_sourceLabels_of_load hload
    refine ⟨labels, hlabels, ?_⟩
    -- The names of the sources are all that can still fail, and only where they are shown.
    by_cases hfault : verbose = true ∧
      ∃ fault, Markup.plainText (Report.sourceText fs.home labels) = .error fault
    · obtain ⟨rfl, fault, hfault⟩ := hfault
      refine .inr ⟨fault, ?_, rfl, hfault, Report.exists_leavesOpen hfault⟩
      exact run_of_error hwords (check_eq_error hload hlabels hfault directory paths)
    · have hshown : verbose = true →
          ∃ shown, Markup.plainText (Report.sourceText fs.home labels) = .ok shown := by
        intro hverbose
        cases hplain : Markup.plainText (Report.sourceText fs.home labels) with
        | ok shown => exact ⟨shown, rfl⟩
        | error fault => exact absurd ⟨hverbose, fault, hplain⟩ hfault
      obtain ⟨outcome, hcheck, hreports⟩ :=
        exists_check_reports hload hlabels hshown directory hpaths
      exact .inl ⟨outcome, run_of_ok hwords hcheck, hreports, hshown⟩
  · rw [run_of_error hwords (check_of_error hload directory verbose paths), if_pos hmessage]
    rfl

end

/-- Two rule files. A bracket opens in the name of the first and closes in that of the
second. -/
def bracketFiles : FileSystem :=
  .below [
    (["e[", "f"], "*.log\n".toUTF8.data.toList),
    (["c]d"], "!a.log\n".toUTF8.data.toList)]

/-- A check of a log and of a directory with both rule files. -/
def bracketWords (verbose : Bool) : List (List Char) :=
  "check".toList :: checkWords ["e[/f".toList, "c]d".toList] [] [] false verbose
    ["a.log".toList, "b.log/".toList]

/-- What the rules are asked for. -/
def bracketSelection : Selection :=
  { ruleFiles := ["e[/f".toList, "c]d".toList].map Path.ofText
    patterns := []
    config := none }

theorem ofWords_bracketWords (verbose : Bool) :
    Request.ofWords (bracketWords verbose) =
      .ok (.check bracketSelection false verbose ["a.log".toList, "b.log/".toList]) :=
  ofWords_checkWords _ [] [] false verbose (List.cons_ne_nil _ _)

theorem exists_load_bracketSelection :
    ∃ loaded, bracketSelection.load bracketFiles = .ok loaded :=
  exists_of_isOk (by decide +kernel)

theorem run_check_reports_brackets :
    ∃ config rules, bracketSelection.load bracketFiles = .ok (config, rules) ∧
      ∀ [Markup.Display], ∃ outcome, run bracketFiles (bracketWords false) = .ok outcome ∧
        outcome.Reports rules [⟨"a.log".toList, false⟩, ⟨"b.log".toList, true⟩] ∧
        outcome.exitCode = 0 := by
  obtain ⟨⟨config, rules⟩, hload⟩ := exists_load_bracketSelection
  have hignored : (bracketSelection.load bracketFiles).toOption.map (fun loaded =>
      (loaded.2.answer ⟨"b.log".toList, true⟩).ignored) = some true := by
    decide +kernel
  rw [hload] at hignored
  refine ⟨config, rules, hload, ?_⟩
  intro display
  obtain ⟨_, hreports, _, _⟩ := run_check_reports (ofWords_bracketWords false)
  obtain ⟨labels, hlabels, hreports | ⟨_, _, hverbose, _⟩⟩ := hreports config rules hload
  · obtain ⟨outcome, hrun, hreports, _⟩ := hreports
    refine ⟨outcome, hrun, hreports, hreports.success.2 ?_⟩
    exact ⟨⟨"b.log".toList, true⟩, .tail _ (.head _), Option.some.inj hignored⟩
  · cases hverbose

/-- At length, the same check leads to nothing, whatever displays it. -/
theorem brackets_not_shown :
    ∃ config rules, bracketSelection.load bracketFiles = .ok (config, rules) ∧
      Request.ofWords (bracketWords true) =
        .ok (.check bracketSelection false true ["a.log".toList, "b.log/".toList]) ∧
      ∀ [Markup.Display], ∃ fault,
        run bracketFiles (bracketWords true) = .error (.display fault) := by
  obtain ⟨⟨config, rules⟩, hload⟩ := exists_load_bracketSelection
  obtain ⟨labels, hlabels⟩ := exists_sourceLabels_of_load hload
  have hparts : (bracketSelection.load bracketFiles).toOption.bind (fun loaded =>
      (loaded.1.sourceLabels bracketFiles).toOption.map fun labels =>
        Markup.parts (Report.sourceText bracketFiles.home labels)) =
      some [.plain "- /work/e".toList, .plain [], .tag "/f\n- /work/c".toList,
        .plain "d".toList] := by
    decide +kernel
  rw [hload] at hparts
  dsimp only [Except.toOption, Option.bind] at hparts
  rw [hlabels] at hparts
  refine ⟨config, rules, hload, ofWords_bracketWords true, ?_⟩
  intro display
  obtain ⟨fault, hfault⟩ := Markup.exists_plainText_eq_error
    [.plain "- /work/e".toList, .plain []] (Option.some.inj hparts) (by decide)
  exact ⟨fault, run_of_error (ofWords_bracketWords true)
    (check_eq_error hload hlabels hfault false _)⟩

end CommandLine

end IgnoreRules
