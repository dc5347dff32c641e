import IgnoreRules.Proofs.Checking
import IgnoreRules.Proofs.LineEndings

/-!
# A rule file and the same lines given directly

Lines can be given in two ways. As a file they are encoded, found, decoded and split again,
and named after the file; given directly they are only named. Two things have to be shown.
The way through the file gives back the lines that were written, which is so for lines that
hold no line end and a text that does not start with a byte order mark. And the name does
not count: patterns that are read under another origin are the same but for that origin,
and so is what they say.
-/

namespace IgnoreRules

/-! ## The lines of a file that was written line by line -/

namespace Lines

/-- Lines as they are written into a file, each with a line feed. -/
def written (lines : List (List Char)) : List Char :=
  lines.flatMap (· ++ ['\n'])

theorem written_eq (lines : List (List Char)) :
    written lines = writtenWith (lines.map fun line => (line, .lineFeed)) := by
  rw [written, writtenWith, List.flatMap_map]
  rfl

theorem map_fst_written (lines : List (List Char)) :
    (lines.map fun line => (line, Ending.lineFeed)).map Prod.fst = lines := by
  rw [List.map_map]
  exact List.map_id lines

theorem split_written {lines : List (List Char)} (h : ∀ line ∈ lines, IsOne line) :
    split (written lines) = lines := by
  rw [← map_fst_written lines] at h
  rw [written_eq, split_closed h, map_fst_written]

/-- A file starts with the mark only if its first line does. -/
theorem written_head? {lines : List (List Char)}
    (h : ∀ line, lines.head? = some line → line.head? ≠ some '\ufeff') :
    (written lines).head? ≠ some '\ufeff' := by
  rw [← map_fst_written lines] at h
  rw [written_eq]
  exact head?_writtenWith rfl h

/-- The lines of a file are those that were written into it. -/
theorem ofBytes_written {lines : List (List Char)} (h : ∀ line ∈ lines, IsOne line)
    (hmark : (written lines).head? ≠ some '\ufeff') :
    ofBytes (Utf8.encode (written lines)) = .ok lines := by
  rw [ofBytes_unmarked hmark, split_written h]

end Lines

/-! ## The same lines from another origin -/

/-- The pattern, read from somewhere else. -/
def Pattern.withOrigin (origin : Option (List Char)) (pattern : Pattern) : Pattern :=
  { pattern with origin }

namespace RuleSet

/-- The rules, read from somewhere else. -/
def withOrigin (origin : Option (List Char)) (rules : RuleSet) : RuleSet :=
  ⟨rules.patterns.map (Pattern.withOrigin origin)⟩

/-- What lines give depends on their origin only as far as the patterns remember it. -/
theorem ofLines_withOrigin (lines : List (List Char)) (origin origin' : Option (List Char)) :
    (ofLines lines origin).map (withOrigin origin') = ofLines lines origin' := by
  have hmoved : (patternsFrom 1 origin lines).map (List.map (Pattern.withOrigin origin')) =
      patternsFrom 1 origin' lines :=
    patternsFrom_relocated (fun _ => origin') id origin fun _ _ => rfl
  rw [ofLines, ofLines, ← hmoved]
  cases patternsFrom 1 origin lines <;> rfl

theorem answer_withOrigin (rules : RuleSet) (origin : Option (List Char)) (query : Query) :
    ((rules.withOrigin origin).answer query).ignored = (rules.answer query).ignored ∧
    ((rules.withOrigin origin).answer query).deciding =
      (rules.answer query).deciding.map (Pattern.withOrigin origin) :=
  answer_relocated (fun _ => origin) id rules query

end RuleSet

/-! ## The two selections -/

/-- What is given for one use alone. -/
def Config.given (root : Path) (files : List Path) (lines : List (List Char)) : Config :=
  { root, ruleFiles := files, extraPatterns := lines, includeDefaults := false }

variable {fs : FileSystem}

theorem Config.ruleSet_given_file (root path : Path) :
    (given root [path] []).ruleSet fs = RuleFile.load fs root path := by
  have hall : RuleFile.loadAll fs root [path] = RuleFile.load fs root path := by
    rw [RuleFile.loadAll, List.foldlM_cons, RuleFile.loadOver]
    cases RuleFile.load fs root path <;> rfl
  show (RuleFile.loadAll fs root [path] >>= _) = _
  rw [hall]
  cases RuleFile.load fs root path with
  | error fault => rfl
  | ok rules => exact congrArg Except.ok (RuleSet.append_empty rules)

theorem Config.ruleSet_given_lines (root : Path) (lines : List (List Char)) :
    (given root [] lines).ruleSet fs =
      (RuleSet.ofLines lines (some inlineOrigin)).mapError .expression := by
  show ((RuleSet.ofLines lines (some inlineOrigin)).mapError SourceFault.expression >>= _) = _
  cases RuleSet.ofLines lines (some inlineOrigin) <;> rfl

/-- A file gives what its lines give. -/
theorem RuleFile.load_of_bytes {root path place : Path} {bytes : List UInt8}
    {lines : List (List Char)} (hplace : locate fs root path = .ok place)
    (hbytes : fs.bytes? place = some bytes) (hlines : Lines.ofBytes bytes = .ok lines) :
    load fs root path =
      (RuleSet.ofLines lines (some (compactHome fs.home place.toText))).mapError .expression := by
  have hread : readLines fs root path = .ok lines := by
    refine bind_eq_ok_iff.2 ⟨place, hplace, ?_⟩
    rw [hbytes]
    dsimp only
    rw [hlines]
    rfl
  rw [load, hread, (locate_eq_ok_iff.1 hplace).1]
  rfl

namespace Selection

theorem load_given {files : List Path} {lines : List (List Char)}
    (h : files ≠ [] ∨ lines ≠ []) :
    load ⟨files, lines, none⟩ fs =
      (((Config.given fs.workingDirectory files lines).ruleSet fs).mapError .source).map
        (Config.given fs.workingDirectory files lines, ·) := by
  have hresolve : resolve ⟨files, lines, none⟩ fs =
      .ok (Config.given fs.workingDirectory files lines) := by
    rw [resolve]
    dsimp only
    rw [if_pos h]
    rfl
  rw [load, hresolve]
  show ((Config.ruleSet _ fs).mapError Failure.source >>= _) = _
  cases Config.ruleSet (Config.given fs.workingDirectory files lines) fs <;> rfl

theorem sourceLabels_given_file {root path place : Path}
    (h : RuleFile.resolve fs root path = .ok place) :
    (Config.given root [path] []).sourceLabels fs = .ok [place.toText] := by
  have hplaces : [path].mapM (RuleFile.resolve fs root) = .ok [place] := by
    rw [List.mapM_cons, h]
    rfl
  rw [Config.sourceLabels, Config.resolvedRuleFiles, Config.given, hplaces]
  rfl

theorem sourceLabels_given_lines (root : Path) {lines : List (List Char)} (h : lines ≠ []) :
    (Config.given root [] lines).sourceLabels fs = .ok [inlineOrigin] := by
  rw [Config.sourceLabels, Config.given]
  dsimp only
  rw [if_neg h]
  rfl

section

variable [Markup.Display]

open CommandLine in
/-- A rule file that was written line by line agrees with the same lines given directly. Either
both fail, and in the same way, or the rules are the same but for the origin that they
remember. -/
theorem file_agrees_with_lines {path place : Path} {lines : List (List Char)} (hsome : lines ≠ [])
    (hlines : ∀ line ∈ lines, Lines.IsOne line)
    (hmark : ∀ line, lines.head? = some line → line.head? ≠ some '\ufeff')
    (hplace : RuleFile.locate fs fs.workingDirectory path = .ok place)
    (hbytes : fs.bytes? place = some (Utf8.encode (Lines.written lines))) :
    (∃ failure, load ⟨[path], [], none⟩ fs = .error failure ∧
      load ⟨[], lines, none⟩ fs = .error failure) ∨
    ∃ config config' rules, load ⟨[path], [], none⟩ fs = .ok (config, rules) ∧
      load ⟨[], lines, none⟩ fs = .ok (config', rules.withOrigin (some inlineOrigin)) ∧
      (∀ query,
        ((rules.withOrigin (some inlineOrigin)).answer query).ignored =
          (rules.answer query).ignored ∧
        ((rules.withOrigin (some inlineOrigin)).answer query).deciding =
          (rules.answer query).deciding.map (Pattern.withOrigin (some inlineOrigin))) ∧
      ∀ words words' directory verbose paths,
        Request.ofWords words = .ok (.check ⟨[path], [], none⟩ directory verbose paths) →
        Request.ofWords words' = .ok (.check ⟨[], lines, none⟩ directory verbose paths) →
        ∃ outcome outcome', run fs words = .ok outcome ∧ run fs words' = .ok outcome' ∧
          outcome'.exitCode = outcome.exitCode := by
  have hofBytes : Lines.ofBytes (Utf8.encode (Lines.written lines)) = .ok lines :=
    Lines.ofBytes_written hlines (Lines.written_head? hmark)
  have hfile : load ⟨[path], [], none⟩ fs = _ := load_given (.inl (List.cons_ne_nil _ _))
  have hinline : load ⟨[], lines, none⟩ fs = _ := load_given (.inr hsome)
  rw [Config.ruleSet_given_file, RuleFile.load_of_bytes hplace hbytes hofBytes] at hfile
  -- Both sides now read the same lines, and are brought to the same origin.
  rw [Config.ruleSet_given_lines,
    ← RuleSet.ofLines_withOrigin lines (some (compactHome fs.home place.toText))] at hinline
  cases hrules : RuleSet.ofLines lines (some (compactHome fs.home place.toText)) with
  | error fault =>
      rw [hrules] at hfile hinline
      exact .inl ⟨_, hfile, hinline⟩
  | ok rules =>
      rw [hrules] at hfile hinline
      refine .inr ⟨_, _, rules, hfile, hinline, rules.answer_withOrigin _, ?_⟩
      intro words words' directory verbose paths hwords hwords'
      obtain ⟨outcome, hcheck, hreports⟩ := exists_check_reports hfile
        (sourceLabels_given_file (RuleFile.locate_eq_ok_iff.1 hplace).1)
        (fun _ => Report.exists_plainText_singleton fs.home _) directory (ofWords_ne_nil hwords)
      obtain ⟨outcome', hcheck', hreports'⟩ := exists_check_reports hinline
        (sourceLabels_given_lines _ hsome)
        (fun _ => Report.exists_plainText_singleton fs.home _) directory (ofWords_ne_nil hwords)
      refine ⟨outcome, outcome', run_of_ok hwords hcheck, run_of_ok hwords' hcheck', ?_⟩
      exact hreports.exitCode_eq hreports' fun query =>
        (rules.answer_withOrigin _ query).1

end

/-- Lines with and without a pattern. -/
def noteLines : List (List Char) :=
  ["*.log".toList, [], "# kept".toList, "[z-a]".toList, "!a.log  ".toList]

/-- A rule file that holds the lines. -/
def noteFiles : FileSystem :=
  .below [(["notes"], Utf8.encode (Lines.written noteLines))]

theorem exists_load_notes :
    ∃ loaded, load ⟨[.ofText "notes".toList], [], none⟩ noteFiles = .ok loaded :=
  exists_of_isOk (by decide +kernel)

theorem noteFiles_agree :
    ∃ config config' rules,
      load ⟨[.ofText "notes".toList], [], none⟩ noteFiles = .ok (config, rules) ∧
      load ⟨[], noteLines, none⟩ noteFiles =
        .ok (config', rules.withOrigin (some inlineOrigin)) ∧
      rules.patterns.map Pattern.location = ["/work/notes:1".toList, "/work/notes:5".toList] := by
  obtain ⟨loaded, hload⟩ := exists_load_notes
  have hlocations : (load ⟨[.ofText "notes".toList], [], none⟩ noteFiles).toOption.map
      (fun loaded => loaded.2.patterns.map Pattern.location) =
        some ["/work/notes:1".toList, "/work/notes:5".toList] := by
    decide +kernel
  have hplace : RuleFile.locate noteFiles noteFiles.workingDirectory (.ofText "notes".toList) =
      .ok (.ofText "/work/notes".toList) := by
    rfl
  have hlines : ∀ line ∈ noteLines, Lines.IsOne line := by
    decide
  have hmark : ∀ line, noteLines.head? = some line → line.head? ≠ some '\ufeff' := by
    intro line hline
    cases hline
    decide
  rcases file_agrees_with_lines (List.cons_ne_nil _ _) hlines hmark hplace (by decide +kernel) with
    ⟨failure, hfile, _⟩ | ⟨config, config', rules, hfile, hinline, _, _⟩
  · rw [hload] at hfile
    cases hfile
  · rw [hfile] at hlocations
    exact ⟨config, config', rules, hfile, hinline, Option.some.inj hlocations⟩

end Selection

end IgnoreRules
