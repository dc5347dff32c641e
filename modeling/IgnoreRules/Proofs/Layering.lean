import IgnoreRules.Proofs.LineByLine
import IgnoreRules.Selection

/-!
# What layers of rules end up where

A selection with a configuration file has four sources of rules above the built-in
lines: the rule files and the lines of the configuration, and the rule files and the
lines that are given for one use. They are put together in two steps that know nothing
of each other. The selection appends its rule files to those of the configuration and
its lines to those of the configuration; the configuration then puts all rule files
below all lines.

So what is given for one use does not come on top as a whole. Its lines do, and its
rule files come above the rule files of the configuration but below its lines. The two
orders are the same for all paths on which these two layers do not disagree, and the
statement at the end says exactly which paths are left.
-/

namespace IgnoreRules

namespace RuleSet

/-- Two layers can change their places in the middle, as far as one verdict is concerned,
unless both have a say in it, nothing above them has, and they disagree. -/
theorem answer_ignored_swap_iff (lower extra files lines : RuleSet) (query : Query) :
    ((lower ++ files ++ (extra ++ lines)).answer query).ignored =
        ((lower ++ extra ++ files ++ lines).answer query).ignored ↔
      ((files.answer query).deciding.isSome = true →
        (extra.answer query).deciding.isSome = true →
          (lines.answer query).deciding = none →
            (files.answer query).ignored = (extra.answer query).ignored) := by
  rw [← append_assoc]
  simp only [answer_append_eq_ite]
  cases (lines.answer query).deciding with
  | some pattern => simp
  | none =>
      cases (extra.answer query).deciding with
      | none => simp
      | some pattern =>
          cases (files.answer query).deciding with
          | none => simp
          | some other => simp [eq_comm]

end RuleSet

namespace RuleFile

variable {fs : FileSystem} {root : Path}

theorem foldlM_loadOver_append (start first : RuleSet) (paths : List Path) :
    paths.foldlM (loadOver fs root) (start ++ first) =
      (paths.foldlM (loadOver fs root) first).map (start ++ ·) := by
  induction paths generalizing first with
  | nil => rfl
  | cons path paths ih =>
      rw [List.foldlM_cons, List.foldlM_cons, loadOver, loadOver]
      cases load fs root path with
      | error fault => rfl
      | ok rules =>
          have := ih (first ++ rules)
          rw [← RuleSet.append_assoc] at this
          exact this

/-- Layering on top of something is layering on nothing, put on top of it. -/
theorem foldlM_loadOver (start : RuleSet) (paths : List Path) :
    paths.foldlM (loadOver fs root) start = (loadAll fs root paths).map (start ++ ·) := by
  rw [loadAll, ← foldlM_loadOver_append, RuleSet.append_empty]

/-- Several rule files give what they give one by one. -/
theorem loadAll_cons_eq_ok_iff {path : Path} {paths : List Path} {rules : RuleSet} :
    loadAll fs root (path :: paths) = .ok rules ↔
      ∃ first others, load fs root path = .ok first ∧ loadAll fs root paths = .ok others ∧
        first ++ others = rules := by
  rw [loadAll, List.foldlM_cons, bind_eq_ok_iff]
  constructor
  · intro h
    obtain ⟨next, hnext, h⟩ := h
    obtain ⟨first, hfirst, hnext⟩ := map_eq_ok_iff.1 hnext
    rw [foldlM_loadOver] at h
    obtain ⟨others, hothers, h⟩ := map_eq_ok_iff.1 h
    rw [← hnext] at h
    exact ⟨first, others, hfirst, hothers, h⟩
  · intro h
    obtain ⟨first, others, hfirst, hothers, h⟩ := h
    refine ⟨first, map_eq_ok_iff.2 ⟨first, hfirst, rfl⟩, ?_⟩
    rw [foldlM_loadOver]
    exact map_eq_ok_iff.2 ⟨others, hothers, h⟩

/-- Further rule files are layered on top of the others. -/
theorem loadAll_append {paths more : List Path} {rules others : RuleSet}
    (hpaths : loadAll fs root paths = .ok rules) (hmore : loadAll fs root more = .ok others) :
    loadAll fs root (paths ++ more) = .ok (rules ++ others) := by
  rw [loadAll] at hpaths
  rw [loadAll, List.foldlM_append, hpaths]
  show more.foldlM (loadOver fs root) rules = _
  rw [foldlM_loadOver, hmore]
  rfl

theorem load_eq_ok_iff {path : Path} {rules : RuleSet} :
    load fs root path = .ok rules ↔
      ∃ lines resolved, readLines fs root path = .ok lines ∧
        resolve fs root path = .ok resolved ∧
        RuleSet.ofLines lines (some (compactHome fs.home resolved.toText)) = .ok rules := by
  rw [load, bind_eq_ok_iff]
  constructor
  · intro h
    obtain ⟨lines, hlines, h⟩ := h
    obtain ⟨resolved, hresolved, h⟩ := bind_eq_ok_iff.1 h
    exact ⟨lines, resolved, hlines, hresolved, mapError_eq_ok_iff.1 h⟩
  · intro h
    obtain ⟨lines, resolved, hlines, hresolved, h⟩ := h
    exact ⟨lines, hlines, bind_eq_ok_iff.2 ⟨resolved, hresolved, mapError_eq_ok_iff.2 h⟩⟩

theorem locate_eq_ok_iff {path place : Path} :
    locate fs root path = .ok place ↔
      resolve fs root path = .ok place ∧ fs.isTooLong place = false := by
  rw [locate, bind_eq_ok_iff]
  constructor
  · intro h
    obtain ⟨resolved, hresolved, h⟩ := h
    split at h
    · cases h
    · next hlength =>
        cases h
        exact ⟨hresolved, Bool.eq_false_iff.2 hlength⟩
  · intro h
    obtain ⟨hresolved, hlength⟩ := h
    refine ⟨place, hresolved, ?_⟩
    rw [hlength, if_neg Bool.false_ne_true]
    rfl

/-- A rule file is read from the path that it resolves to. -/
theorem load_congr {root root' path path' : Path}
    (h : resolve fs root path = resolve fs root' path') :
    load fs root path = load fs root' path' := by
  rw [load, load, readLines, readLines, locate, locate, h]

end RuleFile

theorem Config.ruleSet_eq_ok_iff {fs : FileSystem} {config : Config} {rules : RuleSet} :
    config.ruleSet fs = .ok rules ↔
      ∃ defaults files inline, config.defaultRules = .ok defaults ∧
        RuleFile.loadAll fs config.root config.ruleFiles = .ok files ∧
        config.inlineRules = .ok inline ∧ defaults ++ files ++ inline = rules := by
  rw [ruleSet, bind_eq_ok_iff]
  constructor
  · intro h
    obtain ⟨defaults, hdefaults, h⟩ := h
    obtain ⟨files, hfiles, h⟩ := bind_eq_ok_iff.1 h
    obtain ⟨inline, hinline, h⟩ := bind_eq_ok_iff.1 h
    cases h
    exact ⟨defaults, files, inline, hdefaults, hfiles, hinline, rfl⟩
  · intro h
    obtain ⟨defaults, files, inline, hdefaults, hfiles, hinline, h⟩ := h
    refine ⟨defaults, hdefaults, bind_eq_ok_iff.2 ⟨files, hfiles, ?_⟩⟩
    refine bind_eq_ok_iff.2 ⟨inline, hinline, ?_⟩
    rw [h]
    rfl

namespace Config

/-- The rules of an extended configuration: its own rule files, the further ones, its own
lines, and the further ones, from the bottom to the top. -/
theorem exists_ruleSet_extend {fs : FileSystem} {config : Config} {files : List Path}
    {lines : List (List Char)} {base fileRules lineRules : RuleSet}
    (hbase : config.ruleSet fs = .ok base)
    (hfiles : RuleFile.loadAll fs config.root files = .ok fileRules)
    (hlines : RuleSet.ofLines lines (some inlineOrigin) = .ok lineRules) :
    ∃ lower extra moved, config.inlineRules = .ok extra ∧ lower ++ extra = base ∧
      moved.unplaced = lineRules.unplaced ∧
      (config.extend files lines).ruleSet fs = .ok (lower ++ fileRules ++ (extra ++ moved)) := by
  obtain ⟨defaults, own, extra, hdefaults, hown, hextra, heq⟩ := ruleSet_eq_ok_iff.1 hbase
  obtain ⟨moved, hmoved, hsame⟩ :=
    RuleSet.exists_ofLines_append (mapError_eq_ok_iff.1 hextra) hlines
  refine ⟨defaults ++ own, extra, moved, hextra, heq, hsame, ruleSet_eq_ok_iff.2 ?_⟩
  refine ⟨defaults, own ++ fileRules, extra ++ moved, hdefaults,
    RuleFile.loadAll_append hown hfiles, mapError_eq_ok_iff.2 hmoved, ?_⟩
  rw [← RuleSet.append_assoc defaults]

end Config

/-- Files below the working directory, each with the names that lead there. -/
def FileSystem.below (files : List (List String × List UInt8)) : FileSystem :=
  { home := .ofText "/home".toList
    homes := []
    workingDirectory := .ofText "/work".toList
    workingDirectory_isAbsolute := rfl
    entries := files.map fun file => (("work" :: file.1).map String.toList, .file file.2) }

namespace Selection

variable {fs : FileSystem}

/-- A rule file that has been placed stays where it is, wherever the configuration lies. -/
theorem resolve_placed {path placed : Path}
    (h : placeRuleFile fs path = .ok placed) (root : Path) :
    RuleFile.resolve fs root placed = RuleFile.resolve fs fs.workingDirectory path := by
  rw [placeRuleFile, mapError_eq_ok_iff] at h
  rw [h]
  have habsolute : placed.isAbsolute = true := by
    rw [RuleFile.resolve] at h
    split at h
    · cases h
    · next expanded _ =>
        cases h
        exact Path.isAbsolute_join fs.workingDirectory_isAbsolute expanded
  rw [RuleFile.resolve, Path.expandHome?_of_isAbsolute habsolute fs.homeOf?]
  show Except.ok (root.join placed) = _
  rw [Path.join_of_isAbsolute habsolute]

/-- A rule file that is readable can be placed. -/
theorem exists_placed {path : Path} {rules : RuleSet}
    (h : RuleFile.load fs fs.workingDirectory path = .ok rules) :
    ∃ placed, placeRuleFile fs path = .ok placed := by
  obtain ⟨_, placed, _, hplaced, _⟩ := RuleFile.load_eq_ok_iff.1 h
  exact ⟨placed, mapError_eq_ok_iff.2 hplaced⟩

/-- The rule files of a selection give the same rules from the root of a configuration
as from the working directory. -/
theorem exists_loadAll_placed {files : List Path} {rules : RuleSet}
    (h : RuleFile.loadAll fs fs.workingDirectory files = .ok rules) (root : Path) :
    ∃ placed, files.mapM (placeRuleFile fs) = .ok placed ∧
      RuleFile.loadAll fs root placed = .ok rules := by
  induction files generalizing rules with
  | nil =>
      cases h
      exact ⟨[], rfl, rfl⟩
  | cons file files ih =>
      obtain ⟨first, others, hfirst, hothers, heq⟩ := RuleFile.loadAll_cons_eq_ok_iff.1 h
      obtain ⟨placed, hplaced, hloaded⟩ := ih hothers
      obtain ⟨path, hpath⟩ := exists_placed hfirst
      refine ⟨path :: placed, ?_, RuleFile.loadAll_cons_eq_ok_iff.2
        ⟨first, others, ?_, hloaded, heq⟩⟩
      · rw [List.mapM_cons, hpath, hplaced]
        rfl
      · rw [RuleFile.load_congr (resolve_placed hpath root)]
        exact hfirst

/-- A selection is resolved first, and then its rules are read. -/
theorem load_eq_ok_iff_resolve {selection : Selection} {config : Config} {rules : RuleSet} :
    selection.load fs = .ok (config, rules) ↔
      selection.resolve fs = .ok config ∧ config.ruleSet fs = .ok rules := by
  rw [load, bind_eq_ok_iff]
  constructor
  · intro h
    obtain ⟨resolved, hresolved, h⟩ := h
    obtain ⟨all, hall, h⟩ := bind_eq_ok_iff.1 h
    cases h
    exact ⟨hresolved, mapError_eq_ok_iff.1 hall⟩
  · intro h
    obtain ⟨hresolved, hrules⟩ := h
    exact ⟨config, hresolved, bind_eq_ok_iff.2 ⟨rules, mapError_eq_ok_iff.2 hrules, rfl⟩⟩

theorem load_eq_ok_iff {files : List Path} {lines : List (List Char)} {path : Path}
    {config : Config} {rules : RuleSet} :
    load ⟨files, lines, some path⟩ fs = .ok (config, rules) ↔
      ∃ own placed, loadConfig fs path = .ok own ∧
        files.mapM (placeRuleFile fs) = .ok placed ∧
        own.extend placed lines = config ∧ config.ruleSet fs = .ok rules := by
  rw [load_eq_ok_iff_resolve]
  constructor
  · intro h
    obtain ⟨hresolved, hrules⟩ := h
    obtain ⟨own, hown, hresolved⟩ := bind_eq_ok_iff.1 hresolved
    obtain ⟨placed, hplaced, hresolved⟩ := bind_eq_ok_iff.1 hresolved
    cases hresolved
    exact ⟨own, placed, hown, hplaced, rfl, hrules⟩
  · intro h
    obtain ⟨own, placed, hown, hplaced, hconfig, hrules⟩ := h
    refine ⟨bind_eq_ok_iff.2 ⟨own, hown, bind_eq_ok_iff.2 ⟨placed, hplaced, ?_⟩⟩, hrules⟩
    rw [← hconfig]
    rfl

/-- What is given for one use comes on top of the configuration file with all its rules,
lines over rule files, except that its rule files do not overrule the lines of the
configuration file. So the answer is another one for just those queries that its lines
leave open and on which its rule files and the lines of the configuration file
disagree. -/
theorem load_layers {path : Path} {files : List Path} {lines : List (List Char)}
    {config : Config} {base fileRules lineRules : RuleSet}
    (hbase : load ⟨[], [], some path⟩ fs = .ok (config, base))
    (hfiles : RuleFile.loadAll fs fs.workingDirectory files = .ok fileRules)
    (hlines : RuleSet.ofLines lines (some inlineOrigin) = .ok lineRules) :
    ∃ whole rules lower extra,
      load ⟨files, lines, some path⟩ fs = .ok (whole, rules) ∧
      config.inlineRules = .ok extra ∧ lower ++ extra = base ∧
      ∀ query,
        (rules.answer query).ignored =
          ((lower ++ fileRules ++ extra ++ lineRules).answer query).ignored ∧
        ((rules.answer query).ignored =
            ((base ++ fileRules ++ lineRules).answer query).ignored ↔
          ((fileRules.answer query).deciding.isSome = true →
            (extra.answer query).deciding.isSome = true →
              (lineRules.answer query).deciding = none →
                (fileRules.answer query).ignored = (extra.answer query).ignored)) := by
  obtain ⟨own, nothing, hown, hnothing, hconfig, hbase⟩ := load_eq_ok_iff.1 hbase
  rw [List.mapM_nil] at hnothing
  cases hnothing
  rw [Config.extend_nil] at hconfig
  subst hconfig
  obtain ⟨placed, hplaced, hfiles⟩ := exists_loadAll_placed hfiles own.root
  obtain ⟨lower, extra, moved, hextra, heq, hsame, hrules⟩ :=
    Config.exists_ruleSet_extend hbase hfiles hlines
  refine ⟨own.extend placed lines, _, lower, extra,
    load_eq_ok_iff.2 ⟨own, placed, hown, hplaced, rfl, hrules⟩, hextra, heq, fun query => ?_⟩
  have hverdict : ((lower ++ fileRules ++ (extra ++ moved)).answer query).ignored =
      ((lower ++ fileRules ++ (extra ++ lineRules)).answer query).ignored := by
    apply RuleSet.answer_ignored_congr
    rw [RuleSet.unplaced_append, RuleSet.unplaced_append extra, hsame,
      ← RuleSet.unplaced_append extra, ← RuleSet.unplaced_append]
  rw [hverdict, ← heq]
  refine ⟨?_, RuleSet.answer_ignored_swap_iff lower extra fileRules lineRules query⟩
  rw [RuleSet.append_assoc (lower ++ fileRules)]

/-- A configuration file. -/
def logConfig : Path :=
  .ofText "config".toList

/-- A rule file. -/
def logRules : Path :=
  .ofText "rules".toList

/-- The line of the configuration file ignores all logs, and the rule file takes one of
them back in. -/
def logFiles : FileSystem :=
  { home := .ofText "/home".toList
    homes := []
    workingDirectory := .ofText "/work".toList
    workingDirectory_isAbsolute := by decide
    entries := [
      (["work".toList, "config".toList],
        .file "rule_files: []\nextra_patterns: ['*.log']\n".toUTF8.data.toList),
      (["work".toList, "rules".toList], .file "!a.log\n".toUTF8.data.toList)] }

theorem exists_load_logConfig :
    ∃ loaded, load ⟨[], [], some logConfig⟩ logFiles = .ok loaded :=
  exists_of_isOk (by decide +kernel)

theorem exists_loadAll_logRules :
    ∃ rules, RuleFile.loadAll logFiles logFiles.workingDirectory [logRules] = .ok rules :=
  exists_of_isOk (by decide +kernel)

theorem load_layers_logFiles :
    ∃ config base fileRules lineRules whole rules lower extra,
      load ⟨[], [], some logConfig⟩ logFiles = .ok (config, base) ∧
      RuleFile.loadAll logFiles logFiles.workingDirectory [logRules] = .ok fileRules ∧
      RuleSet.ofLines ["*.tmp".toList] (some inlineOrigin) = .ok lineRules ∧
      load ⟨[logRules], ["*.tmp".toList], some logConfig⟩ logFiles = .ok (whole, rules) ∧
      config.inlineRules = .ok extra ∧ lower ++ extra = base ∧
      ∀ query,
        (rules.answer query).ignored =
          ((lower ++ fileRules ++ extra ++ lineRules).answer query).ignored ∧
        ((rules.answer query).ignored =
            ((base ++ fileRules ++ lineRules).answer query).ignored ↔
          ((fileRules.answer query).deciding.isSome = true →
            (extra.answer query).deciding.isSome = true →
              (lineRules.answer query).deciding = none →
                (fileRules.answer query).ignored = (extra.answer query).ignored)) := by
  obtain ⟨⟨config, base⟩, hbase⟩ := exists_load_logConfig
  obtain ⟨fileRules, hfiles⟩ := exists_loadAll_logRules
  obtain ⟨lineRules, hlines⟩ := exists_of_isOk (by decide +kernel :
    (RuleSet.ofLines ["*.tmp".toList] (some inlineOrigin)).isOk = true)
  obtain ⟨whole, rules, lower, extra, h⟩ := load_layers hbase hfiles hlines
  exact ⟨config, base, fileRules, lineRules, whole, rules, lower, extra, hbase, hfiles, hlines, h⟩

/-- The rule file, given for this one use, does not get its say on the log. -/
theorem logFiles_not_taken_back :
    ∃ config base fileRules lineRules whole rules,
      load ⟨[], [], some logConfig⟩ logFiles = .ok (config, base) ∧
      RuleFile.loadAll logFiles logFiles.workingDirectory [logRules] = .ok fileRules ∧
      RuleSet.ofLines [] (some inlineOrigin) = .ok lineRules ∧
      load ⟨[logRules], [], some logConfig⟩ logFiles = .ok (whole, rules) ∧
      (rules.answer ⟨"a.log".toList, false⟩).ignored = true ∧
      ((base ++ fileRules ++ lineRules).answer ⟨"a.log".toList, false⟩).ignored = false := by
  obtain ⟨⟨config, base⟩, hbase⟩ := exists_load_logConfig
  obtain ⟨fileRules, hfiles⟩ := exists_loadAll_logRules
  obtain ⟨⟨whole, rules⟩, hrules⟩ := exists_of_isOk (by decide +kernel :
    (load ⟨[logRules], [], some logConfig⟩ logFiles).isOk = true)
  have htold : (load ⟨[logRules], [], some logConfig⟩ logFiles).toOption.map
      (fun loaded => (loaded.2.answer ⟨"a.log".toList, false⟩).ignored) = some true := by
    decide +kernel
  have hmeant : (load ⟨[], [], some logConfig⟩ logFiles).toOption.bind (fun loaded =>
      (RuleFile.loadAll logFiles logFiles.workingDirectory [logRules]).toOption.map fun rules =>
        ((loaded.2 ++ rules ++ .empty).answer ⟨"a.log".toList, false⟩).ignored) =
        some false := by
    decide +kernel
  rw [hrules] at htold
  rw [hbase, hfiles] at hmeant
  exact ⟨config, base, fileRules, .empty, whole, rules, hbase, hfiles, rfl, hrules,
    Option.some.inj htold, Option.some.inj hmeant⟩

end Selection

end IgnoreRules
