import IgnoreRules.Proofs.Layering

/-!
# Who has named a missing rule file

A rule file that does not exist is reported, and so the report should be about a file that
somebody has asked for. The rule file in the working directory is one that nobody has to ask
for, and it is looked for only to be left out if it is not there.

A configuration file has no such care taken of it. A document that lists no rule files gets
the same rule file by default, before anybody has looked whether it exists, and then it is
loaded like one that was listed. So there are three ways for a rule file to be reported as
missing and not two: it was given for this one use, or it is listed in the document, or it
lies beside a document that lists none. The statement at the end says that these are all, and
that the third always happens when the file is not there.
-/

namespace IgnoreRules

/-! ## What a rule file fails with -/

namespace RuleFile

variable {fs : FileSystem} {root : Path}

theorem isFile_eq_false_iff {place : Path} : fs.isFile place = false ↔ fs.bytes? place = none := by
  rw [FileSystem.isFile, Option.isSome_eq_false_iff, Option.isNone_iff_eq_none]

theorem resolve_ne_notFound {path place : Path} :
    resolve fs root path ≠ .error (.notFound place) := by
  intro h
  rw [resolve] at h
  split at h <;> cases h

theorem readLines_notFound_iff {path place : Path} :
    readLines fs root path = .error (.notFound place) ↔
      locate fs root path = .ok place ∧ fs.isFile place = false := by
  rw [readLines, bind_eq_error_iff]
  constructor
  · intro h
    rcases h with h | ⟨found, hfound, h⟩
    · rcases bind_eq_error_iff.1 h with h | ⟨_, _, h⟩
      · exact absurd h resolve_ne_notFound
      · split at h <;> cases h
    · split at h
      · next habsent =>
          cases h
          exact ⟨hfound, isFile_eq_false_iff.2 habsent⟩
      · obtain ⟨_, _, h⟩ := mapError_eq_error_iff.1 h
        cases h
  · intro h
    obtain ⟨hplace, habsent⟩ := h
    refine .inr ⟨place, hplace, ?_⟩
    rw [isFile_eq_false_iff.1 habsent]
    rfl

/-- A rule file is reported missing where its name leads to no file. -/
theorem load_notFound_iff {path place : Path} :
    load fs root path = .error (.notFound place) ↔
      locate fs root path = .ok place ∧ fs.isFile place = false := by
  rw [← readLines_notFound_iff, load, bind_eq_error_iff]
  constructor
  · intro h
    rcases h with h | ⟨_, _, h⟩
    · exact h
    · rcases bind_eq_error_iff.1 h with h | ⟨_, _, h⟩
      · exact absurd h resolve_ne_notFound
      · obtain ⟨_, _, h⟩ := mapError_eq_error_iff.1 h
        cases h
  · intro h
    exact .inl h

/-- The first of several rule files that fails decides. -/
theorem loadAll_eq_error_iff {paths : List Path} {fault : SourceFault} :
    loadAll fs root paths = .error fault ↔ ∃ before path after, paths = before ++ path :: after ∧
      (∀ earlier ∈ before, ∃ rules, load fs root earlier = .ok rules) ∧
      load fs root path = .error fault := by
  induction paths with
  | nil =>
      constructor
      · intro h
        cases h
      · rintro ⟨before, path, after, hpaths, _⟩
        exact absurd hpaths.symm (List.append_ne_nil_of_right_ne_nil before (List.cons_ne_nil _ _))
  | cons path paths ih =>
      rw [loadAll, List.foldlM_cons, bind_eq_error_iff, loadOver, map_eq_error_iff]
      simp only [foldlM_loadOver, map_eq_error_iff, ih]
      constructor
      · rintro (hpath | ⟨_, hfirst, before, later, after, rfl, hbefore, hlater⟩)
        · exact ⟨[], path, paths, rfl, List.forall_mem_nil _, hpath⟩
        · obtain ⟨rules, hrules, _⟩ := map_eq_ok_iff.1 hfirst
          exact ⟨path :: before, later, after, rfl,
            List.forall_mem_cons.2 ⟨⟨rules, hrules⟩, hbefore⟩, hlater⟩
      · rintro ⟨before, later, after, hpaths, hbefore, hlater⟩
        cases before with
        | nil =>
            cases hpaths
            exact .inl hlater
        | cons first before =>
            obtain ⟨rfl, rfl⟩ := List.cons.inj hpaths
            obtain ⟨⟨rules, hrules⟩, hbefore⟩ := List.forall_mem_cons.1 hbefore
            exact .inr ⟨_, map_eq_ok_iff.2 ⟨rules, hrules, rfl⟩, before, later, after, rfl,
              hbefore, hlater⟩

theorem exists_of_loadAll_eq_error {paths : List Path} {fault : SourceFault}
    (h : loadAll fs root paths = .error fault) :
    ∃ path ∈ paths, load fs root path = .error fault := by
  obtain ⟨before, path, after, rfl, _, hload⟩ := loadAll_eq_error_iff.1 h
  exact ⟨path, List.mem_append_right before (.head after), hload⟩

/-- A first rule file that fails decides. -/
theorem loadAll_cons_eq_error {path : Path} {fault : SourceFault}
    (h : load fs root path = .error fault) (paths : List Path) :
    loadAll fs root (path :: paths) = .error fault :=
  loadAll_eq_error_iff.2 ⟨[], path, paths, rfl, List.forall_mem_nil _, h⟩

end RuleFile

namespace Config

variable {fs : FileSystem} {config : Config}

/-- The built-in lines are always read. -/
theorem exists_defaultRules (config : Config) : ∃ rules, config.defaultRules = .ok rules := by
  rw [defaultRules]
  split
  · exact exists_of_isOk (by decide +kernel)
  · exact ⟨_, rfl⟩

/-- Only a rule file of the configuration can be missing. -/
theorem exists_of_ruleSet_notFound {place : Path}
    (h : config.ruleSet fs = .error (.notFound place)) :
    ∃ path ∈ config.ruleFiles, RuleFile.load fs config.root path = .error (.notFound place) := by
  obtain ⟨defaults, hdefaults⟩ := config.exists_defaultRules
  rcases bind_eq_error_iff.1 h with h | ⟨_, _, h⟩
  · rw [hdefaults] at h
    cases h
  · rcases bind_eq_error_iff.1 h with h | ⟨_, _, h⟩
    · exact RuleFile.exists_of_loadAll_eq_error h
    · rcases bind_eq_error_iff.1 h with h | ⟨_, _, h⟩
      · obtain ⟨_, _, h⟩ := mapError_eq_error_iff.1 h
        cases h
      · cases h

theorem ruleSet_eq_error_of_loadAll {fault : SourceFault}
    (h : RuleFile.loadAll fs config.root config.ruleFiles = .error fault) :
    config.ruleSet fs = .error fault := by
  obtain ⟨defaults, hdefaults⟩ := config.exists_defaultRules
  exact bind_eq_error_iff.2 (.inr ⟨defaults, hdefaults, bind_eq_error_iff.2 (.inl h)⟩)

end Config

/-! ## Documents -/

namespace Config

/-- The file holds the document. -/
def Holds (fs : FileSystem) (path : Path) (data : Yaml.Data) : Prop :=
  ∃ text, readText fs path = .ok text ∧ Yaml.Data.ofText text = .ok data

theorem Holds.unique {fs : FileSystem} {path : Path} {data data' : Yaml.Data}
    (h : Holds fs path data) (h' : Holds fs path data') : data = data' := by
  obtain ⟨text, htext, hdata⟩ := h
  obtain ⟨text', htext', hdata'⟩ := h'
  cases htext.symm.trans htext'
  exact Except.ok.inj (hdata.symm.trans hdata')

/-- The document has no list of rule files. -/
def OmitsFiles (data : Yaml.Data) : Prop :=
  ∃ document, entries? data = some document ∧ document.get? filesKey = none

/-- The document lists a rule file. -/
def ListsFile (data : Yaml.Data) (name : List Char) : Prop :=
  ∃ document value items, entries? data = some document ∧ document.get? filesKey = some value ∧
    items? document.data value = some items ∧ .text name ∈ items

theorem Entries.items_of_listFaults {document : Entries} {key : String} {nonEmpty : Bool}
    (h : document.listFaults key nonEmpty = .ok []) {value : Yaml.Value}
    (hvalue : document.get? key = some value) :
    ∃ items, items? document.data value = some items := by
  rw [listFaults, hvalue] at h
  dsimp only at h
  split at h
  · rw [wrongShape] at h
    obtain ⟨_, _, h⟩ := map_eq_ok_iff.1 h
    cases h
  · next items hitems => exact ⟨items, hitems⟩

/-- Where there are no faults, each of the parts has none. -/
theorem Entries.listFaults_of_faults {document : Entries} (h : document.faults = .ok []) :
    document.listFaults filesKey true = .ok [] := by
  obtain ⟨keys, _, h⟩ := bind_eq_ok_iff.1 h
  obtain ⟨defaults, _, h⟩ := bind_eq_ok_iff.1 h
  obtain ⟨files, hfiles, h⟩ := bind_eq_ok_iff.1 h
  obtain ⟨patterns, _, h⟩ := bind_eq_ok_iff.1 h
  have hnone : keys ++ patterns ++ defaults ++ files = [] := Except.ok.inj h
  rw [hfiles, (List.append_eq_nil_iff.1 hnone).2]

theorem ofData_eq_ok_ok_iff {root : Path} {data : Yaml.Data} {config : Config} :
    ofData root data = .ok (.ok config) ↔
      ∃ document, entries? data = some document ∧ document.faults = .ok [] ∧
        document.toConfig root = config := by
  rw [ofData]
  constructor
  · intro h
    split at h
    · cases h
    · next document hdocument =>
        obtain ⟨faults, hfaults, h⟩ := map_eq_ok_iff.1 h
        cases faults with
        | cons fault faults => cases h
        | nil => exact ⟨document, hdocument, hfaults, Except.ok.inj h⟩
  · intro h
    obtain ⟨document, hdocument, hfaults, h⟩ := h
    rw [hdocument]
    exact map_eq_ok_iff.2 ⟨[], hfaults, congrArg Except.ok h⟩

theorem Entries.ruleFiles_of_omits {document : Entries} (h : document.get? filesKey = none)
    (root : Path) : (document.toConfig root).ruleFiles = [defaultRuleFile] := by
  rw [toConfig, texts?, h]
  rfl

theorem Entries.ruleFiles_of_lists {document : Entries} {value : Yaml.Value}
    {items : List Yaml.Value} (hget : document.get? filesKey = some value)
    (hitems : items? document.data value = some items) (root : Path) :
    (document.toConfig root).ruleFiles = (items.filterMap text?).map Path.ofText := by
  rw [toConfig, texts?, hget, Option.bind_some, hitems]
  rfl

theorem text?_eq_some {value : Yaml.Value} {name : List Char} (h : text? value = some name) :
    value = .text name := by
  cases value <;> cases h
  rfl

/-- The rule files of a configuration are those that its document lists, or else the one that
is meant when none is named. -/
theorem ruleFiles_of_ofData {root : Path} {data : Yaml.Data} {config : Config}
    (h : ofData root data = .ok (.ok config)) :
    (∀ path ∈ config.ruleFiles, ∃ name, ListsFile data name ∧ path = .ofText name) ∨
      OmitsFiles data ∧ config.ruleFiles = [defaultRuleFile] := by
  obtain ⟨document, hdocument, hfaults, rfl⟩ := ofData_eq_ok_ok_iff.1 h
  cases hget : document.get? filesKey with
  | none => exact .inr ⟨⟨document, hdocument, hget⟩, Entries.ruleFiles_of_omits hget root⟩
  | some value =>
      obtain ⟨items, hitems⟩ :=
        Entries.items_of_listFaults (Entries.listFaults_of_faults hfaults) hget
      refine .inl fun path hmem => ?_
      rw [Entries.ruleFiles_of_lists hget hitems] at hmem
      obtain ⟨name, hname, rfl⟩ := List.mem_map.1 hmem
      obtain ⟨item, hitem, htext⟩ := List.mem_filterMap.1 hname
      rw [text?_eq_some htext] at hitem
      exact ⟨name, ⟨document, value, items, hdocument, hget, hitems, hitem⟩, rfl⟩

theorem ruleFiles_of_omits {root : Path} {data : Yaml.Data} {config : Config}
    (h : ofData root data = .ok (.ok config)) (homits : OmitsFiles data) :
    config.ruleFiles = [defaultRuleFile] := by
  obtain ⟨document, hdocument, _, rfl⟩ := ofData_eq_ok_ok_iff.1 h
  obtain ⟨document', hdocument', hget⟩ := homits
  cases hdocument.symm.trans hdocument'
  exact Entries.ruleFiles_of_omits hget root

/-- A configuration that is loaded comes from the document of its file. -/
theorem load_eq_ok_iff {fs : FileSystem} {path : Path} {config : Config} :
    load fs path = .ok config ↔
      ∃ data, Holds fs path data ∧
        ofData (fs.absolute path).collapse.parent data = .ok (.ok config) := by
  rw [load, bind_eq_ok_iff]
  constructor
  · intro h
    obtain ⟨text, htext, h⟩ := h
    obtain ⟨result, hresult, h⟩ := bind_eq_ok_iff.1 h
    obtain ⟨data, hdata, hconfig⟩ := bind_eq_ok_iff.1 (mapError_eq_ok_iff.1 hresult)
    rw [mapError_eq_ok_iff] at h
    rw [h] at hconfig
    exact ⟨data, ⟨text, htext, hdata⟩, hconfig⟩
  · intro h
    obtain ⟨data, ⟨text, htext, hdata⟩, hconfig⟩ := h
    refine ⟨text, htext, bind_eq_ok_iff.2 ⟨.ok config, ?_, rfl⟩⟩
    exact mapError_eq_ok_iff.2 (bind_eq_ok_iff.2 ⟨data, hdata, hconfig⟩)

end Config

/-! ## Selections -/

namespace Selection

/-- The configuration file that a selection is read from, if there is one. -/
def configFile? (selection : Selection) (fs : FileSystem) : Option Path :=
  match selection.config with
  | some path => some path
  | none =>
      if selection.ruleFiles ≠ [] ∨ selection.patterns ≠ [] then none
      else if fs.contains (fs.workingDirectory.join implicitConfig) then
        some (fs.workingDirectory.join implicitConfig)
      else none

/-- The files that are looked for although nobody has asked for them can be looked up. -/
def LooksUp (selection : Selection) (fs : FileSystem) : Prop :=
  selection.ruleFiles = [] → selection.patterns = [] →
    fs.isTooLong (fs.workingDirectory.join implicitConfig) = false ∧
      fs.isTooLong (fs.workingDirectory.join Config.defaultRuleFile) = false

variable {fs : FileSystem} {selection : Selection}

theorem loadConfig_tooLong {path : Path} (h : fs.isTooLong path = true) :
    loadConfig fs path = .error (.config .tooLong) := by
  have hread : Config.readText fs path = .error .tooLong := if_pos h
  exact mapError_eq_error_iff.2 ⟨_, bind_eq_error_iff.2 (.inl hread), rfl⟩

/-- With a configuration file, what is given for one use extends it. -/
theorem resolve_of_configFile {path : Path} (h : selection.configFile? fs = some path) :
    selection.resolve fs = (do
      let own ← loadConfig fs path
      let placed ← selection.ruleFiles.mapM (placeRuleFile fs)
      return own.extend placed selection.patterns) := by
  rw [configFile?] at h
  rw [resolve]
  cases hconfig : selection.config with
  | some given =>
      rw [hconfig] at h
      cases h
      rfl
  | none =>
      rw [hconfig] at h
      dsimp only at h ⊢
      split at h
      · cases h
      · next hnone =>
          split at h
          · next himplicit =>
              cases h
              rw [if_neg hnone, if_pos himplicit]
              obtain ⟨hfiles, hlines⟩ := not_or.1 hnone
              rw [Decidable.not_not.1 hfiles, Decidable.not_not.1 hlines]
              split
              · next hlength =>
                  rw [loadConfig_tooLong hlength]
                  rfl
              · cases loadConfig fs (fs.workingDirectory.join implicitConfig) with
                | error fault => rfl
                | ok own => exact congrArg Except.ok own.extend_nil.symm
          · cases h

theorem configFile?_eq_none_iff :
    selection.configFile? fs = none ↔ selection.config = none ∧
      ((selection.ruleFiles ≠ [] ∨ selection.patterns ≠ []) ∨
        fs.contains (fs.workingDirectory.join implicitConfig) = false) := by
  rw [configFile?]
  cases selection.config with
  | some given => simp
  | none =>
      by_cases hgiven : selection.ruleFiles ≠ [] ∨ selection.patterns ≠ []
      · simp [hgiven]
      · cases fs.contains (fs.workingDirectory.join implicitConfig) <;> simp [hgiven]

/-- What is given for this one use is all there is. -/
theorem resolve_of_given (hconfig : selection.config = none)
    (hgiven : selection.ruleFiles ≠ [] ∨ selection.patterns ≠ []) :
    selection.resolve fs = .ok {
      root := fs.workingDirectory
      ruleFiles := selection.ruleFiles
      extraPatterns := selection.patterns
      includeDefaults := false } := by
  rw [resolve, hconfig]
  exact if_pos hgiven

/-- Where nothing is asked for and there is no configuration file, the rule file in the working
directory counts if it is there. -/
theorem resolve_of_nothing
    (habsent : fs.contains (fs.workingDirectory.join implicitConfig) = false) :
    resolve ⟨[], [], none⟩ fs =
      if fs.isTooLong (fs.workingDirectory.join implicitConfig) then .error (.config .tooLong)
      else if fs.isTooLong (fs.workingDirectory.join Config.defaultRuleFile) then
        .error (.source .tooLong)
      else .ok {
        root := fs.workingDirectory
        ruleFiles := if fs.isFile (fs.workingDirectory.join Config.defaultRuleFile) then
          [Config.defaultRuleFile] else []
        extraPatterns := []
        includeDefaults := true } := by
  rw [resolve]
  dsimp only
  rw [if_neg (by simp), habsent]
  cases fs.isTooLong (fs.workingDirectory.join implicitConfig)
  · cases fs.isTooLong (fs.workingDirectory.join Config.defaultRuleFile)
    · cases fs.isFile (fs.workingDirectory.join Config.defaultRuleFile) <;> rfl
    · rfl
  · rfl

/-- Without one, the rule files are those given for this one use, or the one in the working
directory if it is there. Only a file that cannot be looked up is in the way. -/
theorem resolve_of_no_configFile (h : selection.configFile? fs = none) :
    (selection.LooksUp fs ∧ ∃ config, selection.resolve fs = .ok config ∧
      config.root = fs.workingDirectory ∧ config.extraPatterns = selection.patterns ∧
      (config.ruleFiles = selection.ruleFiles ∨
        config.ruleFiles = [Config.defaultRuleFile] ∧
          fs.isFile (fs.workingDirectory.join Config.defaultRuleFile) = true)) ∨
    ¬ selection.LooksUp fs ∧ (selection.resolve fs = .error (.config .tooLong) ∨
      selection.resolve fs = .error (.source .tooLong)) := by
  obtain ⟨hconfig, hrest⟩ := configFile?_eq_none_iff.1 h
  by_cases hgiven : selection.ruleFiles ≠ [] ∨ selection.patterns ≠ []
  · refine .inl ⟨fun hfiles hlines => ?_, _, resolve_of_given hconfig hgiven, rfl, rfl, .inl rfl⟩
    exact absurd hgiven (not_or.2 ⟨(· hfiles), (· hlines)⟩)
  · obtain ⟨files, lines, config⟩ := selection
    obtain ⟨rfl, rfl⟩ : files = [] ∧ lines = [] := by simpa using hgiven
    obtain rfl : config = none := hconfig
    rw [resolve_of_nothing (hrest.resolve_left hgiven)]
    by_cases hlooks : LooksUp ⟨[], [], none⟩ fs
    · obtain ⟨hconfig, hfile⟩ := hlooks rfl rfl
      rw [hconfig, hfile]
      refine .inl ⟨hlooks, _, rfl, rfl, rfl, ?_⟩
      cases fs.isFile (fs.workingDirectory.join Config.defaultRuleFile) with
      | false => exact .inl rfl
      | true => exact .inr ⟨rfl, rfl⟩
    · refine .inr ⟨hlooks, ?_⟩
      split
      · exact .inl rfl
      · next hconfig =>
          split
          · exact .inr rfl
          · next hfile =>
              refine absurd (fun _ _ => ?_) hlooks
              exact ⟨Bool.eq_false_iff.2 hconfig, Bool.eq_false_iff.2 hfile⟩

theorem load_eq_error_iff {failure : Failure} :
    selection.load fs = .error failure ↔
      selection.resolve fs = .error failure ∨
        ∃ config fault, selection.resolve fs = .ok config ∧ config.ruleSet fs = .error fault ∧
          failure = .source fault := by
  rw [load, bind_eq_error_iff]
  constructor
  · intro h
    rcases h with h | ⟨config, hconfig, h⟩
    · exact .inl h
    · rcases bind_eq_error_iff.1 h with h | ⟨_, _, h⟩
      · obtain ⟨fault, hfault, h⟩ := mapError_eq_error_iff.1 h
        exact .inr ⟨config, fault, hconfig, hfault, h.symm⟩
      · cases h
  · intro h
    rcases h with h | ⟨config, fault, hconfig, hfault, rfl⟩
    · exact .inl h
    · refine .inr ⟨config, hconfig, bind_eq_error_iff.2 (.inl ?_)⟩
      exact mapError_eq_error_iff.2 ⟨fault, hfault, rfl⟩

theorem resolve_ne_notFound {place : Path} :
    selection.resolve fs ≠ .error (.source (.notFound place)) := by
  intro h
  cases hfile : selection.configFile? fs with
  | none =>
      rcases resolve_of_no_configFile hfile with ⟨_, config, hconfig, _⟩ | ⟨_, hfault | hfault⟩
      · rw [hconfig] at h
        cases h
      · rw [hfault] at h
        cases h
      · rw [hfault] at h
        cases h
  | some path =>
      rw [resolve_of_configFile hfile] at h
      rcases bind_eq_error_iff.1 h with h | ⟨_, _, h⟩
      · obtain ⟨_, _, h⟩ := mapError_eq_error_iff.1 h
        cases h
      · rcases bind_eq_error_iff.1 h with h | ⟨_, _, h⟩
        · obtain ⟨_, _, h⟩ := exists_of_mapM_eq_error h
          obtain ⟨fault, hfault, h⟩ := mapError_eq_error_iff.1 h
          cases h
          exact RuleFile.resolve_ne_notFound hfault
        · cases h

theorem resolve_defaultRuleFile (fs : FileSystem) (root : Path) :
    RuleFile.resolve fs root Config.defaultRuleFile = .ok (root.join Config.defaultRuleFile) :=
  rfl

/-- A rule file of a resolved selection was given for this one use, or comes from the document
of the configuration file, or it is the one in the working directory and is there. -/
theorem named_of_mem_ruleFiles {config : Config} (h : selection.resolve fs = .ok config)
    {path place : Path} (hmem : path ∈ config.ruleFiles)
    (hplace : RuleFile.resolve fs config.root path = .ok place) :
    (∃ file ∈ selection.ruleFiles, RuleFile.resolve fs fs.workingDirectory file = .ok place) ∨
    fs.isFile place = true ∨
    ∃ file data own, selection.configFile? fs = some file ∧ Config.Holds fs file data ∧
      Config.load fs file = .ok own ∧
      ((∃ name, Config.ListsFile data name ∧
          RuleFile.resolve fs own.root (.ofText name) = .ok place) ∨
        Config.OmitsFiles data ∧ place = own.root.join Config.defaultRuleFile) := by
  cases hfile : selection.configFile? fs with
  | none =>
      obtain ⟨_, resolved, hresolved, hroot, _, hfiles⟩ :=
        (resolve_of_no_configFile hfile).resolve_right (by simp [h])
      cases h.symm.trans hresolved
      rw [hroot] at hplace
      rcases hfiles with hfiles | ⟨hfiles, hpresent⟩
      · rw [hfiles] at hmem
        exact .inl ⟨path, hmem, hplace⟩
      · rw [hfiles, List.mem_singleton] at hmem
        rw [hmem, resolve_defaultRuleFile] at hplace
        cases hplace
        exact .inr (.inl hpresent)
  | some file =>
      rw [resolve_of_configFile hfile] at h
      obtain ⟨own, hown, h⟩ := bind_eq_ok_iff.1 h
      obtain ⟨placed, hplaced, h⟩ := bind_eq_ok_iff.1 h
      cases h
      rw [loadConfig, mapError_eq_ok_iff] at hown
      rcases List.mem_append.1 hmem with hmem | hmem
      · obtain ⟨data, hdata, hconfig⟩ := Config.load_eq_ok_iff.1 hown
        refine .inr (.inr ⟨file, data, own, rfl, hdata, hown, ?_⟩)
        rcases Config.ruleFiles_of_ofData hconfig with hlists | ⟨homits, hfiles⟩
        · obtain ⟨name, hname, rfl⟩ := hlists path hmem
          exact .inl ⟨name, hname, hplace⟩
        · rw [hfiles, List.mem_singleton] at hmem
          rw [hmem] at hplace
          cases hplace
          exact .inr ⟨homits, rfl⟩
      · obtain ⟨given, hgiven, hpath⟩ := exists_of_mem_mapM hplaced hmem
        exact .inl ⟨given, hgiven, (resolve_placed hpath own.root).symm.trans hplace⟩

/-- Without rule files, only the lines can fail. -/
theorem exists_load_iff {config : Config} (hconfig : selection.resolve fs = .ok config)
    (hfiles : config.ruleFiles = []) :
    (∃ loaded, selection.load fs = .ok loaded) ↔
      ∃ rules, RuleSet.ofLines config.extraPatterns (some inlineOrigin) = .ok rules := by
  obtain ⟨defaults, hdefaults⟩ := config.exists_defaultRules
  constructor
  · intro h
    obtain ⟨⟨resolved, rules⟩, h⟩ := h
    obtain ⟨hresolved, hrules⟩ := load_eq_ok_iff_resolve.1 h
    cases hconfig.symm.trans hresolved
    obtain ⟨_, _, inline, _, _, hinline, _⟩ := Config.ruleSet_eq_ok_iff.1 hrules
    exact ⟨inline, mapError_eq_ok_iff.1 hinline⟩
  · intro h
    obtain ⟨inline, hinline⟩ := h
    have hloaded : RuleFile.loadAll fs config.root config.ruleFiles = .ok .empty := by
      rw [hfiles]
      rfl
    have hrules := Config.ruleSet_eq_ok_iff.2
      ⟨defaults, .empty, inline, hdefaults, hloaded, mapError_eq_ok_iff.2 hinline, rfl⟩
    exact ⟨_, load_eq_ok_iff_resolve.2 ⟨hconfig, hrules⟩⟩

/-- A rule file that is reported missing is none, and it was given for this one use, or the
document of the configuration file lists it, or it is the one beside a document that lists
none. Without a configuration file the rule file in the working directory is never missed, and
what is left to fail are the look-ups and the lines; beside a document that lists none it always
is. -/
theorem missing_ruleFile_named (selection : Selection) (fs : FileSystem) :
    (∀ place, selection.load fs = .error (.source (.notFound place)) →
      fs.isFile place = false ∧
      ((∃ file ∈ selection.ruleFiles, RuleFile.resolve fs fs.workingDirectory file = .ok place) ∨
        ∃ file data own, selection.configFile? fs = some file ∧ Config.Holds fs file data ∧
          Config.load fs file = .ok own ∧
          ((∃ name, Config.ListsFile data name ∧
              RuleFile.resolve fs own.root (.ofText name) = .ok place) ∨
            Config.OmitsFiles data ∧ place = own.root.join Config.defaultRuleFile))) ∧
    (selection.ruleFiles = [] → selection.configFile? fs = none →
      fs.isFile (fs.workingDirectory.join Config.defaultRuleFile) = false →
      ((∃ loaded, selection.load fs = .ok loaded) ↔ selection.LooksUp fs ∧
        ∃ rules, RuleSet.ofLines selection.patterns (some inlineOrigin) = .ok rules)) ∧
    (∀ file data own placed, selection.configFile? fs = some file → Config.Holds fs file data →
      Config.load fs file = .ok own → Config.OmitsFiles data →
      selection.ruleFiles.mapM (placeRuleFile fs) = .ok placed →
      fs.isTooLong (own.root.join Config.defaultRuleFile) = false →
      fs.isFile (own.root.join Config.defaultRuleFile) = false →
      selection.load fs =
        .error (.source (.notFound (own.root.join Config.defaultRuleFile)))) := by
  refine ⟨fun place h => ?_, fun hfiles hnone habsent => ?_, ?_⟩
  · rcases load_eq_error_iff.1 h with h | ⟨config, fault, hconfig, hfault, heq⟩
    · exact absurd h resolve_ne_notFound
    · cases heq
      obtain ⟨path, hmem, hload⟩ := Config.exists_of_ruleSet_notFound hfault
      obtain ⟨hplace, habsent⟩ := RuleFile.load_notFound_iff.1 hload
      refine ⟨habsent, ?_⟩
      -- The rule file of the working directory is only taken where it is present.
      rcases named_of_mem_ruleFiles hconfig hmem (RuleFile.locate_eq_ok_iff.1 hplace).1 with
        hgiven | hpresent | hdocument
      · exact .inl hgiven
      · rw [habsent] at hpresent
        cases hpresent
      · exact .inr hdocument
  · rcases resolve_of_no_configFile hnone with
      ⟨hlooks, config, hconfig, _, hlines, hruleFiles⟩ | ⟨hlooks, hfault⟩
    · have hnofiles : config.ruleFiles = [] := by
        rcases hruleFiles with hruleFiles | ⟨_, hpresent⟩
        · rw [hruleFiles, hfiles]
        · rw [habsent] at hpresent
          cases hpresent
      rw [← hlines, exists_load_iff hconfig hnofiles]
      exact (and_iff_right hlooks).symm
    · refine ⟨fun ⟨loaded, hload⟩ => ?_, fun h => absurd h.1 hlooks⟩
      obtain ⟨hresolved, _⟩ := load_eq_ok_iff_resolve.1 hload
      rcases hfault with hfault | hfault <;> cases hresolved.symm.trans hfault
  · intro file data own placed hfile hdata hown homits hplaced hlength habsent
    refine load_eq_error_iff.2 (.inr ⟨own.extend placed selection.patterns, _, ?_, ?_, rfl⟩)
    · rw [resolve_of_configFile hfile]
      refine bind_eq_ok_iff.2 ⟨own, mapError_eq_ok_iff.2 hown, ?_⟩
      exact bind_eq_ok_iff.2 ⟨placed, hplaced, rfl⟩
    · have hfirst : own.ruleFiles = [Config.defaultRuleFile] := by
        obtain ⟨data', hdata', hconfig⟩ := Config.load_eq_ok_iff.1 hown
        rw [hdata'.unique hdata] at hconfig
        exact Config.ruleFiles_of_omits hconfig homits
      refine Config.ruleSet_eq_error_of_loadAll ?_
      rw [Config.extend, hfirst]
      refine RuleFile.loadAll_cons_eq_error (RuleFile.load_notFound_iff.2 ⟨?_, habsent⟩) placed
      exact RuleFile.locate_eq_ok_iff.2 ⟨resolve_defaultRuleFile fs own.root, hlength⟩

/-- The rule file that is reported missing. -/
def missing? : Except Failure (Config × RuleSet) → Option Path
  | .error (.source (.notFound place)) => some place
  | _ => none

theorem eq_of_missing? {loaded : Except Failure (Config × RuleSet)} {place : Path}
    (h : missing? loaded = some place) : loaded = .error (.source (.notFound place)) := by
  rw [missing?.eq_def] at h
  split at h <;> cases h
  rfl

/-- One configuration file lists a rule file, and the other one lists none. -/
def configFiles : FileSystem :=
  .below [
    (["lists"], "rule_files: [shared]\n".toUTF8.data.toList),
    (["omits"], "extra_patterns: ['*.log']\n".toUTF8.data.toList)]

theorem missing_ruleFile_named_lists :
    load ⟨[], [], some (.ofText "lists".toList)⟩ configFiles =
        .error (.source (.notFound (.ofText "/work/shared".toList))) ∧
      configFiles.isFile (.ofText "/work/shared".toList) = false := by
  have h := eq_of_missing? (by decide +kernel :
    missing? (load ⟨[], [], some (.ofText "lists".toList)⟩ configFiles) =
      some (.ofText "/work/shared".toList))
  obtain ⟨hnamed, _, _⟩ :=
    missing_ruleFile_named ⟨[], [], some (.ofText "lists".toList)⟩ configFiles
  exact ⟨h, (hnamed _ h).1⟩

/-- Nobody has named the rule file that is reported missing. -/
theorem missing_ruleFile_unnamed :
    ∃ data, Config.Holds configFiles (.ofText "omits".toList) data ∧ Config.OmitsFiles data ∧
      load ⟨[], [], some (.ofText "omits".toList)⟩ configFiles =
        .error (.source (.notFound (.ofText "/work/.gitignore".toList))) := by
  have h := eq_of_missing? (by decide +kernel :
    missing? (load ⟨[], [], some (.ofText "omits".toList)⟩ configFiles) =
      some (.ofText "/work/.gitignore".toList))
  obtain ⟨own, hown⟩ := exists_of_isOk (by decide +kernel :
    (Config.load configFiles (.ofText "omits".toList)).isOk = true)
  obtain ⟨data, hdata, hconfig⟩ := Config.load_eq_ok_iff.1 hown
  obtain ⟨text, htext, hofText⟩ := hdata
  have homits : (Config.readText configFiles (.ofText "omits".toList)).toOption.bind (fun text =>
      (Yaml.Data.ofText text).toOption.bind fun data => (Config.entries? data).map fun document =>
        (document.get? Config.filesKey).isNone) = some true := by
    decide +kernel
  rw [htext] at homits
  dsimp only [Except.toOption, Option.bind] at homits
  rw [hofText] at homits
  obtain ⟨document, hdocument, hnone⟩ := Option.map_eq_some_iff.1 homits
  exact ⟨data, ⟨text, htext, hofText⟩,
    ⟨document, hdocument, Option.isNone_iff_eq_none.1 hnone⟩, h⟩

end Selection

end IgnoreRules
