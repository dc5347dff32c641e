import Mathlib.Data.List.Forall2
import IgnoreRules.Proofs.Accounting
import IgnoreRules.Proofs.Layering

/-!
# Every rule comes from somewhere

The rules of a configuration pass through several hands. The rule files are found, read
and put one over the other, the built-in lines go below them and the lines given directly
above, and in each of these sources a line is read, dropped or passed over by itself. The
statement at the end says that nothing happens to the rules on the way: source by source,
the patterns account for the lines, and each of them knows where it comes from.

Where a rule file lies is worked out three times, to read it, to name it in its patterns,
and to list it for display. The three agree, so what a pattern names as its origin is in
the list.
-/

namespace IgnoreRules

/-- A source of rules: the name that its patterns remember, and its lines. -/
structure Layer where
  /-- The origin of the patterns. -/
  origin : List Char
  /-- The lines, as they are read. -/
  lines : List (List Char)
  deriving DecidableEq, Repr

/-- The patterns are those of the lines of the layer. -/
def Layer.Gives (layer : Layer) (patterns : List Pattern) : Prop :=
  RuleSet.Accounts 1 (some layer.origin) layer.lines patterns

/-- The layer is the rule file of that name: its lines are those of the file, and its
origin is the path that the file is read from, with the home directory written `~`. -/
def Layer.IsFile (fs : FileSystem) (root path : Path) (layer : Layer) : Prop :=
  RuleFile.readLines fs root path = .ok layer.lines ∧
    ∃ resolved, RuleFile.resolve fs root path = .ok resolved ∧
      layer.origin = compactHome fs.home resolved.toText

/-- The layers of a configuration whose rule files are given, from the bottom to the top. -/
def Config.layers (config : Config) (files : List Layer) : List Layer :=
  (if config.includeDefaults then [⟨defaultOrigin, defaultLines⟩] else []) ++ files ++
    [⟨inlineOrigin, config.extraPatterns⟩]

/-! ## Rule files -/

namespace RuleFile

variable {fs : FileSystem} {root path : Path} {paths : List Path} {rules : RuleSet}

/-- A rule file that is loaded is a layer, and its patterns are those of its lines. -/
theorem exists_layer_of_load (h : load fs root path = .ok rules) :
    ∃ file : Layer, file.IsFile fs root path ∧ file.Gives rules.patterns := by
  obtain ⟨lines, resolved, hlines, hresolved, h⟩ := load_eq_ok_iff.1 h
  exact ⟨⟨compactHome fs.home resolved.toText, lines⟩, ⟨hlines, resolved, hresolved, rfl⟩,
    RuleSet.accounts_of_ofLines h⟩

/-- Several rule files give the patterns of one after the other. -/
theorem exists_layers_of_loadAll (h : loadAll fs root paths = .ok rules) :
    ∃ (files : List Layer) (parts : List (List Pattern)),
      List.Forall₂ (Layer.IsFile fs root) paths files ∧
      List.Forall₂ Layer.Gives files parts ∧ rules.patterns = parts.flatten := by
  induction paths generalizing rules with
  | nil =>
      cases h
      exact ⟨[], [], .nil, .nil, rfl⟩
  | cons path paths ih =>
      obtain ⟨first, others, hfirst, hothers, heq⟩ := loadAll_cons_eq_ok_iff.1 h
      obtain ⟨file, hfile, hgives⟩ := exists_layer_of_load hfirst
      obtain ⟨files, parts, hfiles, hparts, hpatterns⟩ := ih hothers
      refine ⟨file :: files, first.patterns :: parts, .cons hfile hfiles,
        .cons hgives hparts, ?_⟩
      rw [← heq, RuleSet.append_patterns, hpatterns, List.flatten_cons]

/-- The origins of rule files are their paths as they are listed. -/
theorem exists_resolved_of_layers {files : List Layer}
    (h : List.Forall₂ (Layer.IsFile fs root) paths files) :
    ∃ places, paths.mapM (resolve fs root) = .ok places ∧
      files.map Layer.origin = (places.map Path.toText).map (compactHome fs.home) := by
  induction h with
  | nil => exact ⟨[], rfl, rfl⟩
  | cons hfile _ ih =>
      obtain ⟨_, resolved, hresolved, horigin⟩ := hfile
      obtain ⟨places, hplaces, horigins⟩ := ih
      refine ⟨resolved :: places, ?_, ?_⟩
      · rw [List.mapM_cons, hresolved, hplaces]
        rfl
      · rw [List.map_cons, horigin, horigins, List.map_cons, List.map_cons]

end RuleFile

/-! ## Configurations -/

namespace Config

variable {fs : FileSystem} {config : Config}

/-- The built-in lines are a layer of their own, or none. -/
theorem exists_parts_of_defaultRules {defaults : RuleSet}
    (h : config.defaultRules = .ok defaults) :
    ∃ parts, List.Forall₂ Layer.Gives
        (if config.includeDefaults then [⟨defaultOrigin, defaultLines⟩] else []) parts ∧
      defaults.patterns = parts.flatten := by
  rw [defaultRules] at h
  split at h
  · next hinclude =>
      have haccounts := RuleSet.accounts_of_ofLines (mapError_eq_ok_iff.1 h)
      rw [if_pos hinclude]
      exact ⟨[defaults.patterns], .cons haccounts .nil, List.flatten_singleton.symm⟩
  · next hinclude =>
      cases h
      rw [if_neg hinclude]
      exact ⟨[], .nil, rfl⟩

theorem exists_sourceLabels {files : List Layer}
    (h : List.Forall₂ (Layer.IsFile fs config.root) config.ruleFiles files) :
    ∃ labels, config.sourceLabels fs = .ok labels ∧
      ∀ file ∈ files, file.origin ∈ labels.map (compactHome fs.home) := by
  obtain ⟨places, hplaces, horigins⟩ := RuleFile.exists_resolved_of_layers h
  refine ⟨_, map_eq_ok_iff.2 ⟨places, hplaces, rfl⟩, fun file hmem => ?_⟩
  have horigin : file.origin ∈ files.map Layer.origin := List.mem_map_of_mem hmem
  rw [horigins] at horigin
  rw [List.map_append]
  exact List.mem_append_left _ horigin

/-- The patterns of a configuration are those of its layers, one layer after the other, and
in each they account for the lines: a line that gives a pattern has put it there once, in
the order of the lines, with its number and its origin, and nothing else is there. The
layers are the built-in lines, the rule files as they are named, and the lines given
directly, and the rule files go by the names that are listed for display. -/
theorem ruleSet_accounts_for_sources {rules : RuleSet} (h : config.ruleSet fs = .ok rules) :
    ∃ (files : List Layer) (parts : List (List Pattern)),
      List.Forall₂ (Layer.IsFile fs config.root) config.ruleFiles files ∧
      List.Forall₂ Layer.Gives (config.layers files) parts ∧
      rules.patterns = parts.flatten ∧
      ∃ labels, config.sourceLabels fs = .ok labels ∧
        ∀ file ∈ files, file.origin ∈ labels.map (compactHome fs.home) := by
  obtain ⟨defaults, own, inline, hdefaults, hown, hinline, heq⟩ := ruleSet_eq_ok_iff.1 h
  obtain ⟨below, hbelow, hbelowPatterns⟩ := exists_parts_of_defaultRules hdefaults
  obtain ⟨files, parts, hfiles, hparts, hownPatterns⟩ := RuleFile.exists_layers_of_loadAll hown
  have habove : Layer.Gives ⟨inlineOrigin, config.extraPatterns⟩ inline.patterns :=
    RuleSet.accounts_of_ofLines (mapError_eq_ok_iff.1 hinline)
  refine ⟨files, below ++ parts ++ [inline.patterns], hfiles,
    List.rel_append (List.rel_append hbelow hparts) (.cons habove .nil), ?_,
    exists_sourceLabels hfiles⟩
  rw [← heq, RuleSet.append_patterns, RuleSet.append_patterns, hbelowPatterns, hownPatterns,
    List.flatten_append, List.flatten_append, List.flatten_singleton]

/-- One rule file in the working directory and one in the home directory, each with a line
that gives no pattern. -/
def sharedFiles : FileSystem :=
  { home := .ofText "/home".toList
    homes := []
    workingDirectory := .ofText "/home/work".toList
    workingDirectory_isAbsolute := by decide
    entries := [
      (["home".toList, "work".toList, "rules".toList],
        .file "*.log\n# kept\n!a.log\n".toUTF8.data.toList),
      (["home".toList, "shared".toList], .file "[z-a]\n*.tmp\n".toUTF8.data.toList)] }

/-- The first rule file is named twice. -/
def sharedConfig : Config :=
  { root := .ofText "/home/work".toList
    ruleFiles := ["rules".toList, "~/shared".toList, "rules".toList].map Path.ofText
    extraPatterns := [[], "b".toList]
    includeDefaults := true }

theorem ruleSet_accounts_for_sources_shared :
    ∃ rules, sharedConfig.ruleSet sharedFiles = .ok rules ∧
      rules.patterns.map Pattern.location = ["<default>:1".toList, "~/work/rules:1".toList,
        "~/work/rules:3".toList, "~/shared:2".toList, "~/work/rules:1".toList,
        "~/work/rules:3".toList, "<pattern>:2".toList] ∧
      ∃ (files : List Layer) (parts : List (List Pattern)),
        List.Forall₂ (Layer.IsFile sharedFiles sharedConfig.root) sharedConfig.ruleFiles files ∧
        List.Forall₂ Layer.Gives (sharedConfig.layers files) parts ∧
        rules.patterns = parts.flatten ∧
        ∃ labels, sharedConfig.sourceLabels sharedFiles = .ok labels ∧
          ∀ file ∈ files, file.origin ∈ labels.map (compactHome sharedFiles.home) := by
  obtain ⟨rules, hrules⟩ := exists_of_isOk (by decide +kernel :
    (sharedConfig.ruleSet sharedFiles).isOk = true)
  have hlocations : (sharedConfig.ruleSet sharedFiles).toOption.map
      (fun rules => rules.patterns.map Pattern.location) = some ["<default>:1".toList,
        "~/work/rules:1".toList, "~/work/rules:3".toList, "~/shared:2".toList,
        "~/work/rules:1".toList, "~/work/rules:3".toList, "<pattern>:2".toList] := by
    decide +kernel
  rw [hrules] at hlocations
  exact ⟨rules, hrules, Option.some.inj hlocations, ruleSet_accounts_for_sources hrules⟩

end Config

end IgnoreRules
