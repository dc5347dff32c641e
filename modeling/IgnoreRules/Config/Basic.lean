import IgnoreRules.Path

/-!
# Configurations

A configuration names the sources of rules: the files to read, the lines given
directly, and whether the built-in lines count. Relative file names start at its
root.
-/

namespace IgnoreRules

/-- The sources of rules for one use. -/
structure Config where
  /-- Where relative rule files start. -/
  root : Path
  /-- The rule files, the weakest first. -/
  ruleFiles : List Path
  /-- Lines that come after all rule files. -/
  extraPatterns : List (List Char)
  /-- The built-in lines come before all rule files. -/
  includeDefaults : Bool
  deriving DecidableEq, Repr

namespace Config

/-- The rule file that is meant when none is named. -/
def defaultRuleFile : Path :=
  .ofText ".gitignore".toList

/-- The configuration of a root that names nothing. -/
def ofRoot (root : Path) : Config :=
  { root, ruleFiles := [defaultRuleFile], extraPatterns := [], includeDefaults := true }

/-- The configuration with further rule files and lines, each behind its own. -/
def extend (config : Config) (files : List Path) (lines : List (List Char)) : Config :=
  { config with
    ruleFiles := config.ruleFiles ++ files
    extraPatterns := config.extraPatterns ++ lines }

@[simp] theorem extend_nil (config : Config) : config.extend [] [] = config := by
  rw [extend, List.append_nil, List.append_nil]

end Config

end IgnoreRules
