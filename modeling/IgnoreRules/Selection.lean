import IgnoreRules.Config.Load
import IgnoreRules.Markup
import IgnoreRules.Sources

/-!
# Selections

A selection is what the user asks for: rule files and lines for this one use, and a
configuration file. What is given for one use comes on top of the configuration
file. Without either, the configuration file in the working directory counts if it
exists, and else the rule file there if it exists.
-/

namespace IgnoreRules

/-- What the user asks for. -/
structure Selection where
  /-- Rule files for this one use. -/
  ruleFiles : List Path
  /-- Lines for this one use. -/
  patterns : List (List Char)
  /-- A configuration file. -/
  config : Option Path
  deriving DecidableEq, Repr

/-- Why a selection gives no rules, or why they cannot be shown. -/
inductive Failure where
  | source (fault : SourceFault)
  | config (fault : ConfigFault)
  | display (fault : Markup.Fault)
  deriving Repr

/-- The failure in words, with the home directory written `~`, if it is one to
report. -/
def Failure.message? (home : Path) (failure : Failure) : Option (List Char) :=
  let message? := match failure with
    | .source fault => fault.message?
    | .config fault => fault.message?
    | .display _ => none
  message?.map (compactHomeInText home)

namespace Selection

/-- The configuration file that counts when nothing is asked for. -/
def implicitConfig : Path :=
  .ofText ".path-ignore.yaml".toList

/-- The configuration in a file. -/
def loadConfig (fs : FileSystem) (path : Path) : Except Failure Config :=
  (Config.load fs path).mapError .config

/-- A rule file for this one use starts at the home directory, at the top or else in
the working directory. -/
def placeRuleFile (fs : FileSystem) (path : Path) : Except Failure Path :=
  (RuleFile.resolve fs fs.workingDirectory path).mapError .source

/-- The configuration that a selection stands for. What nobody has asked for is looked up, and
where that cannot be done the failure is that of a file with the same path. -/
def resolve (selection : Selection) (fs : FileSystem) : Except Failure Config := do
  match selection.config with
  | some path =>
      let config ← loadConfig fs path
      let files ← selection.ruleFiles.mapM (placeRuleFile fs)
      return config.extend files selection.patterns
  | none =>
      let root := fs.workingDirectory
      if selection.ruleFiles ≠ [] ∨ selection.patterns ≠ [] then
        return {
          root
          ruleFiles := selection.ruleFiles
          extraPatterns := selection.patterns
          includeDefaults := false }
      else if fs.isTooLong (root.join implicitConfig) then
        throw (.config .tooLong)
      else if fs.contains (root.join implicitConfig) then
        loadConfig fs (root.join implicitConfig)
      else if fs.isTooLong (root.join Config.defaultRuleFile) then
        throw (.source .tooLong)
      else if fs.isFile (root.join Config.defaultRuleFile) then
        return .ofRoot root
      else
        return { Config.ofRoot root with ruleFiles := [] }

/-- The configuration of a selection and its rules. -/
def load (selection : Selection) (fs : FileSystem) : Except Failure (Config × RuleSet) := do
  let config ← selection.resolve fs
  let rules ← (config.ruleSet fs).mapError .source
  return (config, rules)

end Selection

end IgnoreRules
