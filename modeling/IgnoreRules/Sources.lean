import IgnoreRules.Config.Basic
import IgnoreRules.RuleFile

/-!
# Layered sources

The rules of a configuration are layered: the built-in lines at the bottom, then
the rule files in order, then the lines given directly. Each pattern keeps the
origin of its layer.
-/

namespace IgnoreRules

/-- The built-in lines. -/
def defaultLines : List (List Char) :=
  [".git/".toList]

/-- The origin of built-in lines. -/
def defaultOrigin : List Char :=
  "<default>".toList

/-- The origin of lines given directly. -/
def inlineOrigin : List Char :=
  "<pattern>".toList

namespace Config

/-- The built-in layer, empty when it is switched off. -/
def defaultRules (config : Config) : Except SourceFault RuleSet :=
  if config.includeDefaults then
    (RuleSet.ofLines defaultLines (some defaultOrigin)).mapError .expression
  else .ok .empty

/-- The layer of the lines given directly. -/
def inlineRules (config : Config) : Except SourceFault RuleSet :=
  (RuleSet.ofLines config.extraPatterns (some inlineOrigin)).mapError .expression

/-- All layers, from the bottom to the top. -/
def ruleSet (config : Config) (fs : FileSystem) : Except SourceFault RuleSet := do
  let defaults ← config.defaultRules
  let files ← RuleFile.loadAll fs config.root config.ruleFiles
  let inline ← config.inlineRules
  return defaults ++ files ++ inline

/-- The paths that the rule files are read from. -/
def resolvedRuleFiles (config : Config) (fs : FileSystem) : Except SourceFault (List Path) :=
  config.ruleFiles.mapM (RuleFile.resolve fs config.root)

/-- The names of the sources, for display. -/
def sourceLabels (config : Config) (fs : FileSystem) : Except SourceFault (List (List Char)) :=
  (config.resolvedRuleFiles fs).map fun paths =>
    paths.map Path.toText ++ if config.extraPatterns = [] then [] else [inlineOrigin]

end Config

end IgnoreRules
