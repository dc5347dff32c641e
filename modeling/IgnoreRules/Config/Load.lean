import IgnoreRules.Config.OfData
import IgnoreRules.FileSystem
import IgnoreRules.Text.Lines
import IgnoreRules.Yaml.Evaluation

/-!
# Configuration files

A configuration file is a text with one document. Relative rule files start at the
directory that the file lies in.
-/

namespace IgnoreRules

/-- Why a configuration file gives no configuration. -/
inductive ConfigFault where
  /-- The path cannot be looked up. -/
  | tooLong
  /-- The path leads to nothing. -/
  | missing (path : Path)
  /-- The path leads to a directory. -/
  | directory
  /-- The file is no text. -/
  | undecodable (fault : Utf8.Fault)
  /-- A scalar is not what it is marked as, or cannot be shown. -/
  | scalar (reason : Yaml.ScalarFault)
  /-- Something lies in too many others, or in itself. -/
  | tooDeep
  /-- The text is no document, for a reason in words. -/
  | malformed (path : Path) (detail : List Char)
  /-- The document is no configuration. -/
  | misshapen (path : Path) (fault : Config.ShapeFault)
  deriving Repr

namespace ConfigFault

/-- The fault in words, if it is one to report. -/
def message? : ConfigFault → Option (List Char)
  | .missing path => some ("Missing required config file: ".toList ++ path.toText)
  | .tooLong => none
  | .directory => none
  | .undecodable _ => none
  | .scalar _ => none
  | .tooDeep => none
  | .malformed path detail =>
      some ("Invalid config format (".toList ++ detail ++ "): ".toList ++ path.toText)
  | .misshapen path fault =>
      some ("Invalid config schema (".toList ++ fault.message ++ "): ".toList ++ path.toText)

/-- A fault of the text of the file at a path. -/
def ofYaml (path : Path) : Yaml.Fault → ConfigFault
  | .malformed reason => .malformed path reason.message
  | .scalar reason => .scalar reason
  | .tooDeep => .tooDeep

end ConfigFault

namespace Config

/-- The text of a file. -/
def readText (fs : FileSystem) (path : Path) : Except ConfigFault (List Char) :=
  if fs.isTooLong path then .error .tooLong
  else match fs.find? path with
  | none => .error (.missing path)
  | some .directory => .error .directory
  | some (.file bytes) => (Utf8.decode bytes).mapError .undecodable

/-- The configuration that a file holds. -/
def load (fs : FileSystem) (path : Path) : Except ConfigFault Config := do
  let text ← readText fs path
  let root := (fs.absolute path).collapse.parent
  let config ← (do ofData root (← Yaml.Data.ofText text)).mapError (.ofYaml path)
  config.mapError (.misshapen path)

end Config

end IgnoreRules
