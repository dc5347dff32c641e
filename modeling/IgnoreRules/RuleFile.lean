import IgnoreRules.FileSystem
import IgnoreRules.RuleSet
import IgnoreRules.Text.Lines

/-!
# Rule files

A rule file is named by a path, which may start at a home directory, at the
top, or else at a root. Its lines give patterns whose origin is the file, with
the home directory written `~`. Several files are layered in the order of their
names, and the first one that fails decides.
-/

namespace IgnoreRules

/-- Why a source of rules gives no patterns. -/
inductive SourceFault where
  /-- The path starts at the home of a user who is not known. -/
  | unknownHome
  /-- The path cannot be looked up. -/
  | tooLong
  /-- The path does not lead to a file. -/
  | notFound (path : Path)
  /-- The file is no text. -/
  | undecodable (path : Path) (fault : Utf8.Fault)
  /-- A line has a fault that does not merely drop it. -/
  | expression (fault : RegexFault)
  deriving DecidableEq, Repr

/-- The fault in words, if it is one to report. -/
def SourceFault.message? : SourceFault → Option (List Char)
  | .unknownHome => none
  | .tooLong => none
  | .notFound path => some ("Rule file not found: ".toList ++ path.toText)
  | .undecodable path fault =>
      some ("Cannot read rule file (".toList ++ fault.message ++ "): ".toList ++ path.toText)
  | .expression _ => none

namespace RuleFile

/-- The path that a rule file is read from. -/
def resolve (fs : FileSystem) (root path : Path) : Except SourceFault Path :=
  match path.expandHome? fs.homeOf? with
  | none => .error .unknownHome
  | some path => .ok (root.join path)

/-- The path that a rule file is looked up under. -/
def locate (fs : FileSystem) (root path : Path) : Except SourceFault Path := do
  let path ← resolve fs root path
  if fs.isTooLong path then throw .tooLong
  return path

/-- The path leads to a file. -/
def isPresent (fs : FileSystem) (root path : Path) : Except SourceFault Bool :=
  (locate fs root path).map fs.isFile

/-- The lines of a rule file. -/
def readLines (fs : FileSystem) (root path : Path) :
    Except SourceFault (List (List Char)) := do
  let path ← locate fs root path
  match fs.bytes? path with
  | none => throw (.notFound path)
  | some bytes => (Lines.ofBytes bytes).mapError (.undecodable path)

/-- The patterns of a rule file. -/
def load (fs : FileSystem) (root path : Path) : Except SourceFault RuleSet := do
  let lines ← readLines fs root path
  let resolved ← resolve fs root path
  (RuleSet.ofLines lines (some (compactHome fs.home resolved.toText))).mapError .expression

/-- The patterns of a rule file, on top of others. -/
def loadOver (fs : FileSystem) (root : Path) (lower : RuleSet) (path : Path) :
    Except SourceFault RuleSet :=
  (load fs root path).map (lower ++ ·)

/-- The patterns of several rule files, the later ones over the earlier ones. -/
def loadAll (fs : FileSystem) (root : Path) (paths : List Path) :
    Except SourceFault RuleSet :=
  paths.foldlM (loadOver fs root) .empty

end RuleFile

end IgnoreRules
