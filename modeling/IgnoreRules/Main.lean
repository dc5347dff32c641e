import IgnoreRules.CommandLine.Run

/-!
# The program

Runs the words of the command line on the files of the machine. The files that can
matter are read beforehand: first those that may say what else to read, and then the
rule files that they name.

Panels are shown as plain text, the cells of a row with tabs between them.
-/

namespace IgnoreRules.Program

/-- The operating system's number for the attempt to read a directory as a file. -/
def directoryCode : UInt32 :=
  21

/-- What a path leads to, if anything. -/
def readEntry (path : Path) : IO (Option FileSystem.Entry) := do
  try
    let bytes ← IO.FS.readBinFile (String.ofList path.toText)
    return some (.file bytes.toList)
  catch
    | .inappropriateType _ code _ =>
        return if code = directoryCode then some .directory else none
    | _ => return none

/-- Adds what paths lead to. -/
def addPaths (fs : FileSystem) (paths : List Path) : IO FileSystem :=
  paths.foldlM
    (fun fs path => do
      match ← readEntry (fs.absolute path) with
      | some entry => return fs.add path entry
      | none => return fs)
    fs

/-- The selection of a command line, if it makes one. -/
def selection? (words : List (List Char)) : Option Selection :=
  match CommandLine.Request.ofWords words with
  | .ok (.check selection _ _ _) => some selection
  | .ok (.patterns selection) => some selection
  | _ => none

/-- The files that say which rule files there are. -/
def configPaths (selection : Selection) : List Path :=
  selection.config.toList ++ [Selection.implicitConfig, Config.defaultRuleFile]

/-- The rule files, as far as they are known. -/
def rulePaths (fs : FileSystem) (selection : Selection) : List Path :=
  match selection.resolve fs with
  | .ok config => ((config.resolvedRuleFiles fs).toOption).getD []
  | .error _ => []

/-- The files that matter for a command line. -/
def readFiles (fs : FileSystem) (words : List (List Char)) : IO FileSystem :=
  match selection? words with
  | none => return fs
  | some selection => do
      let fs ← addPaths fs (configPaths selection)
      addPaths fs (rulePaths fs selection)

/-- The lines of a panel. -/
def panelLines (panel : Panel) : List (List Char) :=
  panel.title :: match panel.body with
    | .table header rows => (header :: rows).map ['\t'].intercalate
    | .facts facts => facts.map fun (name, value) => name ++ '\t' :: value
    | .lines lines => lines

/-- The text on standard output. -/
def outputText : CommandLine.Output → List Char
  | .panels panels => CommandLine.Help.joined (panels.flatMap panelLines)
  | .lines lines => CommandLine.Help.joined lines

/-- The exit code of a failure that is not reported. -/
def crashCode : UInt32 :=
  1

/-- The home directory of the user; without a setting it is the top. -/
def readHome : IO Path := do
  let setting ← IO.getEnv "HOME"
  return (Path.ofHomeSetting? (setting.getD "").toList).getD ⟨.root, []⟩

/-- Where the users of the machine are listed, one a line. -/
def usersFile : String :=
  "/etc/passwd"

/-- The user that a line is about, and the home directory there: the first field and the sixth. -/
def homeOfLine? (line : List Char) : Option (List Char × Path) :=
  match pieces ':' line with
  | name :: _ :: _ :: _ :: _ :: home :: _ => (Path.ofHomeSetting? home).map (name, ·)
  | _ => none

/-- The home directories of the users of the machine. -/
def readHomes : IO (List (List Char × Path)) := do
  try
    let text ← IO.FS.readFile usersFile
    return (pieces '\n' text.toList).filterMap homeOfLine?
  catch
    | _ => return []

end IgnoreRules.Program

open IgnoreRules in
/-- Runs the words of the command line. -/
def main (words : List String) : IO UInt32 := do
  let words := words.map String.toList
  let workingDirectory := Path.ofText (← IO.currentDir).toString.toList
  let directories := FileSystem.ofDirectories (← Program.readHome) workingDirectory
  let empty := { directories with homes := ← Program.readHomes }
  let fs ← Program.readFiles empty words
  match CommandLine.run fs words with
  | .error _ => return Program.crashCode
  | .ok outcome => do
      IO.print (String.ofList (Program.outputText outcome.output))
      match outcome.complaint with
      | none => pure ()
      | some complaint => IO.eprint (String.ofList (complaint.text fs.home))
      return UInt32.ofNat outcome.exitCode
