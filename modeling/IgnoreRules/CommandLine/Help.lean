import IgnoreRules.CommandLine.Request

/-!
# Help

The texts that explain the command line, and those that say what is wrong with one.
Lists have two columns; a text in the second one is wrapped at the width of the page.
-/

namespace IgnoreRules.CommandLine

namespace Help

/-- How many characters fit on a line. -/
def pageWidth : Nat :=
  78

/-- How far lists and paragraphs are indented. -/
def indentation : Nat :=
  2

/-- How far the columns of a list are apart. -/
def columnGap : Nat :=
  2

/-- Adds a word to the last line if it fits, or else on a line of its own. -/
def addWord (width : Nat) (lines : List (List Char)) (word : List Char) : List (List Char) :=
  match lines.getLast? with
  | none => [word]
  | some line =>
      if line.length + 1 + word.length ≤ width then lines.dropLast ++ [line ++ ' ' :: word]
      else lines ++ [word]

/-- The lines of a text that is wrapped between words. -/
def wrap (width : Nat) (text : List Char) : List (List Char) :=
  ((pieces ' ' text).filter (· ≠ [])).foldl (addWord width) []

/-- So many spaces. -/
def blank (count : Nat) : List Char :=
  List.replicate count ' '

/-- The lines of a list entry whose first column has a width. -/
def entryLines (column : Nat) (entry : List Char × List Char) : List (List Char) :=
  let (term, text) := entry
  let start := column + columnGap
  match wrap (pageWidth - start - indentation) text with
  | [] => [blank indentation ++ term]
  | first :: rest =>
      (blank indentation ++ term ++ blank (start - term.length) ++ first) ::
        rest.map (blank (start + indentation) ++ ·)

/-- A list with a heading. -/
def listLines (heading : String) (entries : List (List Char × List Char)) : List (List Char) :=
  let column := (entries.map (·.1.length)).foldl max 0
  [] :: heading.toList :: entries.flatMap (entryLines column)

/-- A setting as the list of settings shows it. -/
def settingTerm (setting : Setting) : List Char :=
  Setting.shortName setting.letter ++ ", ".toList ++ setting.longName ++
    match setting.valueName? with
    | some value => ' ' :: value.toList
    | none => []

/-- The list of settings. -/
def settingLines (settings : List Setting) : List (List Char) :=
  listLines "Options:" (settings.map fun setting =>
    (settingTerm setting, setting.description.toList))

/-- The list of commands. -/
def commandLines : List (List Char) :=
  listLines "Commands:" (Command.all.map fun which => (which.name.toList, which.summary.toList))

/-- What a scope is for. -/
def purpose : Scope → List Char
  | .program => "Evaluate paths against .gitignore-style rules.".toList
  | .command which => (which.summary ++ which.remark).toList

/-- The help for a scope. -/
def lines (scope : Scope) : List (List Char) :=
  [scope.usage.toList, []] ++
    (wrap (pageWidth - indentation) (purpose scope)).map (blank indentation ++ ·) ++
    settingLines scope.settings ++
    match scope with
    | .program => commandLines
    | .command _ => []

/-- Lines with a line feed behind each. -/
def joined (lines : List (List Char)) : List Char :=
  lines.flatMap (· ++ ['\n'])

end Help

namespace UsageError

/-- A remark on similar names. -/
def suggestion (similar : List (List Char)) : List Char :=
  match similar with
  | [] => []
  | [name] => " Did you mean ".toList ++ Quoted.encode name ++ ['?']
  | names =>
      " (Did you mean one of: ".toList ++ ", ".toList.intercalate (names.map Quoted.encode) ++
        "?)".toList

/-- The error in words. -/
def message : UsageError → List Char
  | .unknownSetting name similar =>
      "No such option ".toList ++ Quoted.encode name ++ '.' :: suggestion similar
  | .missingValue name => "Option ".toList ++ Quoted.encode name ++ " requires an argument.".toList
  | .unwantedValue name =>
      "Option ".toList ++ Quoted.encode name ++ " does not take a value.".toList
  | .missingOperands operands => "Missing argument ".toList ++ Quoted.encode operands ++ ['.']
  | .extraOperands operands =>
      (if operands.length = 1 then "Got unexpected extra argument (" else
        "Got unexpected extra arguments (").toList ++
        [' '].intercalate operands ++ [')']
  | .unknownCommand name similar =>
      "No such command ".toList ++ Quoted.encode name ++ '.' :: suggestion similar
  | .missingCommand => "Missing command.".toList

/-- The error is about a single word, and does not call for the usage. -/
def standsAlone : UsageError → Bool
  | .missingValue _ => true
  | .unwantedValue _ => true
  | _ => false

end UsageError

/-- An error as it is shown. -/
def errorText (message : List Char) : List Char :=
  "Error: ".toList ++ message ++ ['\n']

/-- What is shown when a command line is refused. -/
def Refusal.text : Refusal → List Char
  | .nothing => Help.joined (Help.lines .program)
  | .usage scope error =>
      if error.standsAlone then errorText error.message
      else
        scope.usage.toList ++ "\nTry '".toList ++ scope.words.toList ++
          " --help' for help.\n\n".toList ++ errorText error.message

end IgnoreRules.CommandLine
