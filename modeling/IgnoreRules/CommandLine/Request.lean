import IgnoreRules.CommandLine.Basic
import IgnoreRules.Selection
import IgnoreRules.Text.Quoted
import IgnoreRules.Text.Similarity

/-!
# Requests

A command line is read as a request. Before the command, settings come first and the
first other word is the command; behind it, settings and operands may be mixed. A
word that starts with a dash gives a setting: by its long name, with its value behind
`=` or in the next word, or else by letters, of which the last may have its value in
the rest of the word or in the next one. Behind `--` all words are operands.

A request for help counts once the settings are read without an error, whatever else
may be wrong.
-/

namespace IgnoreRules.CommandLine

/-- Why a command line is no request. -/
inductive UsageError where
  | unknownSetting (name : List Char) (similar : List (List Char))
  | missingValue (name : List Char)
  | unwantedValue (name : List Char)
  | missingOperands (operands : List Char)
  | extraOperands (operands : List (List Char))
  | unknownCommand (name : List Char) (similar : List (List Char))
  | missingCommand
  deriving DecidableEq, Repr

/-- What a command line asks for. -/
inductive Request where
  | help (scope : Scope)
  | check (selection : Selection) (directory verbose : Bool) (paths : List (List Char))
  | patterns (selection : Selection)
  deriving DecidableEq, Repr

/-- What a command line says if it is no request. -/
inductive Refusal where
  /-- There are no words at all. -/
  | nothing
  /-- The words in a scope are not used rightly. -/
  | usage (scope : Scope) (error : UsageError)
  deriving DecidableEq, Repr

/-- The words of a scope, sorted into settings and operands. -/
structure Arguments where
  /-- The settings with their values, in order; one that takes none has none. -/
  settings : List (Setting × List Char)
  /-- The other words. -/
  operands : List (List Char)
  deriving DecidableEq, Repr

namespace Arguments

/-- Puts an operand in front. -/
def addOperand (operand : List Char) (arguments : Arguments) : Arguments :=
  { arguments with operands := operand :: arguments.operands }

/-- The settings that one word gives. -/
structure Given where
  /-- Settings with their values. -/
  settings : List (Setting × List Char)
  /-- A last setting, which has its value in the next word. -/
  pending : Option (Setting × List Char)

/-- Reads the letters behind a dash. -/
def readLetters (scope : Scope) : List Char → Except UsageError Given
  | [] => .ok { settings := [], pending := none }
  | letter :: rest =>
      match scope.settings.find? (·.letter = letter) with
      | none => .error (.unknownSetting (Setting.shortName letter) [])
      | some setting =>
          if setting.takesValue then
            if rest = [] then
              .ok { settings := [], pending := some (setting, Setting.shortName letter) }
            else .ok { settings := [(setting, rest)], pending := none }
          else
            (readLetters scope rest).map fun given =>
              { given with settings := (setting, []) :: given.settings }

/-- Reads a word that starts with a dash and is longer than that. -/
def readWord (scope : Scope) (word : List Char) : Except UsageError Given :=
  let name := word.takeWhile (· ≠ '=')
  let value := if word.contains '=' then some ((word.dropWhile (· ≠ '=')).drop 1) else none
  match scope.settings.find? (·.longName = name) with
  | some setting =>
      match value with
      | some value =>
          if setting.takesValue then .ok { settings := [(setting, value)], pending := none }
          else .error (.unwantedValue name)
      | none =>
          if setting.takesValue then .ok { settings := [], pending := some (setting, name) }
          else .ok { settings := [(setting, [])], pending := none }
  | none =>
      if word.take 2 = ['-', '-'] then
        .error (.unknownSetting name
          (Similarity.similarWords name (scope.settings.map Setting.longName)))
      else readLetters scope (word.drop 1)

/-- The word gives settings. -/
def givesSettings (word : List Char) : Bool :=
  word.head? = some '-' && 1 < word.length

/-- Sorts words into settings and operands. With `stops` all words from the first
operand on are operands. -/
def read (scope : Scope) (stops : Bool) : List (List Char) → Except UsageError Arguments
  | [] => .ok { settings := [], operands := [] }
  | word :: words =>
      if word = ['-', '-'] then .ok { settings := [], operands := words }
      else if givesSettings word then
        match readWord scope word, words with
        | .error error, _ => .error error
        | .ok { settings, pending := none }, words =>
            (read scope stops words).map fun arguments =>
              { arguments with settings := settings ++ arguments.settings }
        | .ok { settings := _, pending := some (_, name) }, [] => .error (.missingValue name)
        | .ok { settings, pending := some (setting, _) }, value :: words =>
            (read scope stops words).map fun arguments =>
              { arguments with settings := settings ++ (setting, value) :: arguments.settings }
      else if stops then .ok { settings := [], operands := word :: words }
      else (read scope stops words).map (addOperand word)

/-- The values of a setting, in order. -/
def values (arguments : Arguments) (setting : Setting) : List (List Char) :=
  (arguments.settings.filter (·.1 = setting)).map (·.2)

/-- The setting is given. -/
def has (arguments : Arguments) (setting : Setting) : Bool :=
  arguments.settings.any (·.1 = setting)

/-- The selection of rules; of several configuration files the last one counts. -/
def selection (arguments : Arguments) : Selection :=
  { ruleFiles := (arguments.values .rules).map Path.ofText
    patterns := arguments.values .pattern
    config := (arguments.values .config).getLast?.map Path.ofText }

end Arguments

namespace Request

/-- The request that the words behind a command make. -/
def ofCommandWords (command : Command) (words : List (List Char)) : Except UsageError Request := do
  let arguments ← Arguments.read (.command command) false words
  if arguments.has .help then return .help (.command command)
  match command, arguments.operands with
  | .check, [] => throw (.missingOperands (command.operands?.getD "").toList)
  | .check, paths =>
      return .check arguments.selection (arguments.has .directory) (arguments.has .verbose) paths
  | .patterns, [] => return .patterns arguments.selection
  | .patterns, operands => throw (.extraOperands operands)

/-- Reads the words before the command, and gives those from the command on; nothing
for a request for help. -/
def readProgramWords (words : List (List Char)) :
    Except UsageError (Option (List (List Char))) := do
  let arguments ← Arguments.read .program true words
  return if arguments.has .help then none else some arguments.operands

/-- Why a word is no command. One that was kept from being read as a setting is read
as one after all. -/
def refuseCommand (word : List Char) (words : List (List Char)) : Except Refusal Request := do
  let wrong (error : UsageError) : Refusal := .usage .program error
  if (← (readProgramWords (word :: words)).mapError wrong).isNone then return .help .program
  let names := Command.all.map (·.name.toList)
  throw (wrong (.unknownCommand word (Similarity.similarWords word names)))

/-- The request that the words of a command line make. -/
def ofWords (words : List (List Char)) : Except Refusal Request := do
  if words = [] then throw .nothing
  match ← (readProgramWords words).mapError (.usage .program) with
  | none => return .help .program
  | some [] => throw (.usage .program .missingCommand)
  | some (word :: words) =>
      match Command.ofName? word with
      | some command => (ofCommandWords command words).mapError (.usage (.command command))
      | none => refuseCommand word words

end Request

end IgnoreRules.CommandLine
