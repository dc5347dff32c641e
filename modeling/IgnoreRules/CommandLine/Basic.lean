/-!
# Commands and settings

The program has two commands: one checks paths, the other lists patterns. A command
line gives settings by their long names or by their letters; some settings take a
value. The program itself has only the setting that asks for help.
-/

namespace IgnoreRules.CommandLine

/-- What the program can be told to do. -/
inductive Command where
  | check
  | patterns
  deriving DecidableEq, Repr

/-- What a command line can say about how it is done. -/
inductive Setting where
  | rules
  | config
  | pattern
  | directory
  | verbose
  | help
  deriving DecidableEq, Repr

/-- The part of a command line that is read: that before the command, or a command
with what follows it. -/
inductive Scope where
  | program
  | command (which : Command)
  deriving DecidableEq, Repr

/-- The name of the program. -/
def programName : String :=
  "path-ignore"

namespace Command

/-- All commands, in alphabetical order. -/
def all : List Command :=
  [.check, .patterns]

/-- The name of a command. -/
def name : Command → String
  | .check => "check"
  | .patterns => "patterns"

/-- What a command does, in one sentence. -/
def summary : Command → String
  | .check => "Check whether paths are ignored."
  | .patterns => "List compiled patterns in evaluation order."

/-- What else there is to know about a command. -/
def remark : Command → String
  | .check => " A trailing / marks a directory."
  | .patterns => ""

/-- The operands of a command, if it takes any. -/
def operands? : Command → Option String
  | .check => some "PATHS..."
  | .patterns => none

/-- The settings of a command. -/
def settings : Command → List Setting
  | .check => [.rules, .config, .pattern, .directory, .verbose, .help]
  | .patterns => [.rules, .config, .pattern, .help]

/-- The command with a name. -/
def ofName? (name : List Char) : Option Command :=
  all.find? (·.name.toList = name)

end Command

namespace Setting

/-- The long name. -/
def longName : Setting → List Char
  | .rules => "--rules".toList
  | .config => "--config".toList
  | .pattern => "--pattern".toList
  | .directory => "--directory".toList
  | .verbose => "--verbose".toList
  | .help => "--help".toList

/-- The letter. -/
def letter : Setting → Char
  | .rules => 'r'
  | .config => 'c'
  | .pattern => 'p'
  | .directory => 'd'
  | .verbose => 'v'
  | .help => 'h'

/-- What the value is, if the setting takes one. -/
def valueName? : Setting → Option String
  | .rules => some "PATH"
  | .config => some "PATH"
  | .pattern => some "TEXT"
  | .directory => none
  | .verbose => none
  | .help => none

/-- What the setting is for. -/
def description : Setting → String
  | .rules => "Rule file in .gitignore syntax. Repeatable, later files win."
  | .config => "Config file (default: .path-ignore.yaml if present)."
  | .pattern => "Inline rule line, applied after rule files. Repeatable."
  | .directory => "Treat every path as a directory."
  | .verbose => "Show the deciding pattern and its source."
  | .help => "Show this message and exit."

/-- The setting takes a value. -/
def takesValue (setting : Setting) : Bool :=
  setting.valueName?.isSome

/-- The letter behind its dash. -/
def shortName (letter : Char) : List Char :=
  ['-', letter]

end Setting

namespace Scope

/-- The settings that can be given. -/
def settings : Scope → List Setting
  | .program => [.help]
  | .command which => which.settings

/-- The words that lead here. -/
def words : Scope → String
  | .program => programName
  | .command which => programName ++ " " ++ which.name

/-- The form of a command line. -/
def usage : Scope → String
  | .program => "Usage: " ++ programName ++ " [OPTIONS] COMMAND [ARGS]..."
  | .command which =>
      "Usage: " ++ programName ++ " " ++ which.name ++ " [OPTIONS]" ++
        match which.operands? with
        | some operands => " " ++ operands
        | none => ""

end Scope

end IgnoreRules.CommandLine
