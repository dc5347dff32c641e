import IgnoreRules.CommandLine.Help
import IgnoreRules.Markup.Standard
import IgnoreRules.Report

/-!
# Running a command line

What a command line leads to: panels or lines of text, a complaint, and an exit code.
The code is 0 for success and 2 for a complaint; a check succeeds only if some path
is ignored, and else has the code 1. A failure that is not to be reported leads to
nothing at all.
-/

namespace IgnoreRules.CommandLine

/-- What is shown on standard output. -/
inductive Output where
  | panels (panels : List Panel)
  | lines (lines : List (List Char))
  deriving DecidableEq, Repr

/-- What is shown on standard error. -/
inductive Complaint where
  | refusal (cause : Refusal)
  | failure (cause : Failure)
  deriving Repr

/-- What a command line leads to. -/
structure Outcome where
  /-- What is shown on standard output. -/
  output : Output
  /-- What is shown on standard error. -/
  complaint : Option Complaint
  /-- The exit code. -/
  exitCode : Nat
  deriving Repr

namespace Complaint

/-- The text of a complaint. -/
def text (home : Path) : Complaint → List Char
  | .refusal cause => cause.text
  | .failure cause => errorText ((cause.message? home).getD [])

end Complaint

namespace Outcome

/-- The exit code of a complaint. -/
def complaintCode : Nat :=
  2

/-- Nothing but a complaint. -/
def ofComplaint (complaint : Complaint) : Outcome :=
  { output := .panels [], complaint := some complaint, exitCode := complaintCode }

/-- Panels, and an exit code that says whether there was success. -/
def ofPanels (panels : List Panel) (success : Bool) : Outcome :=
  { output := .panels panels, complaint := none, exitCode := if success then 0 else 1 }

/-- Help. -/
def ofHelp (scope : Scope) : Outcome :=
  { output := .lines (Help.lines scope), complaint := none, exitCode := 0 }

end Outcome

section

variable [Markup.Display]

/-- The panel that names the sources of a configuration. -/
def sourcePanels (fs : FileSystem) (config : Config) : Except Failure (List Panel) :=
  match config.sourceLabels fs with
  | .ok labels => (Report.sources fs.home labels).mapError .display
  | .error fault => .error (.source fault)

/-- The queries for the paths of a check. -/
def queries (directory : Bool) (paths : List (List Char)) : List Query :=
  paths.map fun path => Query.ofArgument path directory

/-- Checks paths. -/
def check (fs : FileSystem) (selection : Selection) (directory verbose : Bool)
    (paths : List (List Char)) : Except Failure Outcome := do
  let (config, rules) ← selection.load fs
  let decisions := (queries directory paths).map rules.answer
  let sources ← if verbose then sourcePanels fs config else pure []
  return .ofPanels (sources ++ Report.decisions verbose decisions) (decisions.any (·.ignored))

/-- Lists patterns. -/
def patterns (fs : FileSystem) (selection : Selection) : Except Failure Outcome := do
  let (config, rules) ← selection.load fs
  let sources ← sourcePanels fs config
  return .ofPanels (sources ++ Report.patterns rules) true

/-- Does what a request asks for. -/
def perform (fs : FileSystem) : Request → Except Failure Outcome
  | .help scope => .ok (.ofHelp scope)
  | .check selection directory verbose paths => check fs selection directory verbose paths
  | .patterns selection => patterns fs selection

/-- Runs a command line. -/
def run (fs : FileSystem) (words : List (List Char)) : Except Failure Outcome :=
  match Request.ofWords words with
  | .error refusal => .ok (.ofComplaint (.refusal refusal))
  | .ok request =>
      match perform fs request with
      | .ok outcome => .ok outcome
      | .error failure =>
          if (failure.message? fs.home).isSome then .ok (.ofComplaint (.failure failure))
          else .error failure

end

end IgnoreRules.CommandLine
