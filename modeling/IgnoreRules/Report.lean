import IgnoreRules.Markup
import IgnoreRules.Path
import IgnoreRules.RuleSet

/-!
# Reports

What the program shows is a sequence of panels. A panel has a title and holds a
table, a short list of facts, or lines of text. An overview panel counts what the
table below it lists; where there is nothing to list, a note says so.
-/

namespace IgnoreRules

/-- What a panel holds. -/
inductive Panel.Body where
  /-- A table: its header and its rows of cells. -/
  | table (header : List (List Char)) (rows : List (List (List Char)))
  /-- Named facts, one a line. -/
  | facts (facts : List (List Char × List Char))
  /-- Lines of text. -/
  | lines (lines : List (List Char))
  deriving DecidableEq, Repr

/-- A titled part of a report. -/
structure Panel where
  /-- What stands above the panel. -/
  title : List Char
  /-- What it holds. -/
  body : Panel.Body
  deriving DecidableEq, Repr

namespace Report

section

variable [Markup.Display]

/-- Text as a cell shows it. It is escaped, and markup without tags can always be shown. -/
def shown (text : List Char) : List Char :=
  (Markup.plainText (Markup.escape text)).toOption.getD []

end

/-- A mark is named when it is set. -/
def flag (set : Bool) : List Char :=
  if set then "yes".toList else []

/-- The word for a verdict. -/
def verdictWord : Verdict → List Char
  | .ignored => "ignored".toList
  | .included => "included".toList

/-- The word for what a query asks about. -/
def kindWord (isDirectory : Bool) : List Char :=
  if isDirectory then "directory".toList else "file".toList

/-- How often a verdict was given, unless never. -/
def verdictCount (decisions : List Decision) (verdict : Verdict) : Option (List Char) :=
  match decisions.countP (·.verdict = verdict) with
  | 0 => none
  | count => some (verdictWord verdict ++ '=' :: Decimal.natural count)

/-- The verdicts that were given, in alphabetical order, with their counts. -/
def verdictCounts (decisions : List Decision) : List Char :=
  match [Verdict.ignored, Verdict.included].filterMap (verdictCount decisions) with
  | [] => "none".toList
  | counts => "  ".toList.intercalate counts

section

variable [Markup.Display]

/-- The row for a decision; at length also the deciding line and its place. -/
def decisionRow (verbose : Bool) (decision : Decision) : List (List Char) :=
  [shown decision.query.path, kindWord decision.query.isDirectory,
    verdictWord decision.verdict] ++
    if verbose then [shown decision.source, shown decision.location] else []

/-- The names of the columns of a decision row. -/
def decisionHeader (verbose : Bool) : List (List Char) :=
  ["Path".toList, "Kind".toList, "Verdict".toList] ++
    if verbose then ["Pattern".toList, "Source".toList] else []

/-- The panels for decisions. -/
def decisions (verbose : Bool) (decisions : List Decision) : List Panel :=
  [{ title := "check overview".toList
     body := .facts [("Paths".toList, Decimal.natural decisions.length),
       ("Verdicts".toList, verdictCounts decisions)] },
   { title := "paths".toList
     body :=
       if decisions = [] then .lines ["No paths given.".toList]
       else .table (decisionHeader verbose) (decisions.map (decisionRow verbose)) }]

/-- The row for the pattern with a number. -/
def patternRow (pattern : Pattern) (index : Nat) : List (List Char) :=
  [Decimal.natural index, shown pattern.source, flag pattern.negation, flag pattern.directoryOnly,
    flag pattern.anchored, shown pattern.expression, shown pattern.location]

/-- The names of the columns of a pattern row. -/
def patternHeader : List (List Char) :=
  ["#".toList, "Pattern".toList, "Neg".toList, "Dir".toList, "Anchor".toList, "Regex".toList,
    "Source".toList]

/-- The panels for the patterns of a rule set, numbered from 1. -/
def patterns (rules : RuleSet) : List Panel :=
  [{ title := "pattern overview".toList
     body := .facts [("Patterns".toList, Decimal.natural rules.size),
       ("Negations".toList, Decimal.natural (rules.patterns.countP (·.negation))),
       ("Directory-only".toList, Decimal.natural (rules.patterns.countP (·.directoryOnly)))] },
   { title := "patterns".toList
     body :=
       if rules.patterns = [] then .lines ["No patterns compiled.".toList]
       else .table patternHeader
         ((rules.patterns.zipIdx 1).map fun (pattern, index) => patternRow pattern index) }]

/-- The panel for the names of sources, if there are any. The names are shown as one
text. -/
def sources (home : Path) (labels : List (List Char)) : Except Markup.Fault (List Panel) :=
  if labels = [] then .ok []
  else do
    let lines := labels.map fun label => "- ".toList ++ Markup.escape (compactHome home label)
    let shown ← Markup.plainText (['\n'].intercalate lines)
    return [{ title := "rule sources".toList, body := .lines (pieces '\n' shown) }]

end

end Report

end IgnoreRules
