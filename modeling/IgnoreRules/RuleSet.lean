import IgnoreRules.Pattern

/-!
# Rule sets

A rule set is a sequence of patterns. Of the patterns that apply to a query, the
last one decides it, and so a set that is appended overrules the one before it
wherever it has something to say. A path that no pattern decides is included.
-/

namespace IgnoreRules

/-- A question to a rule set: is this path ignored? -/
structure Query where
  /-- The path, as it was asked about. -/
  path : List Char
  /-- The path is that of a directory. -/
  isDirectory : Bool
  deriving DecidableEq, Repr

namespace Query

/-- The path as patterns see it: relative to the top. -/
def candidate (query : Query) : List Char :=
  match query.path with
  | '/' :: rest => rest
  | path => path

/-- Splits the directory marker off an argument: any number of slashes at the
end. The top alone carries no marker. -/
def splitMarker (argument : List Char) : List Char × Bool :=
  if 1 < argument.length ∧ argument.getLast? = some '/' then
    ((argument.reverse.dropWhile (· = '/')).reverse, true)
  else
    (argument, false)

/-- The query for an argument. A marker, or the word of the caller, makes it one
about a directory. -/
def ofArgument (argument : List Char) (isDirectory : Bool) : Query :=
  let (path, marked) := splitMarker argument
  { path, isDirectory := isDirectory || marked }

end Query

/-- What is said about a path in the end. -/
inductive Verdict where
  | ignored
  | included
  deriving DecidableEq, Repr

/-- The answer to a query. -/
structure Decision where
  /-- What was asked. -/
  query : Query
  /-- The path is ignored. -/
  ignored : Bool
  /-- The pattern that decides, if one applies. -/
  deciding : Option Pattern
  deriving DecidableEq

namespace Decision

/-- The answer before any pattern has been seen. -/
def initial (query : Query) : Decision :=
  { query, ignored := false, deciding := none }

/-- The answer after one more pattern. A pattern for directories is passed over when
the query is about a file, and one that does not match changes nothing. -/
def consider (decision : Decision) (pattern : Pattern) : Decision :=
  if pattern.directoryOnly && !decision.query.isDirectory then decision
  else if pattern.accepts decision.query.candidate then
    { decision with ignored := !pattern.negation, deciding := some pattern }
  else decision

/-- The verdict. -/
def verdict (decision : Decision) : Verdict :=
  if decision.ignored then .ignored else .included

/-- The deciding line as written. -/
def source (decision : Decision) : List Char :=
  (decision.deciding.map Pattern.source).getD []

/-- Where the deciding line was written. -/
def location (decision : Decision) : List Char :=
  (decision.deciding.map Pattern.location).getD []

end Decision

/-- Patterns in the order of evaluation. -/
structure RuleSet where
  /-- The patterns, the weakest first. -/
  patterns : List Pattern
  deriving DecidableEq

namespace RuleSet

/-- The set without patterns. -/
def empty : RuleSet :=
  ⟨[]⟩

/-- The second set, layered over the first. -/
def append (lower upper : RuleSet) : RuleSet :=
  ⟨lower.patterns ++ upper.patterns⟩

instance : Append RuleSet :=
  ⟨append⟩

@[simp] theorem append_patterns (lower upper : RuleSet) :
    (lower ++ upper).patterns = lower.patterns ++ upper.patterns := rfl

@[simp] theorem append_empty (rules : RuleSet) : rules ++ empty = rules :=
  congrArg mk (List.append_nil rules.patterns)

theorem append_assoc (lower middle upper : RuleSet) :
    lower ++ middle ++ upper = lower ++ (middle ++ upper) :=
  congrArg mk (List.append_assoc lower.patterns middle.patterns upper.patterns)

/-- How many patterns the set has. -/
def size (rules : RuleSet) : Nat :=
  rules.patterns.length

/-- The patterns of lines whose first has the given number. -/
def patternsFrom (number : Nat) (origin : Option (List Char)) :
    List (List Char) → Except RegexFault (List Pattern)
  | [] => .ok []
  | line :: lines => do
      let pattern? ← Pattern.ofLine? line origin (some number)
      let patterns ← patternsFrom (number + 1) origin lines
      return pattern?.toList ++ patterns

/-- The set of the patterns that lines denote. Lines without a pattern are
counted too. -/
def ofLines (lines : List (List Char)) (origin : Option (List Char)) :
    Except RegexFault RuleSet :=
  (patternsFrom 1 origin lines).map fun patterns => ⟨patterns⟩

/-- Answers a query: every pattern is considered, in order. -/
def answer (rules : RuleSet) (query : Query) : Decision :=
  rules.patterns.foldl Decision.consider (.initial query)

end RuleSet

end IgnoreRules
