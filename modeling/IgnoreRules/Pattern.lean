import IgnoreRules.Decimal.Basic
import IgnoreRules.Glob.Expression
import IgnoreRules.Regex.Reader
import IgnoreRules.Rule

/-!
# Patterns

A pattern is a rule made ready for matching: its regular expression, its marks,
and where it was written. A line gives a pattern, or nothing: either it denotes
no rule, or its expression is refused as invalid or ambiguous. A code point that
cannot be represented is no reason to drop the line; it stays a fault.
-/

namespace IgnoreRules

/-- One rule, ready for matching. -/
structure Pattern where
  /-- The regular expression as text. -/
  expression : List Char
  /-- The regular expression. -/
  regex : Regex
  /-- The text reads as the expression. -/
  reads : Regex.read expression = .ok regex
  /-- Matching paths are taken back in. -/
  negation : Bool
  /-- The pattern speaks of directories only. -/
  directoryOnly : Bool
  /-- The pattern starts at the top. -/
  anchored : Bool
  /-- The line as written. -/
  source : List Char
  /-- What the line was read from. -/
  origin : Option (List Char)
  /-- The number of the line there, as the reader of the lines counts. -/
  lineNumber : Option Int
  deriving DecidableEq

/-- The regular expression text of a glob body. Without an anchor the body may
start at any segment. -/
def Glob.anchoredExpression (body : List Char) (anchored : Bool) : List Char :=
  if anchored then Glob.expression body
  else Glob.leadingSegments ++ Glob.expression body

/-- The regular expression of a glob body. -/
def Glob.regex (body : List Char) (anchored : Bool) : Except RegexFault Regex :=
  Regex.read (Glob.anchoredExpression body anchored)

/-- An expression with this fault makes its line ineffective, without more ado. -/
def RegexFault.dropsLine : RegexFault → Bool
  | .invalid => true
  | .ambiguous => true
  | .overflow => false

namespace Pattern

/-- The pattern of a line, if it has one. -/
def ofLine? (line : List Char) (origin : Option (List Char)) (lineNumber : Option Int) :
    Except RegexFault (Option Pattern) :=
  match Rule.ofLine? line with
  | none => .ok none
  | some rule =>
      match reads : Glob.regex rule.body rule.anchored with
      | .ok regex => .ok <| some {
          expression := Glob.anchoredExpression rule.body rule.anchored
          regex, reads
          negation := rule.negation
          directoryOnly := rule.directoryOnly
          anchored := rule.anchored
          source := line
          origin, lineNumber }
      | .error fault => if fault.dropsLine then .ok none else .error fault

/-- The pattern matches the path from end to end. -/
def accepts (pattern : Pattern) (path : List Char) : Bool :=
  pattern.regex.fullMatch path

/-- Where the pattern was written: `origin:line` as far as known. -/
def location (pattern : Pattern) : List Char :=
  match pattern.origin, pattern.lineNumber with
  | none, _ => []
  | some origin, none => origin
  | some origin, some number => origin ++ ':' :: Decimal.integer number

end Pattern

end IgnoreRules
