import IgnoreRules.Glob
import IgnoreRules.Text.Cut

/-!
# What glob bodies match

`Token.Takes` says which pieces of a path a token stands for, and `Glob.Matches`
cuts the whole path into such pieces, one for each token in order. Neither knows
of regular expressions: a class stands for what its content lists, character by
character and range by range. A content with a backslash has no such plain reading
and means whatever the regular expression reader makes of it.
-/

namespace IgnoreRules.Glob

/-- The content of a class lists the character, alone or in a range. A `-` between
two characters makes them the ends of a range; elsewhere it stands for itself. -/
def lists : List Char → Char → Bool
  | low :: '-' :: high :: content, c => (low ≤ c && c ≤ high) || lists content c
  | d :: content, c => d = c || lists content c
  | [], _ => false

/-- The class holds the character. A `!` negates what is listed, and so does a `^`
in front of the content when there is no `!`. -/
def classHolds (content : List Char) (negated : Bool) (c : Char) : Bool :=
  match negated, content with
  | true, content => !lists content c
  | false, '^' :: content => !lists content c
  | false, content => lists content c

/-- The piece of a path is one that the token stands for. -/
def Token.Takes : Token → List Char → Prop
  | .literal c, piece => piece = [c]
  | .escaped c, piece => piece = [c]
  | .star, piece => '/' ∉ piece
  | .doubleStar, _ => True
  | .doubleStarSlash, piece => piece = [] ∨ piece.getLast? = some '/'
  | .question, piece => ∃ c, piece = [c] ∧ c ≠ '/'
  | .charClass content negated, piece => ∃ c, piece = [c] ∧ classHolds content negated c = true

/-- The body stands for the path from end to end. -/
def Matches (body path : List Char) : Prop :=
  Cut Token.Takes (tokens body) path

/-- The body stands for the path or, without an anchor, for what any leading segments
leave of it. -/
def MatchesFrom (anchored : Bool) (body path : List Char) : Prop :=
  ∃ lead rest, lead ++ rest = path ∧
    (lead = [] ∨ anchored = false ∧ lead.getLast? = some '/') ∧ Matches body rest

end IgnoreRules.Glob
