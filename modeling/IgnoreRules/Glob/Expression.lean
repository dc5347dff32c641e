import IgnoreRules.Glob

/-!
# Glob bodies as regular expressions

Each token has a regular expression text of its own, and a body has those of its
tokens one after the other. Characters that stand for themselves are escaped;
the content of a class is passed on as written, so what a class means is up to
the regular expression reader, and so is where it ends.
-/

namespace IgnoreRules.Glob

/-- Some context in a regular expression gives the character a meaning. -/
def isSpecial (c : Char) : Bool :=
  "()[]\x7b\x7d?*+-|^$\\.&~# \t\n\r\x0b\x0c".toList.contains c

/-- A character as a regular expression that stands for it alone. -/
def quote (c : Char) : List Char :=
  if isSpecial c then ['\\', c] else [c]

/-- Any leading segments, or none. -/
def leadingSegments : List Char :=
  "(?:.*/)?".toList

/-- The regular expression text of a token. -/
def Token.expression : Token → List Char
  | .literal c => quote c
  | .escaped c => quote c
  | .star => "[^/]*".toList
  | .doubleStar => ".*".toList
  | .doubleStarSlash => leadingSegments
  | .question => "[^/]".toList
  | .charClass content negated =>
      '[' :: ((if negated then ['^'] else []) ++ content ++ [']'])

/-- The regular expression text of a body that starts at the top. -/
def expression (body : List Char) : List Char :=
  (tokens body).flatMap Token.expression

end IgnoreRules.Glob
