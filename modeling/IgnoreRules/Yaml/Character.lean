/-!
# Characters of documents

Which characters a document may hold, and which of them end a line, a word or a
name.
-/

namespace IgnoreRules.Yaml

/-- The character may stand in a document. -/
def isAllowed (c : Char) : Bool :=
  c = '\t' || c = '\n' || c = '\r' || c = '\u0085' ||
    (0x20 ≤ c.toNat && c.toNat ≤ 0x7E) || (0xA0 ≤ c.toNat && c.toNat ≤ 0xFFFD) ||
    0x10000 ≤ c.toNat

/-- The character ends a line, once carriage returns are line feeds. -/
def isBreak (c : Char) : Bool :=
  c = '\n' || c = '\u0085' || c = '\u2028' || c = '\u2029'

/-- The break that stands for a break in a value. -/
def valueBreak (c : Char) : Char :=
  if c = '\u0085' then '\n' else c

/-- The character is a space or a tab. -/
def isGap (c : Char) : Bool :=
  c = ' ' || c = '\t'

/-- There is no next character on the line, but for a comment that begins. -/
def endsLine (next : Option Char) : Bool :=
  match next with
  | none => true
  | some c => isBreak c

/-- The next character is a gap, or there is none on the line. -/
def endsWord (next : Option Char) : Bool :=
  match next with
  | none => true
  | some c => isGap c || isBreak c

/-- The next character is a space, or there is none on the line. -/
def endsField (next : Option Char) : Bool :=
  match next with
  | none => true
  | some c => c = ' ' || isBreak c

/-- The character may stand in the name of an anchor, a handle or a directive. -/
def isNameChar (c : Char) : Bool :=
  c.isAlphanum || c = '-' || c = '_'

/-- The character may stand in a tag. -/
def isTagChar (c : Char) : Bool :=
  c.isAlphanum || "-;/?:@&=+$,_.!~*'()[]%".toList.contains c

/-- The text starts with a document marker. -/
def startsMarker (text : List Char) : Bool :=
  (text.take 3 = ['-', '-', '-'] || text.take 3 = ['.', '.', '.']) &&
    endsWord (text.drop 3).head?

/-- How many characters the comment has that the text may start with. -/
def commentLength (text : List Char) : Nat :=
  if text.head? = some '#' then (text.takeWhile (!isBreak ·)).length else 0

/-- The text behind the comment that it may start with. -/
def dropComment (text : List Char) : List Char :=
  text.drop (commentLength text)

end IgnoreRules.Yaml
