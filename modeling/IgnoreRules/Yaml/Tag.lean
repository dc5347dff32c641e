import IgnoreRules.Yaml.Number
import IgnoreRules.Yaml.Timestamp

/-!
# Tags

The tag of a node says what it denotes. A plain scalar without a tag has the tag
that its text suggests; every other node without a tag is what it looks like.
-/

namespace IgnoreRules.Yaml

/-- What a node denotes. -/
inductive Tag where
  | null
  | bool
  | int
  | float
  | binary
  | timestamp
  | text
  | sequence
  | mapping
  | set
  | pairs
  | orderedMap
  /-- The key under which other mappings are merged into one. -/
  | merge
  /-- The key whose value stands for the mapping as a whole. -/
  | value
  /-- A tag with no meaning here. -/
  | unknown (name : List Char)
  deriving DecidableEq, Repr

namespace Tag

/-- What the standard tags start with. -/
def standardStem : List Char :=
  "tag:yaml.org,2002:".toList

/-- The standard tags by their names. -/
def standardTags : List (String × Tag) :=
  [("null", .null), ("bool", .bool), ("int", .int), ("float", .float), ("binary", .binary),
    ("timestamp", .timestamp), ("str", .text), ("seq", .sequence), ("map", .mapping),
    ("set", .set), ("pairs", .pairs), ("omap", .orderedMap), ("merge", .merge),
    ("value", .value)]

/-- The tag with a name. -/
def ofName (name : List Char) : Tag :=
  match standardTags.find? fun (known, _) => standardStem ++ known.toList = name with
  | some (_, tag) => tag
  | none => .unknown name

/-- The spellings of a word: small, with a capital, and in capitals. -/
def spellings (word : String) : List (List Char) :=
  let small := word.toList
  let capital := match small with
    | c :: rest => c.toUpper :: rest
    | [] => []
  [small, capital, small.map Char.toUpper]

/-- The words for truth values. -/
def boolWords : List (String × Bool) :=
  [("yes", true), ("no", false), ("true", true), ("false", false), ("on", true), ("off", false)]

/-- The text without a line feed at its end. -/
def dropFinalBreak (text : List Char) : List Char :=
  if text.getLast? = some '\n' then text.dropLast else text

/-- The tag that a line of text suggests. -/
def ofLine (text : List Char) : Tag :=
  if boolWords.any fun (word, _) => (spellings word).contains text then .bool
  else if Number.recognisesFloat text then .float
  else if Number.recognisesInt text then .int
  else if text = ['<', '<'] then .merge
  else if text = ['~'] ∨ text ∈ spellings "null" then .null
  else if Timestamp.recognises text then .timestamp
  else if text = ['='] then .value
  else if text = ['!'] ∨ text = ['&'] ∨ text = ['*'] then .unknown text
  else .text

/-- The tag that the text of a plain scalar suggests. No text at all is null; a line
feed at the end of a line says nothing. -/
def ofPlain (text : List Char) : Tag :=
  if text = [] then .null else ofLine (dropFinalBreak text)

end Tag

end IgnoreRules.Yaml
