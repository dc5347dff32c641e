import IgnoreRules.Yaml.Fault

/-!
# Tokens

A document is a sequence of tokens. Besides what is written there are tokens for
what the layout says: where a block starts and ends, and that a scalar which a
colon follows is a key. A text that cannot be read to its end has the fault as
its last token, so that what comes before can be understood first.
-/

namespace IgnoreRules.Yaml

/-- A line in front of a document that speaks about it. -/
inductive Directive where
  /-- The version of the language. -/
  | version (major minor : Nat)
  /-- What a tag handle stands for. -/
  | handle (name stem : List Char)
  /-- Any other. -/
  | other
  deriving DecidableEq, Repr

/-- A tag as written: `!`, a handle and a suffix, or `!<...>`. -/
inductive TagText where
  /-- The tag in full. -/
  | full (text : List Char)
  /-- A suffix behind a handle. -/
  | short (handle suffix : List Char)
  deriving DecidableEq, Repr

/-- One unit of a document. -/
inductive Token where
  | directive (content : Directive)
  | documentStart
  | documentEnd
  | blockSequenceStart
  | blockMappingStart
  | blockEnd
  | flowSequenceStart
  | flowSequenceEnd
  | flowMappingStart
  | flowMappingEnd
  | blockEntry
  | flowEntry
  | key
  | value
  | alias (name : List Char)
  | anchor (name : List Char)
  | tag (text : TagText)
  /-- A scalar; only a plain one can be other than text without a tag. -/
  | scalar (text : List Char) (plain : Bool)
  | streamEnd
  | fault (reason : TextFault)
  deriving DecidableEq, Repr

end IgnoreRules.Yaml
