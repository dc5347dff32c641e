/-!
# Faults of documents

A text can fail to be a document, and a document can fail to denote a value. A
few scalars fail outside of these rules: they are marked as a number, a truth
value or a time, or written as a code point, and are none.
-/

namespace IgnoreRules.Yaml

/-- Why a text is no document, or a document denotes no value. -/
inductive Malformation where
  | unprintableCharacter
  | unexpectedCharacter
  | unclosedQuote
  | markerInQuote
  | unknownEscape
  | shortEscape
  | badDirective
  | badName
  | badTag
  | badBlockHeader
  | missingColon
  | misplacedEntry
  | misplacedKey
  | misplacedValue
  | missingNode
  | unclosedCollection
  | repeatedVersion
  | unsupportedVersion
  | repeatedHandle
  | unknownHandle
  | missingDocumentStart
  | severalDocuments
  | repeatedAnchor
  | unknownAnchor
  | unknownTag
  | wrongKind
  | collectionAsKey
  | badMerge
  | badBinary
  deriving DecidableEq, Repr

/-- Why a scalar is not what it is marked as. -/
inductive ScalarFault where
  /-- A code point past the last one. -/
  | codePointTooLarge
  /-- A number too large to be represented. -/
  | overflow
  /-- No truth value. -/
  | notBoolean
  /-- No digit at all. -/
  | emptyNumber
  /-- No number. -/
  | notNumber
  /-- No time. -/
  | notTime
  /-- The form of a time with values that no time has. -/
  | impossibleTime
  /-- A time that is not a scalar itself. -/
  | timeInMapping
  /-- A whole number with more decimal digits than are read or written. -/
  | tooManyDigits
  deriving DecidableEq, Repr

/-- Why a text cannot be cut into tokens. -/
inductive TextFault where
  | malformed (reason : Malformation)
  | scalar (reason : ScalarFault)
  deriving DecidableEq, Repr

/-- Why a text gives no value. -/
inductive Fault where
  | malformed (reason : Malformation)
  | scalar (reason : ScalarFault)
  /-- Something lies in too many others, or in itself. -/
  | tooDeep
  deriving DecidableEq, Repr

/-- A text that cannot be cut into tokens gives no value. -/
def TextFault.toFault : TextFault → Fault
  | .malformed reason => .malformed reason
  | .scalar reason => .scalar reason

/-- The reason in words. -/
def Malformation.message : Malformation → List Char
  | .unprintableCharacter => "a character is not allowed".toList
  | .unexpectedCharacter => "a character cannot start anything here".toList
  | .unclosedQuote => "a quoted scalar does not end".toList
  | .markerInQuote => "a document marker stands in a quoted scalar".toList
  | .unknownEscape => "an escape is unknown".toList
  | .shortEscape => "an escape has too few digits".toList
  | .badDirective => "a directive is malformed".toList
  | .badName => "the name of an anchor is malformed".toList
  | .badTag => "a tag is malformed".toList
  | .badBlockHeader => "the header of a block scalar is malformed".toList
  | .missingColon => "a key has no colon".toList
  | .misplacedEntry => "an entry is not allowed here".toList
  | .misplacedKey => "a key is not allowed here".toList
  | .misplacedValue => "a value is not allowed here".toList
  | .missingNode => "a node is missing".toList
  | .unclosedCollection => "a collection does not end".toList
  | .repeatedVersion => "the version is given twice".toList
  | .unsupportedVersion => "the version is not supported".toList
  | .repeatedHandle => "a tag handle is given twice".toList
  | .unknownHandle => "a tag handle is unknown".toList
  | .missingDocumentStart => "a document has no start".toList
  | .severalDocuments => "there are several documents".toList
  | .repeatedAnchor => "an anchor is given twice".toList
  | .unknownAnchor => "an alias has no anchor".toList
  | .unknownTag => "a tag is unknown".toList
  | .wrongKind => "a node is not of the kind that its tag says".toList
  | .collectionAsKey => "a collection is used as a key".toList
  | .badMerge => "only mappings can be merged".toList
  | .badBinary => "binary data is malformed".toList

end IgnoreRules.Yaml
