import IgnoreRules.Text.Base64
import IgnoreRules.Text.Lines
import IgnoreRules.Yaml.Merge
import IgnoreRules.Yaml.Token.Layout
import IgnoreRules.Yaml.Value

/-!
# Evaluation

The values that the nodes of a document denote, by their tags. A node is evaluated
once, and all that refer to it share its value. A collection is a value as soon as
it is met; what it holds is evaluated after all that was met before it. So the
document is evaluated level by level, and the first fault on the way counts.

A mapping with the key `=` stands for the value of that key where a scalar is
expected.
-/

namespace IgnoreRules.Yaml

/-- A document that has been evaluated in part. -/
structure Evaluation where
  /-- The document, with the merges so far. -/
  document : Document
  /-- The values of the nodes that have been met. -/
  known : Array (Option Value)
  /-- The collections that have been met. -/
  collections : Array Collection
  /-- The collections that are still empty, and the nodes that say what they hold. -/
  waiting : List (NodeId × CollectionId)

/-- A step of an evaluation. -/
abbrev Evaluate : Type → Type :=
  StateT Evaluation (Except Fault)

/-- The document denotes nothing, for a reason. -/
def malformed {α : Type} (reason : Malformation) : Except Fault α :=
  .error (.malformed reason)

namespace Document

/-- The text of a node that has to be a scalar, found in at most so many steps. -/
def scalarText (document : Document) : Nat → NodeId → Except Fault (List Char)
  | 0, _ => .error .tooDeep
  | fuel + 1, id =>
      match (document.node id).content with
      | .scalar text => .ok text
      | .sequence _ => malformed .wrongKind
      | .mapping entries =>
          match entries.find? fun (key, _) => (document.node key).tag = .value with
          | some (_, value) => document.scalarText fuel value
          | none => malformed .wrongKind

/-- The node is itself a scalar. -/
def isScalar (document : Document) (id : NodeId) : Bool :=
  match (document.node id).content with
  | .scalar _ => true
  | _ => false

end Document

namespace Value

/-- The truth value that a word names. -/
def ofBoolWord (text : List Char) : Except Fault Value :=
  match Tag.boolWords.find? fun (word, _) => word.toList = text.map Char.toLower with
  | some (_, value) => .ok (.bool value)
  | none => .error (.scalar .notBoolean)

/-- The number that a text writes in the node with a number. -/
def ofFloatText (id : NodeId) (text : List Char) : Except Fault Value :=
  match Number.floatOfText text with
  | .error fault => .error (.scalar fault)
  | .ok .nan => .ok (.nan (if Number.namesNan text then none else some id))
  | .ok value => .ok (.float value)

/-- The bytes that a text stands for. -/
def ofBase64 (text : List Char) : Except Fault Value :=
  match text.all (·.toNat < 0x80), Base64.decode? text with
  | true, some decoded => .ok (.bytes decoded)
  | _, _ => malformed .badBinary

/-- The time that a text names, which has to exist. -/
def ofTimestamp (text : List Char) : Except Fault Value :=
  match Timestamp.ofText? (Tag.dropFinalBreak text) with
  | none => .error (.scalar .notTime)
  | some { date := day, clock := none } =>
      if day.isValid then .ok (.date day) else .error (.scalar .impossibleTime)
  | some { date := day, clock := some clock } =>
      let moment : Moment :=
        { date := day, hour := clock.hour, minute := clock.minute, second := clock.second
          microsecond := clock.microsecond, offset := clock.offset }
      if moment.isValid then .ok (.time moment) else .error (.scalar .impossibleTime)

end Value

/-- The collection that a tag calls for, with nothing in it. -/
def Tag.emptyCollection? : Tag → Option Collection
  | .sequence | .pairs | .orderedMap => some (.list [])
  | .mapping => some (.mapping [])
  | .set => some (.set [])
  | _ => none

/-- The value of a node with the tag of a scalar. -/
def Document.scalarValue (document : Document) (id : NodeId) : Except Fault Value := do
  let text := document.scalarText nestingLimit id
  match (document.node id).tag with
  | .null => text.map fun _ => .null
  | .text => text.map .text
  | .bool => Value.ofBoolWord (← text)
  | .int => ((Number.intOfText (← text)).map Value.int).mapError .scalar
  | .float => Value.ofFloatText id (← text)
  | .binary => Value.ofBase64 (← text)
  | .timestamp =>
      let text ← text
      if document.isScalar id then Value.ofTimestamp text
      else throw (.scalar .timeInMapping)
  | _ => malformed .unknownTag

namespace Evaluation

/-- The document before its evaluation. -/
def ofDocument (document : Document) : Evaluation :=
  { document, known := Array.replicate document.nodes.size none, collections := #[],
    waiting := [] }

/-- Remembers the value of a node. -/
def remember (state : Evaluation) (id : NodeId) (value : Value) : Evaluation :=
  { state with known := state.known.modify id fun _ => some value }

/-- Adds a collection. -/
def add (collection : Collection) : Evaluate CollectionId := fun state =>
  .ok (state.collections.size, { state with collections := state.collections.push collection })

/-- Says what a collection holds. -/
def fill (id : CollectionId) (collection : Collection) : Evaluate Unit :=
  modify fun state =>
    { state with collections := state.collections.modify id fun _ => collection }

/-- The value of a node that has not been met. -/
def newValue (id : NodeId) : Evaluate Value := do
  let state ← get
  match (state.document.node id).tag.emptyCollection? with
  | none => state.document.scalarValue id
  | some empty => do
      let number ← add empty
      modify fun state => { state with waiting := state.waiting ++ [(id, number)] }
      return .collection number

/-- The value of a node. -/
def valueOf (id : NodeId) : Evaluate Value := do
  match (← get).known.getD id none with
  | some value => return value
  | none => do
      let value ← newValue id
      modify (·.remember id value)
      return value

/-- What a node holds. -/
def contentOf (id : NodeId) : Evaluate Node.Content :=
  return ((← get).document.node id).content

/-- The pair that a mapping with one entry stands for. -/
def pairOf (id : NodeId) : Evaluate Value := do
  match ← contentOf id with
  | .mapping [(key, value)] => do
      let first ← valueOf key
      let second ← valueOf value
      return .collection (← add (.pair first second))
  | _ => malformed .wrongKind

/-- Adds an entry to those of a mapping. -/
def addEntry (entries : List (Value × Value)) (entry : Document.Entry) :
    Evaluate (List (Value × Value)) := do
  let key ← valueOf entry.1
  if key.isCollection then malformed .collectionAsKey
  let value ← valueOf entry.2
  return Value.put key value entries

/-- The entries that a node denotes as a mapping. -/
def entriesOf (id : NodeId) : Evaluate (List (Value × Value)) := do
  match ← contentOf id with
  | .mapping _ => do
      let document ← (← get).document.merge id
      modify ({ · with document })
      (document.entries id).foldlM addEntry []
  | _ => malformed .wrongKind

/-- The items that a node denotes as a sequence. -/
def itemsOf (item : NodeId → Evaluate Value) (id : NodeId) : Evaluate (List Value) := do
  match ← contentOf id with
  | .sequence items => items.mapM item
  | _ => malformed .wrongKind

/-- What the collection that a node denotes holds. -/
def collectionOf (id : NodeId) : Evaluate Collection := do
  match ((← get).document.node id).tag with
  | .pairs | .orderedMap => return .list (← itemsOf pairOf id)
  | .mapping => return .mapping (← entriesOf id)
  | .set => return .set ((← entriesOf id).map (·.1))
  | _ => return .list (← itemsOf valueOf id)

/-- Fills the collections that wait for it. Each node waits once at most. -/
def fillAll : Nat → Evaluate Unit
  | 0 => pure ()
  | fuel + 1 => do
      match (← get).waiting with
      | [] => pure ()
      | (id, number) :: waiting => do
          modify ({ · with waiting })
          fill number (← collectionOf id)
          fillAll fuel

end Evaluation

/-- What a document denotes. -/
def Data.ofDocument (document : Document) : Except Fault Data := do
  let evaluate : Evaluate Value := do
    let root ← Evaluation.valueOf document.root
    Evaluation.fillAll document.nodes.size
    return root
  let (root, state) ← evaluate.run (.ofDocument document)
  return { root, collections := state.collections }

/-- What a text denotes. Without a document it is null. -/
def Data.ofText (text : List Char) : Except Fault Data := do
  match ← Document.ofTokens (Token.ofText (Lines.unifyBreaks text)) with
  | none => return { root := .null, collections := #[] }
  | some document => Data.ofDocument document

end IgnoreRules.Yaml
