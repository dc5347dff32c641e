import IgnoreRules.Yaml.Tag
import IgnoreRules.Yaml.Token

/-!
# Documents

A document is made of nodes: scalars, sequences and mappings, each with its tag.
The nodes are numbered in the order in which they start, and a collection holds
the numbers of other nodes. So an alias is the node that its anchor names, also
inside the very collection that it names.

The nodes are read from tokens by descent. Every call spends one unit of fuel, and
there are at most a few calls for each token. How deep collections may lie in one
another is limited.
-/

namespace IgnoreRules.Yaml

/-- The number of a node in its document. -/
abbrev NodeId : Type :=
  Nat

/-- What a node holds. -/
inductive Node.Content where
  | scalar (text : List Char)
  | sequence (items : List NodeId)
  | mapping (entries : List (NodeId × NodeId))
  deriving DecidableEq, Repr

/-- A part of a document. -/
structure Node where
  /-- What the node denotes. -/
  tag : Tag
  /-- What it holds. -/
  content : Node.Content
  deriving DecidableEq, Repr

/-- An empty scalar. -/
def Node.empty : Node :=
  { tag := .null, content := .scalar [] }

instance : Inhabited Node :=
  ⟨.empty⟩

/-- Nodes, and the one that all others belong to. -/
structure Document where
  /-- The nodes by their numbers. -/
  nodes : Array Node
  /-- The outermost node. -/
  root : NodeId
  deriving Repr

/-- The node with a number. -/
def Document.node (document : Document) (id : NodeId) : Node :=
  document.nodes.getD id .empty

/-- How many steps a descent into a document may take, one inside the other. -/
def nestingLimit : Nat :=
  980

/-- Tokens that have been read in part. -/
structure NodeReader where
  /-- The tokens that are left. -/
  tokens : List Token
  /-- The anchors so far. -/
  anchors : List (List Char × NodeId)
  /-- What the tag handles stand for. -/
  handles : List (List Char × List Char)
  /-- The nodes so far; what an open collection holds is not among them yet. -/
  nodes : Array Node

namespace NodeReader

/-- Reads with the tokens as state. -/
abbrev Read (α : Type) : Type :=
  NodeReader → Except Fault (α × NodeReader)

/-- The handles that need no directive. -/
def defaultHandles : List (List Char × List Char) :=
  [(['!'], ['!']), (['!', '!'], Tag.standardStem)]

/-- The next token; a fault in its place is raised. -/
def peek (reader : NodeReader) : Except Fault Token :=
  match reader.tokens with
  | [] => .ok .streamEnd
  | .fault fault :: _ => .error fault.toFault
  | token :: _ => .ok token

/-- The tokens behind the next one. -/
def skip (reader : NodeReader) : NodeReader :=
  { reader with tokens := reader.tokens.drop 1 }

/-- Adds a node, with a name that no other node may have. -/
def add (reader : NodeReader) (name : Option (List Char)) (node : Node) :
    Except Fault (NodeId × NodeReader) :=
  let id := reader.nodes.size
  let reader := { reader with nodes := reader.nodes.push node }
  match name with
  | none => .ok (id, reader)
  | some name =>
      if reader.anchors.any (·.1 = name) then .error (.malformed .repeatedAnchor)
      else .ok (id, { reader with anchors := (name, id) :: reader.anchors })

/-- Closes a collection, which holds all its items now. -/
def close (reader : NodeReader) (id : NodeId) (content : Node.Content) : NodeReader :=
  { reader with nodes := reader.nodes.modify id ({ · with content }) }

/-- The marks before a node. -/
structure Properties where
  /-- The name of the node. -/
  anchor : Option (List Char)
  /-- The tag in full. -/
  tag : Option (List Char)

/-- The tag in full. -/
def resolveTag (reader : NodeReader) : TagText → Except Fault (List Char)
  | .full text => .ok text
  | .short handle suffix =>
      match reader.handles.find? (·.1 = handle) with
      | some (_, stem) => .ok (stem ++ suffix)
      | none => .error (.malformed .unknownHandle)

/-- Reads an anchor, if there is one. -/
def readAnchor : Read (Option (List Char)) := fun reader => do
  match ← reader.peek with
  | .anchor name => return (some name, reader.skip)
  | _ => return (none, reader)

/-- Reads a tag, if there is one. -/
def readTag : Read (Option TagText) := fun reader => do
  match ← reader.peek with
  | .tag text => return (some text, reader.skip)
  | _ => return (none, reader)

/-- Reads an anchor and a tag, in either order. -/
def readProperties : Read Properties := fun reader => do
  let (first, reader) ← readAnchor reader
  let (tag, reader) ← readTag reader
  let (anchor, reader) ←
    match first, tag with
    | none, some _ => readAnchor reader
    | _, _ => pure (first, reader)
  let tag ← tag.mapM reader.resolveTag
  return ({ anchor, tag }, reader)

/-- The tag of a node for which `implied` holds when it has none of its own. -/
def Properties.tagOr (properties : Properties) (implied : Tag) : Tag :=
  match properties.tag with
  | none => implied
  | some name => if name = ['!'] then implied else .ofName name

/-- The tag of a scalar. A tag of `!` alone leaves it to the text. -/
def Properties.scalarTag (properties : Properties) (text : List Char) (plain : Bool) : Tag :=
  if properties.tag = some ['!'] then .ofPlain text
  else properties.tagOr (if plain then .ofPlain text else .text)

/-- Adds an empty scalar. -/
def addEmpty : Read NodeId := fun reader =>
  reader.add none .empty

/-- Where a node stands. -/
inductive Place where
  /-- In a flow collection. -/
  | flow
  /-- In a block. -/
  | block
  /-- In a block mapping, where a sequence need not be indented. -/
  | blockEntry
  deriving DecidableEq

/-- Reads the node that a key or an indicator announces; if one of `ends` follows
it is empty. -/
def readOptional (ends : List Token) (read : Read NodeId) : Read NodeId := fun reader => do
  if ends.contains (← reader.peek) then addEmpty reader else read reader

/-- Reads a token that has to follow. -/
def expect (token : Token) (reason : Malformation) (reader : NodeReader) :
    Except Fault NodeReader := do
  if (← reader.peek) = token then return reader.skip else throw (.malformed reason)

mutual

/-- Reads a node that lies in `depth` collections. -/
def readNode (fuel depth : Nat) (place : Place) : Read NodeId := fun reader =>
  match fuel with
  | 0 => .error (.malformed .missingNode)
  | fuel + 1 => do
      match ← reader.peek with
      | .alias name =>
          match reader.anchors.find? (·.1 = name) with
          | some (_, id) => return (id, reader.skip)
          | none => throw (.malformed .unknownAnchor)
      | _ =>
          let (properties, reader) ← readProperties reader
          readContent fuel depth place properties reader

/-- Reads a node behind its properties. -/
def readContent (fuel depth : Nat) (place : Place) (properties : NodeReader.Properties) :
    Read NodeId := fun reader =>
  match fuel with
  | 0 => .error (.malformed .missingNode)
  | fuel + 1 => do
      let collection (tag : Tag) (read : Read Node.Content) (reader : NodeReader) :
          Except Fault (NodeId × NodeReader) := do
        let (id, reader) ← reader.add properties.anchor { Node.empty with tag }
        if nestingLimit < 2 * depth then throw .tooDeep
        let (content, reader) ← read reader
        return (id, reader.close id content)
      let sequence (read : Read (List NodeId)) : NodeReader →
          Except Fault (NodeId × NodeReader) :=
        collection (properties.tagOr .sequence) fun reader =>
          (read reader).map fun (items, reader) => (.sequence items, reader)
      let mapping (read : Read (List (NodeId × NodeId))) : NodeReader →
          Except Fault (NodeId × NodeReader) :=
        collection (properties.tagOr .mapping) fun reader =>
          (read reader).map fun (entries, reader) => (.mapping entries, reader)
      let scalar (text : List Char) (plain : Bool) (reader : NodeReader) :
          Except Fault (NodeId × NodeReader) :=
        reader.add properties.anchor
          { tag := properties.scalarTag text plain, content := .scalar text }
      let inner := depth + 1
      match ← reader.peek, place with
      | .blockEntry, .blockEntry => sequence (readLooseItems fuel inner) reader
      | .scalar text plain, _ => scalar text plain reader.skip
      | .flowSequenceStart, _ => sequence (readFlowItems fuel inner true) reader.skip
      | .flowMappingStart, _ => mapping (readFlowEntries fuel inner true) reader.skip
      | .blockSequenceStart, .block => sequence (readBlockItems fuel inner) reader.skip
      | .blockSequenceStart, .blockEntry => sequence (readBlockItems fuel inner) reader.skip
      | .blockMappingStart, .block => mapping (readBlockEntries fuel inner) reader.skip
      | .blockMappingStart, .blockEntry => mapping (readBlockEntries fuel inner) reader.skip
      | _, _ =>
          if properties.anchor = none ∧ properties.tag = none then
            throw (.malformed .missingNode)
          else scalar [] true reader

/-- Reads the items of an indented block sequence, up to its end. -/
def readBlockItems (fuel depth : Nat) : Read (List NodeId) := fun reader =>
  match fuel with
  | 0 => .error (.malformed .unclosedCollection)
  | fuel + 1 => do
      match ← reader.peek with
      | .blockEntry =>
          let (item, reader) ←
            readOptional [.blockEntry, .blockEnd] (readNode fuel depth .block) reader.skip
          let (items, reader) ← readBlockItems fuel depth reader
          return (item :: items, reader)
      | .blockEnd => return ([], reader.skip)
      | _ => throw (.malformed .unclosedCollection)

/-- Reads the items of a block sequence that is not indented. -/
def readLooseItems (fuel depth : Nat) : Read (List NodeId) := fun reader =>
  match fuel with
  | 0 => .error (.malformed .unclosedCollection)
  | fuel + 1 => do
      match ← reader.peek with
      | .blockEntry =>
          let (item, reader) ←
            readOptional [.blockEntry, .key, .value, .blockEnd] (readNode fuel depth .block)
              reader.skip
          let (items, reader) ← readLooseItems fuel depth reader
          return (item :: items, reader)
      | _ => return ([], reader)

/-- Reads the entries of a block mapping, up to its end. -/
def readBlockEntries (fuel depth : Nat) : Read (List (NodeId × NodeId)) := fun reader =>
  match fuel with
  | 0 => .error (.malformed .unclosedCollection)
  | fuel + 1 => do
      let next ← reader.peek
      if next = .blockEnd then return ([], reader.skip)
      let reader ← reader.expect .key .unclosedCollection
      let read : Read NodeId :=
        readOptional [.key, .value, .blockEnd] (readNode fuel depth .blockEntry)
      let (key, reader) ← read reader
      let (value, reader) ←
        if (← reader.peek) = .value then read reader.skip else addEmpty reader
      let (entries, reader) ← readBlockEntries fuel depth reader
      return ((key, value) :: entries, reader)

/-- Reads the items of a flow sequence, up to its end. -/
def readFlowItems (fuel depth : Nat) (first : Bool) : Read (List NodeId) := fun reader =>
  match fuel with
  | 0 => .error (.malformed .unclosedCollection)
  | fuel + 1 => do
      if (← reader.peek) = .flowSequenceEnd then return ([], reader.skip)
      let reader ← if first then pure reader else reader.expect .flowEntry .unclosedCollection
      match ← reader.peek with
      | .flowSequenceEnd => return ([], reader.skip)
      | .key =>
          let (id, reader) ← reader.skip.add none { Node.empty with tag := .mapping }
          let (entry, reader) ← readFlowPair fuel (depth + 1) .flowSequenceEnd reader
          let (items, reader) ← readFlowItems fuel depth false (reader.close id (.mapping [entry]))
          return (id :: items, reader)
      | _ =>
          let (item, reader) ← readNode fuel depth .flow reader
          let (items, reader) ← readFlowItems fuel depth false reader
          return (item :: items, reader)

/-- Reads a key and its value in a flow collection, from behind the token that
announces the key. -/
def readFlowPair (fuel depth : Nat) (closing : Token) : Read (NodeId × NodeId) := fun reader =>
  match fuel with
  | 0 => .error (.malformed .unclosedCollection)
  | fuel + 1 => do
      let (key, reader) ←
        readOptional [.value, .flowEntry, closing] (readNode fuel depth .flow) reader
      let (value, reader) ←
        if (← reader.peek) = .value then
          readOptional [.flowEntry, closing] (readNode fuel depth .flow) reader.skip
        else addEmpty reader
      return ((key, value), reader)

/-- Reads the entries of a flow mapping, up to its end. -/
def readFlowEntries (fuel depth : Nat) (first : Bool) : Read (List (NodeId × NodeId)) :=
  fun reader =>
  match fuel with
  | 0 => .error (.malformed .unclosedCollection)
  | fuel + 1 => do
      if (← reader.peek) = .flowMappingEnd then return ([], reader.skip)
      let reader ← if first then pure reader else reader.expect .flowEntry .unclosedCollection
      match ← reader.peek with
      | .flowMappingEnd => return ([], reader.skip)
      | .key =>
          let (entry, reader) ← readFlowPair fuel depth .flowMappingEnd reader.skip
          let (entries, reader) ← readFlowEntries fuel depth false reader
          return (entry :: entries, reader)
      | _ =>
          let (key, reader) ← readNode fuel depth .flow reader
          let (value, reader) ← addEmpty reader
          let (entries, reader) ← readFlowEntries fuel depth false reader
          return ((key, value) :: entries, reader)

end

/-- Reads the directives before a document, with the tag handles so far. -/
def readDirectives (hasVersion : Bool) (handles : List (List Char × List Char)) :
    List Token → Except Fault (List (List Char × List Char) × List Token)
  | .fault fault :: _ => .error fault.toFault
  | .directive (.version major _) :: rest =>
      if hasVersion then .error (.malformed .repeatedVersion)
      else if major ≠ 1 then .error (.malformed .unsupportedVersion)
      else readDirectives true handles rest
  | .directive (.handle name stem) :: rest =>
      if handles.any (·.1 = name) then .error (.malformed .repeatedHandle)
      else readDirectives hasVersion ((name, stem) :: handles) rest
  | .directive .other :: rest => readDirectives hasVersion handles rest
  | tokens => .ok (handles, tokens)

/-- Tokens of which nothing has been read, with the meaning of the tag handles. -/
def ofTokens (handles : List (List Char × List Char)) (tokens : List Token) : NodeReader :=
  { tokens, anchors := [], handles := handles ++ defaultHandles, nodes := #[] }

/-- The calls that reading a node can take: a few for each token. -/
def fuelFor (tokens : List Token) : Nat :=
  4 * tokens.length + 4

/-- The document that starts with a node. -/
def toDocument (read : Read NodeId) (reader : NodeReader) :
    Except Fault (Document × List Token) := do
  let (root, reader) ← read reader
  return ({ nodes := reader.nodes, root }, reader.tokens)

/-- Reads a document. -/
def readDocument (reader : NodeReader) : Except Fault (Document × List Token) :=
  reader.toDocument (readNode (fuelFor reader.tokens) 0 .block)

/-- Reads a document that has a marker at its start. -/
def readMarkedDocument (tokens : List Token) : Except Fault (Document × List Token) := do
  let (handles, tokens) ← readDirectives false [] tokens
  let reader ← (ofTokens handles tokens).expect .documentStart .missingDocumentStart
  match ← reader.peek with
  | .directive _ | .documentStart | .documentEnd | .streamEnd => reader.toDocument addEmpty
  | _ => reader.readDocument

/-- Nothing may follow a document but markers of its end. What comes next is read
as far as its marker. -/
def readEnd : List Token → Except Fault Unit
  | .documentEnd :: rest => readEnd rest
  | .streamEnd :: _ | [] => .ok ()
  | tokens => do
      let _ ← readDirectives false [] tokens
      throw (.malformed .severalDocuments)

end NodeReader

/-- The only document that the tokens hold, if there is one. -/
def Document.ofTokens (tokens : List Token) : Except Fault (Option Document) := do
  match ← (NodeReader.ofTokens [] tokens).peek with
  | .streamEnd => return none
  | .directive _ | .documentStart => do
      let (document, rest) ← NodeReader.readMarkedDocument tokens
      NodeReader.readEnd rest
      return some document
  | _ => do
      let (document, rest) ← (NodeReader.ofTokens [] tokens).readDocument
      NodeReader.readEnd rest
      return some document

end IgnoreRules.Yaml
