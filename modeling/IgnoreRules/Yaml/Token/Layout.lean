import IgnoreRules.Yaml.Token
import IgnoreRules.Yaml.Token.Block
import IgnoreRules.Yaml.Token.Mark
import IgnoreRules.Yaml.Token.Plain
import IgnoreRules.Yaml.Token.Quoted

/-!
# Layout

The tokens of a text, read from left to right. Outside of flow collections the
column of a key or an entry opens a block, and a line that is indented less
closes it. A node on one line may turn out to be a key when a colon follows; until
then its place among the tokens is remembered, and the token for the key is put
there afterwards. Such a key spans at most one line and 1024 characters.
-/

namespace IgnoreRules.Yaml

/-- A node that may turn out to be a key. -/
structure KeyCandidate where
  /-- How many flow collections it lies in. -/
  level : Nat
  /-- How many tokens there were before it. -/
  place : Nat
  /-- It starts where the entries of the block start, and nothing else fits. -/
  required : Bool
  /-- Its first character, counted from the start. -/
  index : Nat
  /-- Its line. -/
  line : Nat
  /-- Its column. -/
  column : Nat

/-- A text that has been read in part. -/
structure Layout where
  /-- The text that is left. -/
  rest : List Char
  /-- How many characters have been read. -/
  index : Nat
  /-- How many line breaks have been read. -/
  line : Nat
  /-- How many characters have been read on this line. -/
  column : Nat
  /-- How many flow collections are open. -/
  level : Nat
  /-- The columns of the open blocks, the innermost first. -/
  blocks : List Nat
  /-- A key or an entry may start here. -/
  allowsKey : Bool
  /-- The nodes that may turn out to be keys, at most one a level. -/
  candidates : List KeyCandidate
  /-- The tokens so far, the last first. -/
  tokens : List Token

namespace Layout

/-- A text of which nothing has been read. -/
def ofText (text : List Char) : Layout :=
  { rest := text, index := 0, line := 0, column := 0, level := 0, blocks := [],
    allowsKey := true, candidates := [], tokens := [] }

/-- Counts one character that has been read. -/
def count (layout : Layout) (c : Char) : Layout :=
  if isBreak c then { layout with index := layout.index + 1, line := layout.line + 1, column := 0 }
  else if c = '\ufeff' then { layout with index := layout.index + 1 }
  else { layout with index := layout.index + 1, column := layout.column + 1 }

/-- Goes on by so many characters. -/
def skip (layout : Layout) (width : Nat) : Layout :=
  { (layout.rest.take width).foldl count layout with rest := layout.rest.drop width }

/-- Goes on to the text that is left behind what has been read. -/
def moveTo (layout : Layout) (rest : List Char) : Layout :=
  layout.skip (layout.rest.length - rest.length)

/-- Adds a token. -/
def emit (layout : Layout) (token : Token) : Layout :=
  { layout with tokens := token :: layout.tokens }

/-- Puts a token at a place among the others. -/
def insert (layout : Layout) (place : Nat) (token : Token) : Layout :=
  let later := layout.tokens.length - place
  { layout with tokens := layout.tokens.take later ++ token :: layout.tokens.drop later }

/-- The text lies in a flow collection. -/
def inFlow (layout : Layout) : Bool :=
  layout.level ≠ 0

/-- Forgets the candidates that can no longer be keys. A required one must not be
forgotten. -/
def dropStale (layout : Layout) : Except TextFault Layout :=
  let isStale (key : KeyCandidate) : Bool :=
    key.line ≠ layout.line || key.index + 1024 < layout.index
  if layout.candidates.any fun key => isStale key && key.required then
    .error (.malformed .missingColon)
  else .ok { layout with candidates := layout.candidates.filter (!isStale ·) }

/-- The candidate of this level. -/
def candidate? (layout : Layout) : Option KeyCandidate :=
  layout.candidates.find? (·.level = layout.level)

/-- Forgets the candidate of this level. -/
def dropCandidate (layout : Layout) : Except TextFault Layout :=
  if layout.candidate?.any (·.required) then .error (.malformed .missingColon)
  else .ok { layout with candidates := layout.candidates.filter (·.level ≠ layout.level) }

/-- Remembers that the next token may start a key. -/
def addCandidate (layout : Layout) : Except TextFault Layout := do
  if !layout.allowsKey then return layout
  let layout ← layout.dropCandidate
  let key : KeyCandidate :=
    { level := layout.level, place := layout.tokens.length
      required := !layout.inFlow && layout.blocks.head? = some layout.column
      index := layout.index, line := layout.line, column := layout.column }
  return { layout with candidates := key :: layout.candidates }

/-- Closes the blocks that start behind a column. -/
def closeBlocks (layout : Layout) (isInside : Nat → Bool) : Layout :=
  if layout.inFlow then layout
  else
    let closed := layout.blocks.takeWhile isInside
    { layout with
      blocks := layout.blocks.dropWhile isInside
      tokens := closed.map (fun _ => .blockEnd) ++ layout.tokens }

/-- A block that starts in the column is a new one. -/
def opensBlock (layout : Layout) (column : Nat) : Bool :=
  !layout.inFlow && layout.blocks.head?.all (· < column)

/-- Opens a block in this column, unless it is open. -/
def openBlock (layout : Layout) (token : Token) : Layout :=
  if layout.opensBlock layout.column then
    { layout with blocks := layout.column :: layout.blocks }.emit token
  else layout

/-- How many characters of spaces, comments and line breaks the text starts with, and
whether a key may start behind them. -/
def leadingSpace (text : List Char) (allowsKey inFlow : Bool) : Nat × Bool :=
  let spaces := (text.takeWhile (· = ' ')).length
  let width := spaces + commentLength (text.drop spaces)
  match h : text.drop width with
  | [] => (width, allowsKey)
  | c :: rest =>
      have : rest.length < text.length := by
        have := congrArg List.length h
        rw [List.length_drop, List.length_cons] at this
        omega
      if isBreak c then
        let (others, allowsKey) := leadingSpace rest (allowsKey || !inFlow) inFlow
        (width + 1 + others, allowsKey)
      else (width, allowsKey)
termination_by text.length

/-- Goes on to the next token. A byte order mark may stand at the very start. -/
def toNextToken (layout : Layout) : Layout :=
  let layout :=
    if layout.index = 0 ∧ layout.rest.head? = some '\ufeff' then layout.skip 1 else layout
  let (width, allowsKey) := leadingSpace layout.rest layout.allowsKey layout.inFlow
  { layout.skip width with allowsKey }

/-- Ends all blocks before a line that belongs to no document. -/
def leaveDocument (layout : Layout) : Except TextFault Layout := do
  let layout ← (layout.closeBlocks fun _ => true).dropCandidate
  return { layout with allowsKey := false }

/-- Reads a document marker. -/
def readMarker (layout : Layout) (token : Token) : Except TextFault Layout := do
  let layout ← layout.leaveDocument
  return (layout.emit token).skip 3

/-- Reads the start of a flow collection, which may start a key. -/
def readFlowStart (layout : Layout) (token : Token) : Except TextFault Layout := do
  let layout ← layout.addCandidate
  let layout := { layout with level := layout.level + 1, allowsKey := true }
  return (layout.emit token).skip 1

/-- Reads the end of a flow collection. -/
def readFlowEnd (layout : Layout) (token : Token) : Except TextFault Layout := do
  let layout ← layout.dropCandidate
  let layout := { layout with level := layout.level - 1, allowsKey := false }
  return (layout.emit token).skip 1

/-- Reads the comma between the entries of a flow collection. -/
def readFlowEntry (layout : Layout) : Except TextFault Layout := do
  let layout ← { layout with allowsKey := true }.dropCandidate
  return (layout.emit .flowEntry).skip 1

/-- Reads an indicator that starts an entry of a block, or opens the block. -/
def readBlockIndicator (layout : Layout) (start indicator : Token) (misplaced : Malformation)
    (allowsKey : Bool) : Except TextFault Layout := do
  if !layout.inFlow && !layout.allowsKey then throw (.malformed misplaced)
  let layout ← { layout.openBlock start with allowsKey }.dropCandidate
  return (layout.emit indicator).skip 1

/-- Reads the colon before a value. The candidate of this level is its key. -/
def readValue (layout : Layout) : Except TextFault Layout :=
  match layout.candidate? with
  | none =>
      layout.readBlockIndicator .blockMappingStart .value .misplacedValue !layout.inFlow
  | some key =>
      let candidates := layout.candidates.filter (·.level ≠ layout.level)
      let layout := { layout with candidates, allowsKey := false }.insert key.place .key
      let layout :=
        if layout.opensBlock key.column then
          { layout with blocks := key.column :: layout.blocks }.insert key.place .blockMappingStart
        else layout
      .ok ((layout.emit .value).skip 1)

/-- Reads a mark or a scalar, which may start a key. -/
def readItem (layout : Layout)
    (read : List Char → Except TextFault (Token × List Char)) : Except TextFault Layout := do
  let layout ← layout.addCandidate
  let (token, rest) ← read (layout.rest.drop 1)
  return { (layout.emit token).moveTo rest with allowsKey := false }

/-- Reads a block scalar. -/
def readBlockScalar (layout : Layout) (folded : Bool) : Except TextFault Layout := do
  let layout ← { layout with allowsKey := true }.dropCandidate
  let least := (layout.blocks.head?.map (· + 1)).getD 1
  let (text, rest) ← Block.read folded least (layout.rest.drop 1)
  return (layout.emit (.scalar text false)).moveTo rest

/-- Reads a plain scalar. -/
def readPlain (layout : Layout) : Except TextFault Layout := do
  let layout ← layout.addCandidate
  let indent := (layout.blocks.head?.map (· + 1)).getD 0
  let scan := Plain.read layout.inFlow indent layout.rest
  return { (layout.emit (.scalar scan.text true)).moveTo scan.rest with
    allowsKey := scan.endsAtBreak }

/-- Ends the stream. -/
def readEnd (layout : Layout) : Except TextFault Layout := do
  let layout ← layout.leaveDocument
  return layout.emit .streamEnd

/-- Reads the token that starts with `c`; `next` is the character behind it. -/
def readToken (layout : Layout) (c : Char) (next : Option Char) : Except TextFault Layout :=
  let atMarker := layout.column = 0 ∧ startsMarker layout.rest
  let indicates := layout.inFlow || endsWord next
  match c with
  | '[' => layout.readFlowStart .flowSequenceStart
  | '\x7b' => layout.readFlowStart .flowMappingStart
  | ']' => layout.readFlowEnd .flowSequenceEnd
  | '\x7d' => layout.readFlowEnd .flowMappingEnd
  | ',' => layout.readFlowEntry
  | '*' => layout.readItem fun text => (Mark.readName text).map fun (name, rest) =>
      (.alias name, rest)
  | '&' => layout.readItem fun text => (Mark.readName text).map fun (name, rest) =>
      (.anchor name, rest)
  | '!' => layout.readItem fun text => (Mark.readTag text).map fun (tag, rest) =>
      (.tag tag, rest)
  | '\'' => layout.readItem fun text => (Quoted.read '\'' text).map fun (scalar, rest) =>
      (.scalar scalar false, rest)
  | '"' => layout.readItem fun text => (Quoted.read '"' text).map fun (scalar, rest) =>
      (.scalar scalar false, rest)
  | c =>
      if c = '%' ∧ layout.column = 0 then do
        let layout ← layout.leaveDocument
        let (directive, rest) ← Mark.readDirective (layout.rest.drop 1)
        return (layout.emit (.directive directive)).moveTo rest
      else if c = '-' ∧ atMarker then layout.readMarker .documentStart
      else if c = '.' ∧ atMarker then layout.readMarker .documentEnd
      else if c = '-' ∧ endsWord next then
        layout.readBlockIndicator .blockSequenceStart .blockEntry .misplacedEntry true
      else if c = '?' ∧ indicates then
        layout.readBlockIndicator .blockMappingStart .key .misplacedKey !layout.inFlow
      else if c = ':' ∧ indicates then layout.readValue
      else if c = '|' ∧ !layout.inFlow then layout.readBlockScalar false
      else if c = '>' ∧ !layout.inFlow then layout.readBlockScalar true
      else if Plain.canStart layout.inFlow c next then layout.readPlain
      else .error (.malformed .unexpectedCharacter)

/-- Reads on by one token. -/
def step (layout : Layout) : Except TextFault Layout := do
  let layout ← layout.toNextToken.dropStale
  let layout := layout.closeBlocks (layout.column < ·)
  match layout.rest with
  | [] => layout.readEnd
  | c :: rest => layout.readToken c rest.head?

/-- The tokens with a fault at the end. What follows a possible key is not known to
be a key or not, and so is not to be relied on. -/
def failAt (layout : Layout) (fault : TextFault) : List Token :=
  let later := match (layout.candidates.map (·.place)).min? with
    | some place => layout.tokens.length - place
    | none => 0
  (.fault fault :: layout.tokens.drop later).reverse

/-- Reads on to the end of the text; each token takes a character at least. -/
def readAll : Nat → Layout → List Token
  | 0, layout => layout.tokens.reverse
  | fuel + 1, layout =>
      match layout.dropStale with
      | .error fault => layout.failAt fault
      | .ok layout =>
          match layout.step with
          | .error fault => layout.failAt fault
          | .ok next =>
              if next.tokens.head? = some .streamEnd then next.tokens.reverse
              else readAll fuel next

end Layout

/-- The tokens of a text whose line breaks are line feeds. -/
def Token.ofText (text : List Char) : List Token :=
  if text.all isAllowed then Layout.readAll (text.length + 1) (.ofText text)
  else [.fault (.malformed .unprintableCharacter)]

end IgnoreRules.Yaml
