import IgnoreRules.Yaml.Character
import IgnoreRules.Yaml.Fault

/-!
# Block scalars

A block scalar is a run of indented lines, taken as written after `|` or folded
after `>`. Its header can give the indentation and say what becomes of the breaks
at the end: one is kept, all are kept after `+`, none after `-`. Without a given
indentation that of the first line counts.
-/

namespace IgnoreRules.Yaml.Block

/-- What becomes of the breaks at the end. -/
inductive Chomping where
  | keepOne
  | keepAll
  | keepNone
  deriving DecidableEq, Repr

/-- What the header of a block scalar says. -/
structure Header where
  /-- What becomes of the breaks at the end. -/
  chomping : Chomping
  /-- By how much the lines are indented. -/
  increment : Option Nat

/-- Reads a chomping indicator. -/
def readChomping : List Char → Chomping × List Char
  | '+' :: rest => (.keepAll, rest)
  | '-' :: rest => (.keepNone, rest)
  | text => (.keepOne, text)

/-- Reads an indentation indicator; zero is none. -/
def readIncrement : List Char → Except TextFault (Option Nat × List Char)
  | c :: rest =>
      if c = '0' then .error (.malformed .badBlockHeader)
      else if c.isDigit then .ok (some (c.toNat - 48), rest)
      else .ok (none, c :: rest)
  | [] => .ok (none, [])

/-- Reads the two indicators, in either order. -/
def readIndicators (text : List Char) : Except TextFault (Header × List Char) := do
  match readChomping text with
  | (.keepOne, text) =>
      let (increment, text) ← readIncrement text
      let (chomping, text) := if increment.isSome then readChomping text else (.keepOne, text)
      return ({ chomping, increment }, text)
  | (chomping, text) =>
      let (increment, text) ← readIncrement text
      return ({ chomping, increment }, text)

/-- Reads the header, with its comment and line break. -/
def readHeader (text : List Char) : Except TextFault (Header × List Char) := do
  let (header, text) ← readIndicators text
  if !endsField text.head? then throw (.malformed .badBlockHeader)
  match dropComment (text.dropWhile (· = ' ')) with
  | [] => return (header, [])
  | c :: rest => if isBreak c then return (header, rest) else throw (.malformed .badBlockHeader)

/-- The empty lines before a line of text. -/
structure Margin where
  /-- The breaks of the empty lines. -/
  breaks : List Char
  /-- The deepest indentation of all these lines. -/
  deepest : Nat
  /-- The indentation of the line of text. -/
  column : Nat
  /-- The text behind the indentation. -/
  rest : List Char

/-- Reads empty lines, however deep their indentation; `column` spaces have been
read on this line. -/
def readMargin (column deepest : Nat) : List Char → Margin
  | [] => { breaks := [], deepest, column, rest := [] }
  | c :: rest =>
      if c = ' ' then readMargin (column + 1) (max deepest (column + 1)) rest
      else if isBreak c then
        let margin := readMargin 0 deepest rest
        { margin with breaks := valueBreak c :: margin.breaks }
      else { breaks := [], deepest, column, rest := c :: rest }

/-- Reads empty lines and the indentation of the line of text, up to `indent`
spaces. -/
def readIndent (indent column : Nat) : List Char → Margin
  | [] => { breaks := [], deepest := 0, column, rest := [] }
  | c :: rest =>
      if c = ' ' ∧ column < indent then readIndent indent (column + 1) rest
      else if isBreak c then
        let margin := readIndent indent 0 rest
        { margin with breaks := valueBreak c :: margin.breaks }
      else { breaks := [], deepest := 0, column, rest := c :: rest }

theorem readIndent_length (indent column : Nat) (text : List Char) :
    (readIndent indent column text).rest.length ≤ text.length := by
  induction text generalizing column with
  | nil => exact Nat.le_refl _
  | cons c text ih =>
      rw [readIndent]
      split
      · exact Nat.le_succ_of_le (ih _)
      · split
        · exact Nat.le_succ_of_le (ih _)
        · exact Nat.le_refl _

/-- What stands for the break behind a line, when a line of text follows. -/
def joint (folded : Bool) (line : List Char) (lineBreak : Char) (margin : Margin) : List Char :=
  if folded && lineBreak = '\n' && !line.head?.any isGap && !margin.rest.head?.any isGap then
    if margin.breaks = [] then [' '] else []
  else [lineBreak]

/-- What the breaks at the end stand for. -/
def tail (chomping : Chomping) (lineBreak : List Char) (margin : Margin) : List Char :=
  match chomping with
  | .keepOne => lineBreak
  | .keepAll => lineBreak ++ margin.breaks
  | .keepNone => []

/-- Reads the lines of a block scalar from the first one on, with the empty lines
before it, and the text behind the last one. -/
def readLines (folded : Bool) (chomping : Chomping) (indent : Nat) (breaks : List Char)
    (text : List Char) : List Char × List Char :=
  match text with
  | [] => (breaks, [])
  | c :: text =>
      let line := c :: text.takeWhile (!isBreak ·)
      match h : text.dropWhile (!isBreak ·) with
      | [] =>
          (breaks ++ line ++ tail chomping [] (readIndent indent 0 []), [])
      | b :: rest =>
          let margin := readIndent indent 0 rest
          have : (readIndent indent 0 rest).rest.length < text.length + 1 := by
            have hmargin := readIndent_length indent 0 rest
            have hdrop := (List.dropWhile_suffix (!isBreak ·) (l := text)).length_le
            rw [h, List.length_cons] at hdrop
            omega
          if margin.column = indent ∧ margin.rest ≠ [] then
            let (lines, after) := readLines folded chomping indent margin.breaks margin.rest
            (breaks ++ line ++ joint folded line (valueBreak b) margin ++ lines, after)
          else
            (breaks ++ line ++ tail chomping [valueBreak b] margin, margin.rest)
termination_by text.length

/-- Reads a block scalar from the text behind its `|` or `>`, and the text behind
it. Its lines are indented by at least `least` spaces. -/
def read (folded : Bool) (least : Nat) (text : List Char) :
    Except TextFault (List Char × List Char) := do
  let (header, text) ← readHeader text
  let (indent, margin) := match header.increment with
    | none =>
        let margin := readMargin 0 0 text
        (max least margin.deepest, margin)
    | some increment =>
        let indent := least + increment - 1
        (indent, readIndent indent 0 text)
  if margin.column = indent ∧ margin.rest ≠ [] then
    return readLines folded header.chomping indent margin.breaks margin.rest
  else
    return (tail header.chomping [] margin, margin.rest)

end IgnoreRules.Yaml.Block
