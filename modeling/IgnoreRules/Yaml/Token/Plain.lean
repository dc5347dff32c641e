import IgnoreRules.Yaml.Character

/-!
# Plain scalars

A plain scalar has no quotes. It ends where a colon with a gap behind it, a
comment or, in a flow collection, an indicator follows, and it goes on over a
line break as long as the next line is indented more than the block around it.
A line break in it is a space, and of several breaks in a row the first one is
dropped.
-/

namespace IgnoreRules.Yaml.Plain

/-- The character separates the parts of flow collections. -/
def isFlowIndicator (c : Char) : Bool :=
  ",[]\x7b\x7d".toList.contains c

/-- A plain scalar ends before the character; `next` is the one behind it. -/
def endsBefore (inFlow : Bool) (c : Char) (next : Option Char) : Bool :=
  isGap c || isBreak c || (inFlow && (isFlowIndicator c || c = '?')) ||
    (c = ':' && (endsWord next || (inFlow && next.any isFlowIndicator)))

/-- The part of a plain scalar up to the next gap, and the text behind it. -/
def readRun (inFlow : Bool) : List Char → List Char × List Char
  | [] => ([], [])
  | c :: rest =>
      if endsBefore inFlow c rest.head? then ([], c :: rest)
      else
        let (run, rest) := readRun inFlow rest
        (c :: run, rest)

/-- What stands between two parts of a plain scalar. -/
structure Gap where
  /-- What the gap stands for; nothing when a document marker follows. -/
  filling : Option (List Char)
  /-- The indentation of the next part, if the gap holds a line break. -/
  column : Option Nat
  /-- The text behind the gap. -/
  rest : List Char

/-- Reads the further breaks and spaces of a gap; `column` spaces have been read
on this line. -/
def readBreaks (column : Nat) : List Char → Gap
  | [] => { filling := some [], column, rest := [] }
  | c :: rest =>
      if c = ' ' then readBreaks (column + 1) rest
      else if isBreak c then
        if startsMarker rest then { filling := none, column := some 0, rest }
        else
          let gap := readBreaks 0 rest
          { gap with filling := gap.filling.map (valueBreak c :: ·) }
      else { filling := some [], column, rest := c :: rest }

/-- Reads the gap behind a part of a plain scalar. -/
def readGap (text : List Char) : Gap :=
  match text.dropWhile (· = ' ') with
  | [] => { filling := some (text.takeWhile (· = ' ')), column := none, rest := [] }
  | c :: rest =>
      if isBreak c then
        if startsMarker rest then { filling := none, column := some 0, rest }
        else
          let gap := readBreaks 0 rest
          { gap with filling := gap.filling.map fun breaks =>
              if valueBreak c ≠ '\n' then valueBreak c :: breaks
              else if breaks = [] then [' ']
              else breaks }
      else { filling := some (text.takeWhile (· = ' ')), column := none, rest := c :: rest }

/-- A plain scalar and what follows it. -/
structure Scan where
  /-- The scalar. -/
  text : List Char
  /-- The last gap that was read holds a line break. -/
  endsAtBreak : Bool
  /-- The text behind it. -/
  rest : List Char

theorem readRun_length (inFlow : Bool) (text : List Char) :
    (readRun inFlow text).1.length + (readRun inFlow text).2.length = text.length := by
  induction text with
  | nil => rfl
  | cons c text ih =>
      rw [readRun]
      split
      · simp
      · simp only [List.length_cons]
        omega

theorem readBreaks_length (column : Nat) (text : List Char) :
    (readBreaks column text).rest.length ≤ text.length := by
  induction text generalizing column with
  | nil => exact Nat.le_refl _
  | cons c text ih =>
      rw [readBreaks]
      split
      · exact Nat.le_succ_of_le (ih _)
      · split
        · split
          · exact Nat.le_succ _
          · exact Nat.le_succ_of_le (ih _)
        · exact Nat.le_refl _

theorem readGap_length (text : List Char) : (readGap text).rest.length ≤ text.length := by
  have hle := (List.dropWhile_suffix (· = ' ') (l := text)).length_le
  unfold readGap
  split
  · exact Nat.zero_le _
  · rename_i c rest heq
    rw [heq, List.length_cons] at hle
    split
    · split
      · exact Nat.le_of_succ_le hle
      · exact Nat.le_trans (readBreaks_length 0 rest) (Nat.le_of_succ_le hle)
    · exact hle

/-- A plain scalar goes on behind the gap. -/
def goesOn (inFlow : Bool) (indent : Nat) (gap : Gap) : Bool :=
  gap.filling.any (· ≠ []) && gap.rest.head? ≠ some '#' &&
    (inFlow || gap.column.all (indent ≤ ·))

/-- Reads a plain scalar; `lead` is the filling of the gap before the text. -/
def readFrom (inFlow : Bool) (indent : Nat) (lead : List Char) (crossed : Bool)
    (text : List Char) : Scan :=
  match h : readRun inFlow text with
  | ([], rest) => { text := [], endsAtBreak := crossed, rest }
  | (c :: run, rest) =>
      let gap := readGap rest
      have : gap.rest.length < text.length := by
        have hrun := readRun_length inFlow text
        have hgap : gap.rest.length ≤ rest.length := readGap_length rest
        simp only [h, List.length_cons] at hrun
        omega
      if goesOn inFlow indent gap then
        let scan := readFrom inFlow indent (gap.filling.getD []) gap.column.isSome gap.rest
        { scan with text := lead ++ c :: run ++ scan.text }
      else
        { text := lead ++ c :: run, endsAtBreak := gap.column.isSome, rest := gap.rest }
termination_by text.length

/-- Reads a plain scalar that lies in a block and may go on at an indentation. -/
def read (inFlow : Bool) (indent : Nat) (text : List Char) : Scan :=
  readFrom inFlow indent [] false text

/-- A plain scalar can start with the character; `next` is the one behind it. -/
def canStart (inFlow : Bool) (c : Char) (next : Option Char) : Bool :=
  if isGap c || isBreak c then false
  else if c = '-' then !endsWord next
  else if c = '?' || c = ':' then !inFlow && !endsWord next
  else !(",[]\x7b\x7d#&*!|>'\"%@`".toList.contains c)

end IgnoreRules.Yaml.Plain
