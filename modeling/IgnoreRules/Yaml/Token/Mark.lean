import IgnoreRules.Decimal.Basic
import IgnoreRules.Text.Numeral
import IgnoreRules.Text.Utf8
import IgnoreRules.Yaml.Character
import IgnoreRules.Yaml.Token

/-!
# Anchors, tags and directives

The marks that stand before nodes and documents. Each reader takes the text
behind the character that announces the mark, and gives the text behind it.
-/

namespace IgnoreRules.Yaml.Mark

/-- Reads the name of an anchor or an alias. -/
def readName (text : List Char) : Except TextFault (List Char × List Char) :=
  let name := text.takeWhile isNameChar
  let rest := text.dropWhile isNameChar
  if name = [] then .error (.malformed .badName)
  else if endsWord rest.head? || rest.head?.any ("?:,]\x7d%@`".toList.contains ·) then
    .ok (name, rest)
  else .error (.malformed .badName)

/-- The bytes that part of a tag stands for: `%` and two digits write one. -/
def tagBytes? : List Char → Option (List UInt8)
  | [] => some []
  | '%' :: a :: b :: rest => do
      let high ← Numeral.hexDigit? a
      let low ← Numeral.hexDigit? b
      return UInt8.ofNat (16 * high + low) :: (← tagBytes? rest)
  | c :: rest => if c = '%' then none else (tagBytes? rest).map (UInt8.ofNat c.toNat :: ·)

/-- Reads part of a tag, which is not empty. -/
def readTagPart (text : List Char) : Except TextFault (List Char × List Char) :=
  let written := text.takeWhile isTagChar
  match tagBytes? written with
  | some (b :: bytes) =>
      match Utf8.decode (b :: bytes) with
      | .ok part => .ok (part, text.dropWhile isTagChar)
      | .error _ => .error (.malformed .badTag)
  | _ => .error (.malformed .badTag)

/-- Reads a handle from the text behind its first `!`: a name and another `!`. -/
def readHandle (text : List Char) : Except TextFault (List Char × List Char) :=
  match text.dropWhile isNameChar with
  | '!' :: rest => .ok ('!' :: (text.takeWhile isNameChar ++ ['!']), rest)
  | _ => .error (.malformed .badTag)

/-- Reads a tag from the text behind its `!`. -/
def readTag (text : List Char) : Except TextFault (TagText × List Char) := do
  let (tag, rest) ←
    match text with
    | '<' :: text => do
        let (part, rest) ← readTagPart text
        match rest with
        | '>' :: rest => pure (TagText.full part, rest)
        | _ => throw (.malformed .badTag)
    | text =>
        if endsWord text.head? then pure (TagText.full ['!'], text)
        else if (text.takeWhile fun c => !endsField (some c)).contains '!' then do
          let (handle, text) ← readHandle text
          let (suffix, rest) ← readTagPart text
          pure (TagText.short handle suffix, rest)
        else do
          let (suffix, rest) ← readTagPart text
          pure (TagText.short ['!'] suffix, rest)
  if endsField rest.head? then return (tag, rest) else throw (.malformed .badTag)

/-- Reads a decimal number. -/
def readNumber (text : List Char) : Except TextFault (Nat × List Char) :=
  match text.takeWhile Char.isDigit with
  | [] => .error (.malformed .badDirective)
  | digits =>
      if Decimal.digitLimit < digits.length then .error (.scalar .tooManyDigits)
      else .ok (Numeral.decimal digits, text.dropWhile Char.isDigit)

/-- Reads the two numbers of a version. -/
def readVersion (text : List Char) : Except TextFault (Directive × List Char) := do
  let (major, text) ← readNumber (text.dropWhile (· = ' '))
  match text with
  | '.' :: text => do
      let (minor, rest) ← readNumber text
      if endsField rest.head? then return (.version major minor, rest)
      else throw (.malformed .badDirective)
  | _ => throw (.malformed .badDirective)

/-- Reads the handle that a directive gives a meaning: `!`, or one with a name. -/
def readNewHandle : List Char → Except TextFault (List Char × List Char)
  | '!' :: ' ' :: rest => .ok (['!'], ' ' :: rest)
  | '!' :: text => readHandle text
  | _ => .error (.malformed .badTag)

/-- Reads a handle and what it stands for. -/
def readMeaning (text : List Char) : Except TextFault (Directive × List Char) := do
  let (name, text) ← readNewHandle (text.dropWhile (· = ' '))
  if text.head? ≠ some ' ' then throw (.malformed .badDirective)
  let (stem, rest) ← readTagPart (text.dropWhile (· = ' '))
  if endsField rest.head? then return (.handle name stem, rest)
  else throw (.malformed .badDirective)

/-- Reads a directive, up to the end of its line. -/
def readDirective (text : List Char) : Except TextFault (Directive × List Char) := do
  let name := text.takeWhile isNameChar
  let text := text.dropWhile isNameChar
  if name = [] || !endsField text.head? then throw (.malformed .badDirective)
  let (directive, text) ←
    if name = "YAML".toList then readVersion text
    else if name = "TAG".toList then readMeaning text
    else pure (.other, text.dropWhile (!isBreak ·))
  let rest := dropComment (text.dropWhile (· = ' '))
  if endsLine rest.head? then return (directive, rest.drop 1)
  else throw (.malformed .badDirective)

end IgnoreRules.Yaml.Mark
