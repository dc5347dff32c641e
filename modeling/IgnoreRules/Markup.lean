import IgnoreRules.Rule
import IgnoreRules.Text.Split
import IgnoreRules.Unicode.Category

/-!
# Markup

Shown text is markup: a tag in brackets, such as `[name]` or `[name=arguments]`, opens
a style, and `[/name]` or `[/]` closes one. Tags are not shown. A backslash before a
tag makes it plain text; before another bracket it is dropped, and two before a tag
stand for one. In plain text a name between colons may stand for a picture, and some
control characters are left out.

Which pictures there are and which tags fit together is known to the library that
displays text. What is shown depends on it, and it is a parameter here. How the text
is laid out, in lines and columns and with blanks, is no concern of markup.

Text is escaped to be shown as it is. Escaping takes each text for itself, so when
several are joined, a bracket in one may still find its end in a later one.
-/

namespace IgnoreRules.Markup

/-- Why a text is no markup. -/
inductive Fault where
  /-- A tag is closed that is not open. -/
  | notOpen
  /-- The arguments of a handler cannot be read. -/
  | badArguments
  /-- The name of a style cannot be read. -/
  | badName
  deriving DecidableEq, Repr

/-- A tag can start with the character. -/
def startsTag (c : Char) : Bool :=
  ('a' ≤ c && c ≤ 'z') || c = '#' || c = '/' || c = '@'

/-- The character is a bracket. -/
def isBracket (c : Char) : Bool :=
  c = '[' || c = ']'

/-- The inside of a tag, from the text behind its opening bracket, and the text behind
its closing one. -/
def splitTag? : List Char → Option (List Char × List Char)
  | [] => none
  | first :: text =>
      if startsTag first then
        match text.dropWhile (!isBracket ·) with
        | ']' :: rest => some (first :: text.takeWhile (!isBracket ·), rest)
        | _ => none
      else none

theorem splitTag?_length {text inside rest : List Char}
    (h : splitTag? text = some (inside, rest)) : rest.length < text.length := by
  unfold splitTag? at h
  split at h
  · cases h
  · rename_i first tail
    have hle := (List.dropWhile_suffix (!isBracket ·) (l := tail)).length_le
    split at h
    · split at h
      · rename_i heq
        cases h
        rw [heq] at hle
        simp only [List.length_cons] at hle ⊢
        omega
      · cases h
    · cases h

/-- Backslashes. -/
def backslashes (count : Nat) : List Char :=
  List.replicate count '\\'

/-- Escapes the tags in a text; `count` backslashes stand directly before it. -/
def escapeTags (count : Nat) : List Char → List Char
  | [] => []
  | '\\' :: rest => '\\' :: escapeTags (count + 1) rest
  | '[' :: rest =>
      if (splitTag? rest).isSome then backslashes (count + 1) ++ '[' :: escapeTags 0 rest
      else '[' :: escapeTags 0 rest
  | c :: rest => c :: escapeTags 0 rest

/-- Escapes a text. A single backslash at its end is doubled. -/
def escape (text : List Char) : List Char :=
  let escaped := escapeTags 0 text
  if trailingBackslashes escaped = 1 then escaped ++ ['\\'] else escaped

/-! ## Parts -/

/-- A part of markup. -/
inductive Part where
  /-- Text to be shown. -/
  | plain (text : List Char)
  /-- A tag, by what stands between its brackets. -/
  | tag (inside : List Char)
  deriving DecidableEq, Repr

/-- The part is text to be shown. -/
def Part.isPlain : Part → Bool
  | .plain _ => true
  | .tag _ => false

/-- The text before the first tag, and the parts from there on; `count` backslashes
stand directly before it. The backslashes before a tag are a part of their own. -/
def parse (count : Nat) (text : List Char) : List Char × List Part :=
  match text with
  | [] => (backslashes count, [])
  | c :: rest =>
      if c = '\\' then parse (count + 1) rest
      else if c = '[' then
        match h : splitTag? rest with
        | none =>
            let (first, parts) := parse 0 rest
            (backslashes (count - 1) ++ '[' :: first, parts)
        | some (inside, after) =>
            have := splitTag?_length h
            let (first, parts) := parse 0 after
            ([], .plain (backslashes (count / 2)) ::
              (if count % 2 = 1 then .plain ('[' :: inside ++ [']']) else .tag inside) ::
              .plain first :: parts)
      else
        let (first, parts) := parse 0 rest
        (backslashes count ++ c :: first, parts)
termination_by text.length

/-- The parts of markup. -/
def parts (text : List Char) : List Part :=
  .plain (parse 0 text).1 :: (parse 0 text).2

/-! ## Display -/

/-- What the library that displays text knows. -/
class Display where
  /-- The picture with a name. -/
  picture? : List Char → Option (List Char)
  /-- Why markup with these parts cannot be shown. -/
  fault? : List Part → Option Fault
  /-- Pictures are not written with colons. -/
  not_mem_picture {name picture : List Char} : picture? name = some picture → ':' ∉ picture
  /-- Without tags all can be shown. -/
  fault?_plain {parts : List Part} : (∀ part ∈ parts, part.isPlain = true) → fault? parts = none
  /-- A style is not closed before one is opened. -/
  fault?_closing {before after : List Part} {name : List Char} :
    (∀ part ∈ before, part.isPlain = true) →
      (fault? (before ++ .tag ('/' :: name) :: after)).isSome = true

/-- The name between a colon and the next one, from the text behind the first, and the text
behind the second. There are no blanks in a name. -/
def splitName? (text : List Char) : Option (List Char × List Char) :=
  let name := text.takeWhile (· ≠ ':')
  match text.dropWhile (· ≠ ':') with
  | ':' :: rest => if name.any Unicode.isSpace then none else some (name, rest)
  | _ => none

theorem splitName?_eq {text name rest : List Char} (h : splitName? text = some (name, rest)) :
    text = name ++ ':' :: rest ∧ ':' ∉ name := by
  rw [splitName?] at h
  split at h
  · next heq =>
      split at h
      · cases h
      · cases h
        refine ⟨?_, fun hmem => ?_⟩
        · rw [← heq, List.takeWhile_append_dropWhile]
        · have hall := List.all_eq_true.1 (@List.all_takeWhile _ (· ≠ ':') text) ':' hmem
          exact absurd hall (by decide)
  · cases h

section

variable [Display]

/-- Text with pictures in place of their names. A name that is unknown stays, and so do the
colons around it, of which neither belongs to another name. -/
def putPictures (text : List Char) : List Char :=
  match text with
  | [] => []
  | c :: text =>
      if c = ':' then
        match h : splitName? text with
        | none => ':' :: putPictures text
        | some (name, rest) =>
            have : rest.length < text.length := by
              rw [(splitName?_eq h).1, List.length_append, List.length_cons]
              omega
            (Display.picture? name).getD (':' :: name ++ [':']) ++ putPictures rest
      else c :: putPictures text
termination_by text.length

/-- The character is left out: a bell, a step back, a vertical tab, a form feed or a carriage
return. -/
def isControl (c : Char) : Bool :=
  [0x07, 0x08, 0x0B, 0x0C, 0x0D].contains c.toNat

/-- What is shown of a part. -/
def Part.shown : Part → List Char
  | .plain text => (putPictures text).filter (!isControl ·)
  | .tag _ => []

/-- What is shown of markup. -/
def plainText (text : List Char) : Except Fault (List Char) :=
  match Display.fault? (parts text) with
  | some fault => .error fault
  | none => .ok ((parts text).flatMap Part.shown)

end

end IgnoreRules.Markup
