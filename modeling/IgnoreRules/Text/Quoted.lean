import IgnoreRules.Unicode.Printable

/-!
# Quoted text

A text is quoted with single quotes, or with double quotes when it holds single
ones and no double ones. Inside, a backslash stands before the quote in use,
before a backslash, and starts the escape of a character that cannot be printed.
-/

namespace IgnoreRules.Quoted

/-- The last `width` hexadecimal digits of a number. -/
def hexDigits : Nat → Nat → List Char
  | 0, _ => []
  | width + 1, n => hexDigits width (n / 16) ++ [Nat.digitChar (n % 16)]

/-- A character between quotes. -/
def encodeChar (mark c : Char) : List Char :=
  if c = mark ∨ c = '\\' then ['\\', c]
  else if c = '\n' then ['\\', 'n']
  else if c = '\r' then ['\\', 'r']
  else if c = '\t' then ['\\', 't']
  else if Unicode.isPrintable c then [c]
  else if c.toNat < 0x100 then '\\' :: 'x' :: hexDigits 2 c.toNat
  else if c.toNat < 0x10000 then '\\' :: 'u' :: hexDigits 4 c.toNat
  else '\\' :: 'U' :: hexDigits 8 c.toNat

/-- The quotation mark that a text is quoted with. -/
def markFor (text : List Char) : Char :=
  if text.contains '\'' && !text.contains '"' then '"' else '\''

/-- A text between quotes. -/
def encode (text : List Char) : List Char :=
  let mark := markFor text
  mark :: (text.flatMap (encodeChar mark) ++ [mark])

end IgnoreRules.Quoted
