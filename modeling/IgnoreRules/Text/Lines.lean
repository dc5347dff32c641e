import IgnoreRules.Text.Utf8

/-!
# Lines

A text is a sequence of lines, each with an end; the last line may do without,
unless it is empty. Besides line feed and carriage return, alone or together,
a few older separators end a line. A text file may start with a byte order
mark, which is no part of the first line.
-/

namespace IgnoreRules.Lines

/-- The character ends a line. -/
def isLineEnd (c : Char) : Bool :=
  ['\n', '\r', '\x0b', '\x0c', '\x1c', '\x1d', '\x1e', '\u0085', '\u2028', '\u2029'].contains c

/-- Puts a character in front of the first line. -/
def extendFirst (c : Char) : List (List Char) → List (List Char)
  | [] => [[c]]
  | line :: lines => (c :: line) :: lines

/-- The lines of a text, without their ends. -/
def split : List Char → List (List Char)
  | [] => []
  | '\r' :: '\n' :: rest => [] :: split rest
  | c :: rest => if isLineEnd c then [] :: split rest else extendFirst c (split rest)

/-- A text in which every line feed and carriage return, alone or together, is
one line feed. -/
def unifyBreaks : List Char → List Char
  | [] => []
  | '\r' :: '\n' :: rest => '\n' :: unifyBreaks rest
  | c :: rest => (if c = '\r' then '\n' else c) :: unifyBreaks rest

/-- The byte order mark. -/
def mark : List UInt8 :=
  [0xEF, 0xBB, 0xBF]

/-- The bytes of a file without a byte order mark at the start. A file that ends
inside the mark holds nothing. -/
def dropMark (bytes : List UInt8) : List UInt8 :=
  if bytes.isPrefixOf mark then []
  else if mark.isPrefixOf bytes then bytes.drop mark.length
  else bytes

/-- The lines of a text file. -/
def ofBytes (bytes : List UInt8) : Except Utf8.Fault (List (List Char)) :=
  (Utf8.decode (dropMark bytes)).map split

end IgnoreRules.Lines
