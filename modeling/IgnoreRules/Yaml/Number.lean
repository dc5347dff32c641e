import IgnoreRules.Decimal.Basic
import IgnoreRules.Decimal.Double
import IgnoreRules.Text.Numeral
import IgnoreRules.Text.Split
import IgnoreRules.Unicode.Category
import IgnoreRules.Yaml.Fault

/-!
# Numbers

How numbers are recognised among plain scalars, and the value of a scalar that is
a number or is marked as one. Whole numbers are written in base two, eight, ten
or sixteen, and both kinds in base sixty with colons between the digits.
Underscores may stand between digits and mean nothing. A scalar that is only
marked as a number is read more freely: with blanks around it, and in the digits
of any script.
-/

namespace IgnoreRules.Yaml.Number

/-- The character is a digit or an underscore. -/
def isDigitOrBar (c : Char) : Bool :=
  c.isDigit || c = '_'

/-- The text without a sign in front. -/
def dropSign : List Char → List Char
  | '+' :: rest => rest
  | '-' :: rest => rest
  | text => text

/-- The text starts with a digit. -/
def startsWithDigit (text : List Char) : Bool :=
  text.head?.any Char.isDigit

/-- The text is an exponent with a sign, or nothing. -/
def isExponent : List Char → Bool
  | [] => true
  | e :: sign :: digits =>
      (e = 'e' || e = 'E') && (sign = '+' || sign = '-') && digits ≠ [] && digits.all Char.isDigit
  | _ => false

/-- The text is a digit of base sixty. -/
def isSixty : List Char → Bool
  | [a] => a.isDigit
  | [a, b] => '0' ≤ a && a ≤ '5' && b.isDigit
  | _ => false

/-- The text is made of digits of base sixty, of which `isLast` recognises the last
and `isFirst` the first, which is a number of base ten. -/
def isSixties (isFirst isLast : List Char → Bool) (text : List Char) : Bool :=
  match pieces ':' text with
  | first :: second :: rest =>
      isFirst first && ((second :: rest).dropLast.all isSixty) &&
        ((second :: rest).getLast?.any isLast)
  | _ => false

/-- The text is a plain scalar that is a number with a point. -/
def recognisesFloat (text : List Char) : Bool :=
  let unsigned := dropSign text
  let isFixed := startsWithDigit unsigned &&
    match unsigned.dropWhile isDigitOrBar with
    | '.' :: rest => isExponent (rest.dropWhile isDigitOrBar)
    | _ => false
  let isFraction := match text with
    | '.' :: rest => startsWithDigit rest && isExponent (rest.dropWhile isDigitOrBar)
    | _ => false
  let isWhole (piece : List Char) : Bool := startsWithDigit piece && piece.all isDigitOrBar
  let isLast (piece : List Char) : Bool :=
    isSixty (piece.takeWhile (· != '.')) &&
      match piece.dropWhile (· != '.') with
      | '.' :: places => places.all isDigitOrBar
      | _ => false
  isFixed || isFraction || isSixties isWhole isLast unsigned ||
    [".inf".toList, ".Inf".toList, ".INF".toList].contains unsigned ||
    [".nan".toList, ".NaN".toList, ".NAN".toList].contains text

/-- The character is a digit from one to nine. -/
def isLeadingDigit (c : Char) : Bool :=
  '1' ≤ c && c ≤ '9'

/-- The text is a plain scalar that is a whole number. -/
def recognisesInt (text : List Char) : Bool :=
  let isOctal (c : Char) : Bool := ('0' ≤ c && c ≤ '7') || c = '_'
  let isHex (c : Char) : Bool :=
    isDigitOrBar c || ('a' ≤ c && c ≤ 'f') || ('A' ≤ c && c ≤ 'F')
  let isWhole (piece : List Char) : Bool :=
    piece.head?.any isLeadingDigit && piece.all isDigitOrBar
  match dropSign text with
  | ['0'] => true
  | '0' :: 'b' :: digits => digits ≠ [] && digits.all fun c => c = '0' || c = '1' || c = '_'
  | '0' :: 'x' :: digits => digits ≠ [] && digits.all isHex
  | '0' :: digits => digits.all isOctal
  | unsigned => isWhole unsigned || isSixties isWhole isSixty unsigned

/-- The character may stand around a number: a space other than the separators of
information, which are control characters. -/
def isMargin (c : Char) : Bool :=
  Unicode.isSpace c && !(0x1C ≤ c.toNat && c.toNat ≤ 0x1F)

/-- The text without blanks at its ends. -/
def trim (text : List Char) : List Char :=
  ((text.dropWhile isMargin).reverse.dropWhile isMargin).reverse

/-- The value of a digit in bases up to sixteen. -/
def digitValue? (c : Char) : Option Nat :=
  (Numeral.hexDigit? c).or (Unicode.decimalValue? c)

/-- The number that digits write in a base; there has to be one. -/
def digitsValue? (base : Nat) (digits : List Char) : Option Nat :=
  if digits = [] then none
  else digits.foldlM (fun value c => do
    let digit ← digitValue? c
    if digit < base then some (base * value + digit) else none) 0

/-- The digits behind the mark of their base. -/
def dropBaseMark (base : Nat) : List Char → List Char
  | '0' :: mark :: digits =>
      if (base = 2 ∧ (mark = 'b' ∨ mark = 'B')) ∨ (base = 8 ∧ (mark = 'o' ∨ mark = 'O')) ∨
          (base = 16 ∧ (mark = 'x' ∨ mark = 'X')) then digits
      else '0' :: mark :: digits
  | text => text

/-- A whole number in a base, with blanks around it and with a sign. -/
def wholeOfText (base : Nat) (text : List Char) : Except ScalarFault Int :=
  let trimmed := trim text
  let digits := dropBaseMark base (dropSign trimmed)
  if base = 10 ∧ Decimal.digitLimit < digits.length then .error .tooManyDigits
  else match digitsValue? base digits with
    | none => .error .notNumber
    | some value => .ok (if trimmed.head? = some '-' then -value else value)

/-- The value of digits of base sixty. -/
def sixtiesValue (digits : List Int) : Int :=
  digits.foldl (fun value digit => 60 * value + digit) 0

/-- The value of a whole number without its sign and without underscores. -/
def unsignedInt (text : List Char) : Except ScalarFault Int :=
  match text with
  | [] => .error .emptyNumber
  | ['0'] => .ok 0
  | '0' :: 'b' :: digits => wholeOfText 2 digits
  | '0' :: 'x' :: digits => wholeOfText 16 digits
  | '0' :: _ => wholeOfText 8 text
  | _ =>
      if text.contains ':' then
        ((pieces ':' text).mapM (wholeOfText 10)).map sixtiesValue
      else wholeOfText 10 text

/-- The value of a scalar that is a whole number. -/
def intOfText (text : List Char) : Except ScalarFault Int :=
  match text.filter (· ≠ '_') with
  | [] => .error .emptyNumber
  | digits =>
      (unsignedInt (dropSign digits)).map fun value =>
        if digits.head? = some '-' then -value else value

/-- The value of decimal digits, a point among them. -/
def fixedOfText? (exponent : Int) (text : List Char) : Option Double := do
  let whole := text.takeWhile (· ≠ '.')
  let places := (text.dropWhile (· ≠ '.')).drop 1
  let digits ← digitsValue? 10 (whole ++ places)
  return Double.ofDecimal digits (whole ++ places).length (exponent - places.length)

/-- The value of an exponent. -/
def exponentOfText? (text : List Char) : Option Int :=
  (digitsValue? 10 (dropSign text)).map fun value =>
    if text.head? = some '-' then -(value : Int) else value

/-- A decimal number, with blanks around it, a sign and an exponent. -/
def decimalOfText (text : List Char) : Except ScalarFault Double :=
  let trimmed := trim text
  let unsigned := dropSign trimmed
  let value? :=
    if unsigned = "inf".toList ∨ unsigned = "infinity".toList then some (.infinite false)
    else if unsigned = "nan".toList then some .nan
    else
      match unsigned.dropWhile (· ≠ 'e') with
      | [] => fixedOfText? 0 unsigned
      | _ :: exponent => do
          fixedOfText? (← exponentOfText? exponent) (unsigned.takeWhile (· ≠ 'e'))
  match value? with
  | none => .error .notNumber
  | some value => .ok (if trimmed.head? = some '-' then value.negate else value)

/-- The value of digits of base sixty, the last first; `base` is what the next one
counts. A base too large for the precision is an overflow. -/
def sixtiesFloat (base : Nat) (value : Double) : List Double → Except ScalarFault Double
  | [] => .ok value
  | digit :: digits =>
      match Double.ofRatio false base 1 with
      | .finite negative mantissa exponent =>
          let weight := Double.finite negative mantissa exponent
          sixtiesFloat (60 * base) (value.add (digit.mul weight)) digits
      | _ => .error .overflow

/-- The value of a number without its sign, without underscores and in small
letters. -/
def unsignedFloat (text : List Char) : Except ScalarFault Double :=
  if text = ".inf".toList then .ok (.infinite false)
  else if text = ".nan".toList then .ok .nan
  else if text.contains ':' then do
    let digits ← (pieces ':' text).mapM decimalOfText
    sixtiesFloat 1 (.zero false) digits.reverse
  else decimalOfText text

/-- The text is the word for what is not a number. -/
def namesNan (text : List Char) : Bool :=
  dropSign ((text.filter (· ≠ '_')).map Char.toLower) = ".nan".toList

/-- The value of a scalar that is a number with a point. -/
def floatOfText (text : List Char) : Except ScalarFault Double :=
  match (text.filter (· ≠ '_')).map Char.toLower with
  | [] => .error .emptyNumber
  | digits =>
      (unsignedFloat (dropSign digits)).map fun value =>
        if digits.head? = some '-' then value.negate else value

end IgnoreRules.Yaml.Number
