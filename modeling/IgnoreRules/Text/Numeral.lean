/-!
# Numerals

Digits of several bases and the numbers that they write, the first digit counting
most.
-/

namespace IgnoreRules.Numeral

/-- The value of a decimal digit. -/
def decimalDigit? (c : Char) : Option Nat :=
  if '0' ≤ c ∧ c ≤ '9' then some (c.toNat - 48) else none

/-- The value of an octal digit. -/
def octalDigit? (c : Char) : Option Nat :=
  if '0' ≤ c ∧ c ≤ '7' then some (c.toNat - 48) else none

/-- The value of a hexadecimal digit, in either case. -/
def hexDigit? (c : Char) : Option Nat :=
  if '0' ≤ c ∧ c ≤ '9' then some (c.toNat - 48)
  else if 'a' ≤ c ∧ c ≤ 'f' then some (c.toNat - 87)
  else if 'A' ≤ c ∧ c ≤ 'F' then some (c.toNat - 55)
  else none

/-- The number that digits write in a base. -/
def ofDigits (base : Nat) (digits : List Nat) : Nat :=
  digits.foldl (fun value digit => base * value + digit) 0

/-- The number that the decimal digits in a text write. -/
def decimal (text : List Char) : Nat :=
  ofDigits 10 (text.filterMap decimalDigit?)

/-- The number that exactly `width` hexadecimal digits in front write. -/
def hex? (width : Nat) (text : List Char) : Option Nat :=
  let digits := (text.take width).filterMap hexDigit?
  if digits.length = width then some (ofDigits 16 digits) else none

end IgnoreRules.Numeral
