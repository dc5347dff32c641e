/-!
# Decimal numerals

Whole numbers as text: digits without leading zeros, and a sign in front of a
negative number.
-/

namespace IgnoreRules.Decimal

/-- How many decimal digits a whole number may have where numbers are read and
written. -/
def digitLimit : Nat :=
  4300

/-- A natural number in decimal digits. -/
def natural (n : Nat) : List Char :=
  Nat.toDigits 10 n

/-- An integer in decimal digits. -/
def integer : Int → List Char
  | .ofNat n => natural n
  | .negSucc n => '-' :: natural (n + 1)

/-- A natural number in at least `width` decimal digits. -/
def padded (width n : Nat) : List Char :=
  List.replicate (width - (natural n).length) '0' ++ natural n

end IgnoreRules.Decimal
