import IgnoreRules.Decimal.Basic
import IgnoreRules.Decimal.Double

/-!
# Shortest decimals

A number of double precision is written with the fewest digits that read back as
the same number, and among those with the digits nearest to it. The numbers that
read back lie between the midpoints to its two neighbours; the midpoints
themselves belong to them when the mantissa is even. For each count of digits
there are two candidates: the multiples of a power of ten next to the number.
-/

namespace IgnoreRules.Decimal

/-- A finite number and the interval that reads back as it, in quarters of the unit
of its mantissa. -/
structure Reading where
  /-- The number. -/
  center : Nat
  /-- The lower midpoint. -/
  lower : Nat
  /-- The upper midpoint. -/
  upper : Nat
  /-- The midpoints read back as well. -/
  closed : Bool
  /-- A quarter of the unit is two to this power. -/
  exponent : Int

/-- The interval of a mantissa with its exponent. -/
def Reading.of (mantissa : Nat) (exponent : Int) : Reading :=
  { center := 4 * mantissa
    lower :=
      if mantissa = Double.mantissaLimit / 2 ∧ Double.minExponent < exponent then 4 * mantissa - 1
      else 4 * mantissa - 2
    upper := 4 * mantissa + 2
    closed := mantissa % 2 = 0
    exponent := exponent - 2 }

/-- Ten to a power, as a ratio to a quarter of the unit. -/
def Reading.grid (reading : Reading) (power : Int) : Nat × Nat :=
  (Nat.pow 10 power.toNat <<< (-reading.exponent).toNat,
    Nat.pow 10 (-power).toNat <<< reading.exponent.toNat)

/-- So many steps of the grid read back. -/
def Reading.holds (reading : Reading) (grid : Nat × Nat) (steps : Nat) : Bool :=
  let place := steps * grid.1
  let (low, high) := (reading.lower * grid.2, reading.upper * grid.2)
  (low < place && place < high) || (reading.closed && (place = low || place = high))

/-- The candidate of the grid that reads back; of two the nearer one, and of two
equally near ones the even one. -/
def Reading.candidate? (reading : Reading) (power : Int) : Option Nat :=
  let grid := reading.grid power
  let center := reading.center * grid.2
  let below := center / grid.1
  let above := below + 1
  match reading.holds grid below, reading.holds grid above with
  | true, false => some below
  | false, true => some above
  | false, false => none
  | true, true =>
      let (down, up) := (center - below * grid.1, above * grid.1 - center)
      if down < up ∨ (down = up ∧ below % 2 = 0) then some below else some above

/-- The power of ten of the first digit. -/
def Reading.leadingPower (reading : Reading) : Int :=
  let (step, scale) := reading.grid 0
  let center := reading.center * scale
  if step ≤ center then (natural (center / step)).length - 1
  else
    let width := (natural (step / center)).length
    if step ≤ center * Nat.pow 10 (width - 1) then 1 - (width : Int) else -(width : Int)

/-- The digits without zeros at the end, and the power of ten of the last one. -/
def dropZeros : Nat → Nat → Int → Nat × Int
  | 0, digits, power => (digits, power)
  | fuel + 1, digits, power =>
      if digits % 10 = 0 then dropZeros fuel (digits / 10) (power + 1) else (digits, power)

/-- How many digits are always enough. -/
def maxDigits : Nat :=
  17

/-- The shortest digits of a positive number, and the power of ten of the last one. -/
def shortest (mantissa : Nat) (exponent : Int) : Nat × Int :=
  let reading := Reading.of mantissa exponent
  let leading := reading.leadingPower
  let attempt (width : Nat) : Option (Nat × Int) :=
    let power := leading - (width - 1 : Nat)
    (reading.candidate? power).map fun digits => dropZeros (width + 1) digits power
  ((List.range' 1 maxDigits).findSome? attempt).getD (0, 0)

/-- When a number is written without an exponent: the least and the greatest power
of ten of its first digit. -/
def positionalRange : Int × Int :=
  (-4, 15)

/-- An exponent has a sign and at least two digits. -/
def exponentText (power : Int) : List Char :=
  'e' :: (if power < 0 then '-' else '+') :: padded 2 power.natAbs

/-- Digits, of which the last has a power of ten, as a decimal number. A whole number
has a zero behind the point. -/
def positional (digits : List Char) (power : Int) : List Char :=
  if 0 ≤ power then digits ++ List.replicate power.toNat '0' ++ ['.', '0']
  else
    let places := (-power).toNat
    let digits := List.replicate (places + 1 - digits.length) '0' ++ digits
    digits.take (digits.length - places) ++ '.' :: digits.drop (digits.length - places)

/-- Digits, of which the last has a power of ten, as a mantissa and an exponent. -/
def scientific (digits : List Char) (power : Int) : List Char :=
  let exponent := exponentText (power + (digits.length - 1 : Nat))
  match digits with
  | [] => exponent
  | [d] => d :: exponent
  | d :: rest => d :: '.' :: rest ++ exponent

/-- A number of double precision as text. -/
def double : Double → List Char
  | .nan => "nan".toList
  | .infinite negative => (if negative then ['-'] else []) ++ "inf".toList
  | .finite negative mantissa exponent =>
      let text :=
        if mantissa = 0 then "0.0".toList
        else
          let (number, power) := shortest mantissa exponent
          let digits := natural number
          let leading := power + (digits.length - 1 : Nat)
          if positionalRange.1 ≤ leading ∧ leading ≤ positionalRange.2 then
            positional digits power
          else scientific digits power
      (if negative then ['-'] else []) ++ text

end IgnoreRules.Decimal
