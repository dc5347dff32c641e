/-!
# Double precision

Numbers of double precision are whole mantissas of up to 53 bits times a power of
two. A ratio is rounded to the nearest of them, and to the one with the even
mantissa when two are equally near.
-/

namespace IgnoreRules

/-- A number of double precision. -/
inductive Double where
  /-- The mantissa times two to the exponent, perhaps with a minus. -/
  | finite (negative : Bool) (mantissa : Nat) (exponent : Int)
  | infinite (negative : Bool)
  | nan
  deriving DecidableEq, Repr

namespace Double

/-- The least exponent. -/
def minExponent : Int :=
  -1074

/-- The greatest exponent. -/
def maxExponent : Int :=
  971

/-- The first mantissa that has too many bits. -/
def mantissaLimit : Nat :=
  1 <<< 53

/-- Zero. -/
def zero (negative : Bool) : Double :=
  .finite negative 0 minExponent

/-- The nearest whole number to a ratio; a half goes to the even neighbour. -/
def roundedQuotient (num den : Nat) : Nat :=
  let quotient := num / den
  let twice := 2 * (num % den)
  if den < twice ∨ (twice = den ∧ quotient % 2 = 1) then quotient + 1 else quotient

/-- A ratio as a multiple of two to the exponent. -/
def scaled (num den : Nat) (exponent : Int) : Nat × Nat :=
  (num <<< (-exponent).toNat, den <<< exponent.toNat)

/-- The exponent at which the ratio has a mantissa of 53 bits, or the least one. -/
def exponentOf (num den : Nat) : Int :=
  let exponent := (num.log2 : Int) - den.log2 - 52
  let (n, d) := scaled num den exponent
  max minExponent (if n < d * (mantissaLimit / 2) then exponent - 1 else exponent)

/-- The nearest number to a ratio. -/
def ofRatio (negative : Bool) (num den : Nat) : Double :=
  if num = 0 then zero negative
  else
    let exponent := exponentOf num den
    let (n, d) := scaled num den exponent
    let mantissa := roundedQuotient n d
    let (mantissa, exponent) :=
      if mantissa = mantissaLimit then (mantissaLimit / 2, exponent + 1)
      else (mantissa, exponent)
    if maxExponent < exponent then .infinite negative
    else .finite negative mantissa exponent

/-- The decimal exponents between which a number of a few digits is neither zero
nor infinite. -/
def decimalRange : Int × Int :=
  (-400, 400)

/-- The nearest number to `digits` times ten to the exponent, where `width` is how
many digits there are. -/
def ofDecimal (digits width : Nat) (exponent : Int) : Double :=
  if digits = 0 ∨ exponent + width < decimalRange.1 then zero false
  else if decimalRange.2 < exponent then .infinite false
  else ofRatio false (digits * Nat.pow 10 exponent.toNat) (Nat.pow 10 (-exponent).toNat)

/-- The number with the other sign. -/
def negate : Double → Double
  | .finite negative mantissa exponent => .finite (!negative) mantissa exponent
  | .infinite negative => .infinite (!negative)
  | .nan => .nan

/-- The mantissa with its sign, at an exponent that is not greater. -/
def signedAt (negative : Bool) (mantissa : Nat) (exponent lower : Int) : Int :=
  let shifted : Int := mantissa <<< (exponent - lower).toNat
  if negative then -shifted else shifted

/-- A whole number times two to the exponent, rounded. -/
def ofSigned (mantissa : Int) (exponent : Int) : Double :=
  ofRatio (mantissa < 0) (mantissa.natAbs <<< exponent.toNat) (1 <<< (-exponent).toNat)

/-- The sum of two numbers. -/
def add : Double → Double → Double
  | .finite n m e, .finite n' m' e' =>
      let lower := min e e'
      ofSigned (signedAt n m e lower + signedAt n' m' e' lower) lower
  | .infinite n, .infinite n' => if n = n' then .infinite n else .nan
  | .nan, _ => .nan
  | _, .nan => .nan
  | .infinite n, .finite _ _ _ => .infinite n
  | .finite _ _ _, .infinite n => .infinite n

/-- The product of two numbers. -/
def mul : Double → Double → Double
  | .finite n m e, .finite n' m' e' =>
      let exponent := e + e'
      ofRatio (n != n') ((m * m') <<< exponent.toNat) (1 <<< (-exponent).toNat)
  | .infinite n, .infinite n' => .infinite (n != n')
  | .nan, _ => .nan
  | _, .nan => .nan
  | .infinite n, .finite n' m _ => if m = 0 then .nan else .infinite (n != n')
  | .finite n' m _, .infinite n => if m = 0 then .nan else .infinite (n != n')

/-- The whole number that a number equals, if there is one. -/
def toInt? : Double → Option Int
  | .finite negative mantissa exponent =>
      let den := 1 <<< (-exponent).toNat
      if mantissa % den = 0 then
        some (signedAt negative ((mantissa / den) <<< exponent.toNat) 0 0)
      else none
  | _ => none

end Double

end IgnoreRules
