/-!
# Base 64

Each character of the alphabet stands for six bits. Other characters are skipped.
Padding ends the data where it completes a group of four; data that ends inside a
group without padding is malformed.
-/

namespace IgnoreRules.Base64

/-- The six bits that a character stands for. -/
def sextet? (c : Char) : Option Nat :=
  if 'A' ≤ c ∧ c ≤ 'Z' then some (c.toNat - 65)
  else if 'a' ≤ c ∧ c ≤ 'z' then some (c.toNat - 71)
  else if '0' ≤ c ∧ c ≤ '9' then some (c.toNat + 4)
  else if c = '+' then some 62
  else if c = '/' then some 63
  else none

/-- Decodes from inside a group: `filled` characters of it have been read and have
left `bits`, and `pads` padding characters have followed. -/
def decodeFrom (filled bits pads : Nat) : List Char → Option (List UInt8)
  | [] => if filled = 0 then some [] else none
  | c :: rest =>
      if c = '=' then
        if 2 ≤ filled ∧ 4 ≤ filled + pads + 1 then some []
        else decodeFrom filled bits (if 2 ≤ filled then pads + 1 else pads) rest
      else match sextet? c with
        | none => decodeFrom filled bits pads rest
        | some n =>
            match filled with
            | 0 => decodeFrom 1 n 0 rest
            | 1 => (decodeFrom 2 (n % 16) 0 rest).map (UInt8.ofNat (4 * bits + n / 16) :: ·)
            | 2 => (decodeFrom 3 (n % 4) 0 rest).map (UInt8.ofNat (16 * bits + n / 4) :: ·)
            | _ => (decodeFrom 0 0 0 rest).map (UInt8.ofNat (64 * bits + n) :: ·)

/-- The bytes that a text stands for. -/
def decode? (text : List Char) : Option (List UInt8) :=
  decodeFrom 0 0 0 text

end IgnoreRules.Base64
