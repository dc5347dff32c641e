import IgnoreRules.Yaml.Value

/-!
# The order of sets

Numbers in a set are shown in the order of the slots of a table with room for more than
twice as many. Each lies in the slot that its hash names or, if that is taken, in the
first free one of those tried for it. Equal numbers have equal hashes: a hash is the
remainder of the number by a prime, and as two to the 61 leaves one, a power of two
counts by the remainder of its exponent by 61. Sets that hold anything else have no
order of their own, so they are shown as they were written.
-/

namespace IgnoreRules.Yaml

namespace SetOrder

/-- How many powers of two there are by the modulus of hashes. -/
def hashBits : Nat :=
  61

/-- The modulus of hashes. -/
def hashModulus : Nat :=
  (1 <<< hashBits) - 1

/-- The hash of a whole number times a power of two. No hash is -1. -/
def hashOf (negative : Bool) (mantissa : Nat) (exponent : Int) : Int :=
  let remainder : Nat := mantissa <<< (exponent % hashBits).toNat % hashModulus
  let hash : Int := if negative then -remainder else remainder
  if hash = -1 then -2 else hash

/-- The hash of an infinite number. -/
def infinityHash : Int :=
  314159

/-- The hash of a number. -/
def hash? : Value → Option Int
  | .bool value => some (if value then 1 else 0)
  | .int value => some (hashOf (value < 0) value.natAbs 0)
  | .float (.finite negative mantissa exponent) => some (hashOf negative mantissa exponent)
  | .float (.infinite negative) => some (if negative then -infinityHash else infinityHash)
  | _ => none

/-- How many slots a table for so many members has: a power of two. -/
def tableSize (count : Nat) : Nat :=
  if count < 5 then 8 else 1 <<< ((2 * count).log2 + 1)

/-- The slots behind a slot that are tried with it: nine, unless the table ends before. -/
def neighbours (size slot : Nat) : List Nat :=
  if slot + 9 < size then List.range' (slot + 1) 9 else []

/-- The slots that are tried one after the other, from a slot on and with the bits of
the hash that are left, in so many rounds. -/
def tries (size : Nat) : Nat → Nat → Nat → List Nat
  | 0, _, _ => []
  | rounds + 1, bits, slot =>
      let left := bits >>> 5
      slot :: neighbours size slot ++ tries size rounds left ((slot * 5 + 1 + left) % size)

/-- The slots tried for a hash, which is taken as a number of 64 bits. After 13 rounds
no bit is left, and then the rounds visit every slot. -/
def slotsFor (size : Nat) (hash : Int) : List Nat :=
  let bits := (hash % (1 <<< 64 : Nat)).toNat
  tries size (13 + size) bits (bits % size)

/-- Puts a member into its slot. -/
def place (size : Nat) (taken : List (Nat × Value)) (member : Int × Value) :
    List (Nat × Value) :=
  match (slotsFor size member.1).find? fun slot => taken.all (·.1 ≠ slot) with
  | some slot => (slot, member.2) :: taken
  | none => taken

end SetOrder

/-- The members of a set in the order in which they are shown. -/
def Value.setOrder (members : List Value) : List Value :=
  match members.mapM fun member => (SetOrder.hash? member).map (·, member) with
  | none => members
  | some hashed =>
      let size := SetOrder.tableSize members.length
      let placed := hashed.foldl (SetOrder.place size) []
      (placed.mergeSort fun a b => a.1 ≤ b.1).map (·.2)

end IgnoreRules.Yaml
