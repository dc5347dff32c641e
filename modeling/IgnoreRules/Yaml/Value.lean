import IgnoreRules.Calendar
import IgnoreRules.Decimal.Double

/-!
# Values

What a document denotes. Collections are numbered, and a value that is one of them
is its number; so a collection may hold itself. A mapping and a set keep their
entries in the order in which the keys were first given. Keys are the same when
they denote the same: truth values count as the numbers zero and one, and numbers
are compared by what they are worth. What is not a number is the same only as what
was written in the same place, but all that is written `.nan` is the same.
-/

namespace IgnoreRules.Yaml

/-- The number of a collection. -/
abbrev CollectionId : Type :=
  Nat

/-- What a node denotes. -/
inductive Value where
  | null
  | bool (value : Bool)
  | int (value : Int)
  /-- A number with a point; what is not a number has a place instead. -/
  | float (value : Double)
  /-- What is not a number, by the node that it was written in. -/
  | nan (writtenIn : Option Nat)
  | text (value : List Char)
  | bytes (value : List UInt8)
  | date (value : Date)
  | time (value : Moment)
  | collection (id : CollectionId)
  deriving DecidableEq, Repr

/-- What a collection holds. -/
inductive Collection where
  | list (items : List Value)
  | mapping (entries : List (Value × Value))
  | set (keys : List Value)
  /-- An item of a list that is marked as a list of pairs. -/
  | pair (first second : Value)
  deriving DecidableEq, Repr

/-- A value with the collections that it refers to. -/
structure Data where
  /-- The value. -/
  root : Value
  /-- The collections by their numbers. -/
  collections : Array Collection
  deriving Repr

/-- The collection that a value is, if it is one. -/
def Data.collection? (data : Data) : Value → Option Collection
  | .collection id => data.collections[id]?
  | _ => none

namespace Value

/-- The value is a collection, and so cannot be a key. -/
def isCollection : Value → Bool
  | .collection _ => true
  | _ => false

/-- The whole number that a key counts as. -/
def asInt? : Value → Option Int
  | .bool value => some (if value then 1 else 0)
  | .int value => some value
  | .float value => value.toInt?
  | _ => none

/-- Two keys are the same. -/
def sameKey (a b : Value) : Bool :=
  match a.asInt?, b.asInt? with
  | some m, some n => m = n
  | some _, none => false
  | none, some _ => false
  | none, none =>
      match a, b with
      | .time x, .time y => x.offset.isSome = y.offset.isSome && x.instant = y.instant
      | a, b => a = b

/-- Gives a key its value; a key that is there keeps its place. -/
def put (key value : Value) : List (Value × Value) → List (Value × Value)
  | [] => [(key, value)]
  | (k, v) :: rest => if k.sameKey key then (k, value) :: rest else (k, v) :: put key value rest

/-- The value of a key that is a text. -/
def get? (name : List Char) (entries : List (Value × Value)) : Option Value :=
  (entries.find? fun (key, _) => key.sameKey (.text name)).map (·.2)

end Value

end IgnoreRules.Yaml
