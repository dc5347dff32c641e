import IgnoreRules.Config.Basic
import IgnoreRules.Yaml.Value.Written

/-!
# Configurations from values

A configuration is written as a mapping with up to three keys, each with a value
of one shape. Keys that are left out have a default, and a document without a
value is a mapping without keys. Of several faults the one with the least place is
reported: unknown keys belong to the mapping as a whole and come first, then the
known keys follow in alphabetical order, each before its items and these by index.

A fault shows the value that it is about. All faults are written out before the one
to report is chosen, so one that cannot be written out stands in the way of all.
-/

namespace IgnoreRules

/-- A place in the value of a configuration. -/
structure Config.Place where
  /-- The key. -/
  key : String
  /-- The index of an item under the key. -/
  index : Option Nat
  deriving DecidableEq, Repr

/-- The shapes that values can be required to have. -/
inductive Config.Shape where
  | boolean
  | array
  | string
  deriving DecidableEq, Repr

/-- Why a value is no configuration. Keys and values are given as they are shown. -/
inductive Config.ShapeFault where
  /-- The value is no mapping. -/
  | notMapping
  /-- There are keys without a meaning. -/
  | unknownKeys (keys : List (List Char))
  /-- The value in a place has another shape. -/
  | wrongShape (place : Config.Place) (value : List Char) (shape : Config.Shape)
  /-- The text in a place is empty. -/
  | emptyText (place : Config.Place)
  deriving DecidableEq, Repr

namespace Config

/-- The name of a shape. -/
def Shape.name : Shape → List Char
  | .boolean => "boolean".toList
  | .array => "array".toList
  | .string => "string".toList

/-- A place as messages show it: the key, and the index behind a point. -/
def Place.toText (place : Place) : List Char :=
  place.key.toList ++
    match place.index with
    | none => []
    | some index => '.' :: Decimal.natural index

/-- The fault in words. -/
def ShapeFault.message : ShapeFault → List Char
  | .notMapping => "must be a mapping".toList
  | .unknownKeys keys =>
      "<root>: Additional properties are not allowed (".toList ++
        Yaml.Value.commaSeparated keys ++
        (if keys.length = 1 then " was unexpected)" else " were unexpected)").toList
  | .wrongShape place value shape =>
      place.toText ++ ": ".toList ++ value ++ " is not of type '".toList ++ shape.name ++ ['\'']
  | .emptyText place => place.toText ++ ": '' should be non-empty".toList

/-- The key for the built-in lines. -/
def defaultsKey : String :=
  "include_defaults"

/-- The key for the rule files. -/
def filesKey : String :=
  "rule_files"

/-- The key for the lines given directly. -/
def patternsKey : String :=
  "extra_patterns"

/-- The key has a meaning. -/
def isKnownKey : Yaml.Value → Bool
  | .text name => [defaultsKey, filesKey, patternsKey].any (·.toList = name)
  | _ => false

/-- The value is a text. -/
def text? : Yaml.Value → Option (List Char)
  | .text text => some text
  | _ => none

/-- The value is a truth value. -/
def bool? : Yaml.Value → Option Bool
  | .bool value => some value
  | _ => none

/-- The value is a list. -/
def items? (data : Yaml.Data) (value : Yaml.Value) : Option (List Yaml.Value) :=
  match data.collection? value with
  | some (.list items) => some items
  | _ => none

/-- Entries of a mapping with the collections that they refer to. -/
structure Entries where
  /-- What the values refer to. -/
  data : Yaml.Data
  /-- The entries. -/
  entries : List (Yaml.Value × Yaml.Value)

namespace Entries

/-- The value under a key. -/
def get? (config : Entries) (key : String) : Option Yaml.Value :=
  Yaml.Value.get? key.toList config.entries

/-- The fault of a value that has another shape. -/
def wrongShape (config : Entries) (place : Place) (shape : Shape) (value : Yaml.Value) :
    Except Yaml.Fault (List ShapeFault) :=
  (config.data.written value).map fun shown => [.wrongShape place shown shape]

/-- The faults of the keys: all that have no meaning, in the order of their texts. -/
def keyFaults (config : Entries) : Except Yaml.Fault (List ShapeFault) := do
  let unknown ← ((config.entries.map (·.1)).filter (!isKnownKey ·)).mapM fun key =>
    return (← key.sortText, ← config.data.written key)
  if unknown.isEmpty then return []
  let sorted := unknown.mergeSort fun a b => !decide (b.1 < a.1)
  return [.unknownKeys (sorted.map (·.2))]

/-- The faults of an item, which has to be a text. -/
def itemFaults (config : Entries) (nonEmpty : Bool) (place : Place) (item : Yaml.Value) :
    Except Yaml.Fault (List ShapeFault) :=
  match text? item with
  | some text => .ok (if nonEmpty && text.isEmpty then [.emptyText place] else [])
  | none => config.wrongShape place .string item

/-- The faults of the value under a key that has to be a list of texts. -/
def listFaults (config : Entries) (key : String) (nonEmpty : Bool) :
    Except Yaml.Fault (List ShapeFault) :=
  match config.get? key with
  | none => .ok []
  | some value =>
      match items? config.data value with
      | none => config.wrongShape ⟨key, none⟩ .array value
      | some items => List.flatten <$> items.zipIdx.mapM fun (item, index) =>
          config.itemFaults nonEmpty ⟨key, some index⟩ item

/-- The faults of the value under a key that has to be a truth value. -/
def boolFaults (config : Entries) (key : String) : Except Yaml.Fault (List ShapeFault) :=
  match config.get? key with
  | none => .ok []
  | some value =>
      if (bool? value).isSome then .ok [] else config.wrongShape ⟨key, none⟩ .boolean value

/-- All faults, the one with the least place first. -/
def faults (config : Entries) : Except Yaml.Fault (List ShapeFault) := do
  let keys ← config.keyFaults
  let defaults ← config.boolFaults defaultsKey
  let files ← config.listFaults filesKey true
  let patterns ← config.listFaults patternsKey false
  return keys ++ patterns ++ defaults ++ files

/-- The texts under a key. -/
def texts? (config : Entries) (key : String) : Option (List (List Char)) :=
  ((config.get? key).bind (items? config.data)).map (·.filterMap text?)

/-- The configuration that entries without faults denote. -/
def toConfig (config : Entries) (root : Path) : Config :=
  let base := ofRoot root
  { root
    ruleFiles := ((config.texts? filesKey).map (·.map Path.ofText)).getD base.ruleFiles
    extraPatterns := (config.texts? patternsKey).getD base.extraPatterns
    includeDefaults := ((config.get? defaultsKey).bind bool?).getD base.includeDefaults }

end Entries

/-- The entries of a value that is a mapping; null has none. -/
def entries? (data : Yaml.Data) : Option Entries :=
  match data.root, data.collection? data.root with
  | .null, _ => some { data, entries := [] }
  | _, some (.mapping entries) => some { data, entries }
  | _, _ => none

/-- The configuration that a value denotes, or its least fault. -/
def ofData (root : Path) (data : Yaml.Data) : Except Yaml.Fault (Except ShapeFault Config) :=
  match entries? data with
  | none => .ok (.error .notMapping)
  | some config =>
      config.faults.map fun
        | fault :: _ => .error fault
        | [] => .ok (config.toConfig root)

end Config

end IgnoreRules
