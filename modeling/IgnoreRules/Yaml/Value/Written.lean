import IgnoreRules.Decimal.Shortest
import IgnoreRules.Text.Quoted
import IgnoreRules.Yaml.Document
import IgnoreRules.Yaml.Value
import IgnoreRules.Yaml.Value.SetOrder

/-!
# Written values

Values as messages show them. Texts and bytes stand in quotes, collections in
brackets; a time names its parts and leaves out seconds and microseconds when they
and all behind them are zero. A set has an order of its own. A collection inside
itself is three dots. Not every value can be shown: a number may have too many
digits, and collections may lie too deep in one another.
-/

namespace IgnoreRules.Yaml

namespace Value

/-- A byte between quotes. -/
def writtenByte (mark : Char) (b : UInt8) : List Char :=
  let c := Char.ofNat b.toNat
  if b.toNat < 0x7F then Quoted.encodeChar mark c
  else '\\' :: 'x' :: Quoted.hexDigits 2 b.toNat

/-- Bytes between quotes. -/
def writtenBytes (bytes : List UInt8) : List Char :=
  let mark := Quoted.markFor (bytes.map fun b => Char.ofNat b.toNat)
  'b' :: mark :: (bytes.flatMap (writtenByte mark) ++ [mark])

/-- Texts with commas between them. -/
def commaSeparated (texts : List (List Char)) : List Char :=
  ", ".toList.intercalate texts

/-- A name with its arguments. -/
def call (name : String) (arguments : List (List Char)) : List Char :=
  name.toList ++ '(' :: commaSeparated arguments ++ [')']

/-- A day. -/
def writtenDate (date : Date) : List Char :=
  call "datetime.date" ([date.year, date.month, date.day].map Decimal.natural)

/-- An offset from universal time. -/
def writtenOffset (minutes : Int) : List Char :=
  if minutes = 0 then "datetime.timezone.utc".toList
  else
    let day := minutes / (minutesPerDay : Int)
    let seconds := minutes % (minutesPerDay : Int) * 60
    let days := if day = 0 then [] else ["days=".toList ++ Decimal.integer day]
    call "datetime.timezone"
      [call "datetime.timedelta" (days ++ ["seconds=".toList ++ Decimal.integer seconds])]

/-- A time. -/
def writtenTime (moment : Moment) : List Char :=
  let parts := [moment.date.year, moment.date.month, moment.date.day, moment.hour, moment.minute]
  let small :=
    if moment.microsecond ≠ 0 then [moment.second, moment.microsecond]
    else if moment.second ≠ 0 then [moment.second]
    else []
  let zone := match moment.offset with
    | none => []
    | some minutes => ["tzinfo=".toList ++ writtenOffset minutes]
  call "datetime.datetime" ((parts ++ small).map Decimal.natural ++ zone)

/-- A whole number, which may have too many digits to be written. -/
def writtenInt (value : Int) : Except Fault (List Char) :=
  if Decimal.digitLimit < (Decimal.natural value.natAbs).length then
    .error (.scalar .tooManyDigits)
  else .ok (Decimal.integer value)

/-- A value that is no collection. -/
def writtenAtom : Value → Except Fault (List Char)
  | .null => .ok "None".toList
  | .bool true => .ok "True".toList
  | .bool false => .ok "False".toList
  | .int value => writtenInt value
  | .float value => .ok (Decimal.double value)
  | .nan _ => .ok (Decimal.double .nan)
  | .text value => .ok (Quoted.encode value)
  | .bytes value => .ok (writtenBytes value)
  | .date value => .ok (writtenDate value)
  | .time value => .ok (writtenTime value)
  | .collection _ => .ok []

/-- A collection of texts in its brackets. -/
def bracketed (collection : Collection) (texts : List (List Char)) : List Char :=
  match collection with
  | .list _ => '[' :: commaSeparated texts ++ [']']
  | .mapping _ => '\x7b' :: commaSeparated texts ++ ['\x7d']
  | .set _ =>
      if texts = [] then "set()".toList else '\x7b' :: commaSeparated texts ++ ['\x7d']
  | .pair _ _ => '(' :: commaSeparated texts ++ [')']

/-- A collection inside itself. -/
def ellipsis (collection : Collection) : List Char :=
  bracketed collection ["...".toList]

/-- A value as messages show it, in at most so many steps; `outer` are the collections
that it lies in. -/
def writtenIn (collections : Array Collection) :
    Nat → List CollectionId → Value → Except Fault (List Char)
  | 0, _, _ => .error .tooDeep
  | fuel + 1, outer, value =>
      let inside (id : CollectionId) (value : Value) : Except Fault (List Char) :=
        writtenIn collections fuel (id :: outer) value
      match value with
      | .collection id =>
          match collections[id]? with
          | none => .ok []
          | some held =>
              if outer.contains id then .ok (ellipsis held)
              else bracketed held <$>
                match held with
                | .list items => items.mapM (inside id)
                | .mapping entries => entries.mapM fun (key, value) =>
                    return (← inside id key) ++ ": ".toList ++ (← inside id value)
                | .set members => (setOrder members).mapM (inside id)
                | .pair first second => [first, second].mapM (inside id)
      | value => writtenAtom value

end Value

/-- A value as messages show it. -/
def Data.written (data : Data) (value : Value) : Except Fault (List Char) :=
  value.writtenIn data.collections nestingLimit []

/-- The text that a key is sorted by. -/
def Value.sortText : Value → Except Fault (List Char)
  | .text value => .ok value
  | .date value => .ok value.toText
  | .time value => .ok value.toText
  | value => value.writtenAtom

end IgnoreRules.Yaml
