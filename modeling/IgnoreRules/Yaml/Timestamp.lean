import IgnoreRules.Calendar
import IgnoreRules.Text.Numeral

/-!
# Timestamps

The text of a day or of a time: `year-month-day`, and behind `T` or a gap
`hour:minute:second` with an optional fraction and an optional offset. Digits
past the sixth of a fraction do not count.
-/

namespace IgnoreRules.Yaml

/-- A time of a day as a timestamp gives it. -/
structure Timestamp.Clock where
  hour : Nat
  minute : Nat
  second : Nat
  microsecond : Nat
  /-- Minutes ahead of universal time, if given. -/
  offset : Option Int

/-- What a timestamp says, possible or not. -/
structure Timestamp where
  /-- The day. -/
  date : Date
  /-- The time of the day, if given. -/
  clock : Option Timestamp.Clock

namespace Timestamp

/-- Reads a number of `least` to `most` digits, as many as there are. -/
def readDigits? (least most : Nat) (text : List Char) : Option (Nat × List Char) :=
  let digits := (text.take most).takeWhile Char.isDigit
  if digits.length < least then none
  else some (Numeral.decimal digits, text.drop digits.length)

/-- Reads a character. -/
def readChar? (c : Char) (text : List Char) : Option (List Char) :=
  match text with
  | d :: rest => if c = d then some rest else none
  | [] => none

/-- The text without spaces and tabs in front. -/
def dropGap (text : List Char) : List Char :=
  text.dropWhile fun c => c = ' ' || c = '\t'

/-- Reads an optional fraction of a second, as microseconds. -/
def readFraction (text : List Char) : Nat × List Char :=
  match text with
  | '.' :: rest =>
      let digits := ((rest.takeWhile Char.isDigit) ++ List.replicate 6 '0').take 6
      (Numeral.decimal digits, rest.dropWhile Char.isDigit)
  | text => (0, text)

/-- Reads an optional offset, which ends the text. -/
def readOffset? (text : List Char) : Option (Option Int) :=
  match text, dropGap text with
  | [], _ => some none
  | _, ['Z'] => some (some 0)
  | _, sign :: rest =>
      if sign = '+' ∨ sign = '-' then do
        let (hours, rest) ← readDigits? 1 2 rest
        let minutes ←
          match rest with
          | [] => some 0
          | rest => do
              let (minutes, rest) ← readDigits? 2 2 (← readChar? ':' rest)
              if rest = [] then some minutes else none
        let offset : Int := hours * 60 + minutes
        return some (if sign = '-' then -offset else offset)
      else none
  | _, [] => none

/-- Reads the time of the day, to the end of the text. -/
def readClock? (text : List Char) : Option Clock := do
  let (hour, text) ← readDigits? 1 2 text
  let (minute, text) ← readDigits? 2 2 (← readChar? ':' text)
  let (second, text) ← readDigits? 2 2 (← readChar? ':' text)
  let (microsecond, text) := readFraction text
  let offset ← readOffset? text
  return { hour, minute, second, microsecond, offset }

/-- Reads what stands behind the day. -/
def readBehindDate? (text : List Char) : Option (Option Clock) :=
  match text with
  | [] => some none
  | c :: rest =>
      if c = 'T' ∨ c = 't' then (readClock? rest).map some
      else if c = ' ' ∨ c = '\t' then (readClock? (dropGap rest)).map some
      else none

/-- The timestamp that a text is. -/
def ofText? (text : List Char) : Option Timestamp := do
  let (year, text) ← readDigits? 4 4 text
  let (month, text) ← readDigits? 1 2 (← readChar? '-' text)
  let (day, text) ← readDigits? 1 2 (← readChar? '-' text)
  let clock ← readBehindDate? text
  return { date := { year, month, day }, clock }

/-- The text is recognised as a timestamp. A day alone has to have all its digits. -/
def recognises (text : List Char) : Bool :=
  match ofText? text with
  | none => false
  | some timestamp => timestamp.clock.isSome || text.length = 10

end Timestamp

end IgnoreRules.Yaml
