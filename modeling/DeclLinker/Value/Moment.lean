import DeclLinker.Text.Basic

/-!
# Dates and moments

A day of the calendar, and a time of a day, which may know how far its clock is ahead of the common
one.  Each is shown on its own in digits, and inside a larger value by the call that makes it.
-/

namespace DeclLinker

/-- A day of the calendar. -/
structure Date where
  year : Nat
  month : Nat
  day : Nat
  deriving DecidableEq

/-- A time of a day; the offset of its clock is in minutes. -/
structure Moment where
  date : Date
  hour : Nat
  minute : Nat
  second : Nat
  micro : Nat
  offset? : Option Int
  deriving DecidableEq

/-- Why numbers make no date or moment. -/
inductive CalendarFault where
  | year (number : Nat)
  | month
  | day
  | hour
  | minute
  | second
  | offset (minutes : Int)
  deriving DecidableEq

/-- A number in decimal digits, filled with zeros up to a width. -/
def Text.padded (width number : Nat) : Text :=
  let digits := Text.ofNat number
  List.replicate (width - digits.length) '0' ++ digits

namespace Date

/-- Whether a year has a day more. -/
def isLeap (year : Nat) : Bool :=
  year % 4 == 0 && (year % 100 != 0 || year % 400 == 0)

/-- The number of days of a month. -/
def monthLength (year month : Nat) : Nat :=
  if month = 2 then
    if isLeap year then 29 else 28
  else if [4, 6, 9, 11].contains month then
    30
  else
    31

/-- The day with a year, a month and a number. -/
def make (year month day : Nat) : Except CalendarFault Date :=
  if year = 0 then .error (.year year)
  else if month = 0 ∨ 12 < month then .error .month
  else if day = 0 ∨ monthLength year month < day then .error .day
  else .ok ⟨year, month, day⟩

/-- The number of days before a year. -/
def daysBefore (year : Nat) : Nat :=
  let past := year - 1
  past * 365 + past / 4 - past / 100 + past / 400

/-- The number of a day, counted from the first day of the first year. -/
def number (date : Date) : Nat :=
  let months := (List.range (date.month - 1)).map fun month => monthLength date.year (month + 1)
  daysBefore date.year + months.foldl (· + ·) 0 + date.day

/-- A day in digits. -/
def display (date : Date) : Text :=
  Text.padded 4 date.year ++ '-' :: Text.padded 2 date.month ++ '-' :: Text.padded 2 date.day

/-- The numbers of a day. -/
def numbers (date : Date) : List Nat :=
  [date.year, date.month, date.day]

/-- The call that makes a day. -/
def literal (date : Date) : Text :=
  "datetime.date(".toList ++ Text.commaList (date.numbers.map Text.ofNat) ++ [')']

end Date

/-- The call that makes a stretch of whole minutes; a negative one is counted from full days. -/
def minutesLiteral (minutes : Int) : Text :=
  let days := Int.fdiv minutes 1440
  let seconds := Int.fmod minutes 1440 * 60
  let parts :=
    (if days = 0 then [] else ["days=".toList ++ Text.ofInt days]) ++
      (if seconds = 0 then [] else ["seconds=".toList ++ Text.ofInt seconds])
  "datetime.timedelta(".toList ++
    (if parts.isEmpty then ['0'] else Text.commaList parts) ++ [')']

/-- The message for a fault. -/
def CalendarFault.message : CalendarFault → Text
  | .year number => "year ".toList ++ Text.ofNat number ++ " is out of range".toList
  | .month => "month must be in 1..12".toList
  | .day => "day is out of range for month".toList
  | .hour => "hour must be in 0..23".toList
  | .minute => "minute must be in 0..59".toList
  | .second => "second must be in 0..59".toList
  | .offset minutes =>
      "offset must be a timedelta strictly between -timedelta(hours=24) and ".toList ++
        "timedelta(hours=24), not ".toList ++ minutesLiteral minutes ++ ['.']

namespace Moment

/-- The moment on a day; an offset is less than a day. -/
def make (year month day hour minute second micro : Nat) (offset? : Option Int) :
    Except CalendarFault Moment :=
  match offset?.filter fun offset => 1440 ≤ offset.natAbs with
  | some offset => .error (.offset offset)
  | none => do
      let date ← Date.make year month day
      if 24 ≤ hour then .error .hour
      else if 60 ≤ minute then .error .minute
      else if 60 ≤ second then .error .second
      else pure ⟨date, hour, minute, second, micro, offset?⟩

/-- The minute of a moment by the common clock, counted from the first day of the first year. -/
def commonMinute (moment : Moment) (offset : Int) : Int :=
  (moment.date.number * 1440 + moment.hour * 60 + moment.minute : Nat) - offset

/-- Whether two moments are the same: by the common clock where both know it, and otherwise by all
they hold. -/
def same (first second : Moment) : Bool :=
  match first.offset?, second.offset? with
  | some offset, some offset' =>
      first.commonMinute offset == second.commonMinute offset' &&
        first.second == second.second && first.micro == second.micro
  | _, _ => first == second

/-- The offset of a clock in digits. -/
def offsetText (offset : Int) : Text :=
  (if offset < 0 then '-' else '+') ::
    (Text.padded 2 (offset.natAbs / 60) ++ ':' :: Text.padded 2 (offset.natAbs % 60))

/-- A moment in digits; the parts of a second are shown when there are any. -/
def display (moment : Moment) : Text :=
  moment.date.display ++ ' ' :: Text.padded 2 moment.hour ++ ':' ::
    Text.padded 2 moment.minute ++ ':' :: Text.padded 2 moment.second ++
    (if moment.micro = 0 then [] else '.' :: Text.padded 6 moment.micro) ++
    (match moment.offset? with
      | some offset => offsetText offset
      | none => [])

/-- The call that makes the clock of a moment. -/
def clockLiteral (offset : Int) : Text :=
  if offset = 0 then "datetime.timezone.utc".toList
  else "datetime.timezone(".toList ++ minutesLiteral offset ++ [')']

/-- The numbers of a moment; seconds and their parts stand only where they are not zero. -/
def numbers (moment : Moment) : List Nat :=
  moment.date.numbers ++ [moment.hour, moment.minute] ++
    (if moment.micro ≠ 0 then [moment.second, moment.micro]
      else if moment.second ≠ 0 then [moment.second]
      else [])

/-- The call that makes a moment. -/
def literal (moment : Moment) : Text :=
  let clock :=
    match moment.offset? with
    | some offset => ["tzinfo=".toList ++ clockLiteral offset]
    | none => []
  "datetime.datetime(".toList ++
    Text.commaList (moment.numbers.map Text.ofNat ++ clock) ++ [')']

end Moment

end DeclLinker
