import DeclLinker.Value.Scalar
import DeclLinker.Yaml.Fault

/-!
# Days and moments in documents

A day is written by its year, month and number with dashes between them; a time of the day may
follow, and behind that the offset of its clock, or the letter for the common clock.
-/

namespace DeclLinker.Yaml.Timestamp

/-- Up to some digits at the start of a text, but at least some, and what follows them. -/
def number? (least most : Nat) (text : Text) : Option (Text × Text) :=
  let digits := (text.takeWhile Char.isDigit).take most
  if digits.length < least then none else some (digits, text.drop digits.length)

/-- What follows a character at the start of a text. -/
def past? (char : Char) : Text → Option Text
  | first :: rest => if first = char then some rest else none
  | [] => none

/-- Whether a character may fill the space inside a moment. -/
def isFill (char : Char) : Bool :=
  char == ' ' || char == '\t'

/-- The offset of a clock in minutes, at the end of a text. -/
def offset? : Text → Option Int
  | [] => none
  | ['Z'] => some 0
  | sign :: rest =>
      if sign = '+' ∨ sign = '-' then do
        let (hours, rest) ← number? 1 2 rest
        let minutes ←
          if rest.isEmpty then
            some 0
          else do
            let (minutes, rest) ← number? 2 2 (← past? ':' rest)
            if rest.isEmpty then some (Text.digitsToNat minutes) else none
        let size : Int := Text.digitsToNat hours * 60 + minutes
        pure (if sign = '-' then -size else size)
      else
        none

/-- A time of the day: hour, minute, second, millionths of a second, and the offset of its clock. -/
structure Clock where
  hour : Nat
  minute : Nat
  second : Nat
  micro : Nat
  offset? : Option Int

/-- The digits behind the point of a second, if there is one, and what follows them. -/
def fraction : Text → Text × Text
  | '.' :: rest => (rest.takeWhile Char.isDigit, rest.dropWhile Char.isDigit)
  | text => ([], text)

/-- A time of the day at the end of a text. -/
def clock? (text : Text) : Option Clock := do
  let (hour, rest) ← number? 1 2 text
  let (minute, rest) ← number? 2 2 (← past? ':' rest)
  let (second, rest) ← number? 2 2 (← past? ':' rest)
  let (digits, rest) := fraction rest
  let micro := digits.take 6 ++ List.replicate (6 - digits.length) '0'
  let clock (offset? : Option Int) : Clock :=
    ⟨Text.digitsToNat hour, Text.digitsToNat minute, Text.digitsToNat second,
      Text.digitsToNat micro, offset?⟩
  if rest.isEmpty then
    pure (clock none)
  else do
    let offset ← offset? (rest.dropWhile isFill)
    pure (clock (some offset))

/-- A day with its digits as they are written, and a time of that day. -/
structure Parts where
  year : Text
  month : Text
  day : Text
  clock? : Option Clock

/-- What follows the mark or the space between a day and a time. -/
def pastGap? : Text → Option Text
  | char :: rest =>
      if char = 'T' ∨ char = 't' then some rest
      else if isFill char then some (rest.dropWhile isFill)
      else none
  | [] => none

/-- The parts of a text that is a day or a moment. -/
def parts? (text : Text) : Option Parts := do
  let (year, rest) ← number? 4 4 text
  let (month, rest) ← number? 1 2 (← past? '-' rest)
  let (day, rest) ← number? 1 2 (← past? '-' rest)
  if rest.isEmpty then
    pure ⟨year, month, day, none⟩
  else do
    let clock ← clock? (← pastGap? rest)
    pure ⟨year, month, day, some clock⟩

/-- Whether a text is a day or a moment by its spelling alone: a day then has all its digits. -/
def isSpelled (text : Text) : Bool :=
  match parts? text with
  | some parts => parts.clock?.isSome || (parts.month.length == 2 && parts.day.length == 2)
  | none => false

/-- The day or moment that parts stand for. -/
def Parts.make (parts : Parts) : Except CalendarFault Scalar :=
  let year := Text.digitsToNat parts.year
  let month := Text.digitsToNat parts.month
  let day := Text.digitsToNat parts.day
  match parts.clock? with
  | none => (Date.make year month day).map .date
  | some clock =>
      (Moment.make year month day clock.hour clock.minute clock.second clock.micro
        clock.offset?).map .moment

/-- The day or moment that a text stands for. -/
def read (text : Text) : Read Scalar :=
  match parts? text with
  | none => .error .notDate
  | some parts => parts.make.mapError .calendar

end DeclLinker.Yaml.Timestamp
