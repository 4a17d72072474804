import Stencil.Decimal.Layout
import Stencil.Text.Reader

/-!
# Dates and times

Calendar dates, times of day and offsets as TOML documents write them, and the one form in which
they are written again: a `T` between date and time, a fraction of at most nine digits without
zeros at its end, and an offset in hours and minutes.
-/

namespace Stencil.Toml

structure Date where
  year : Nat
  month : Nat
  day : Nat
deriving DecidableEq, Repr

structure Time where
  hour : Nat
  minute : Nat
  second : Nat
  nanosecond : Nat
deriving DecidableEq, Repr

inductive Offset where
  | zulu
  | minutes (ahead : Int)
deriving DecidableEq, Repr

/-- A date, a time, or both; an offset only with both. -/
inductive Moment where
  | date (day : Date)
  | time (clock : Time)
  | dateTime (day : Date) (clock : Time) (offset : Option Offset)
deriving DecidableEq, Repr

def isLeapYear (year : Nat) : Bool :=
  year % 4 = 0 && (year % 100 ≠ 0 || year % 400 = 0)

def daysInMonth (year month : Nat) : Nat :=
  if month = 2 then if isLeapYear year then 29 else 28
  else if month = 4 || month = 6 || month = 9 || month = 11 then 30
  else 31

/-! ## Writing -/

/-- The digits of a number after as many zeros as it takes to make `width` of them. -/
def padded (width n : Nat) : List Char :=
  let digits := naturalDigits n
  List.replicate (width - digits.length) '0' ++ digits

namespace Date

def write (date : Date) : List Char :=
  padded 4 date.year ++ '-' :: padded 2 date.month ++ '-' :: padded 2 date.day

end Date

namespace Time

def write (time : Time) : List Char :=
  let fraction :=
    if time.nanosecond = 0 then []
    else '.' :: ((padded 9 time.nanosecond).reverse.dropWhile (· = '0')).reverse
  padded 2 time.hour ++ ':' :: padded 2 time.minute ++ ':' :: padded 2 time.second ++ fraction

end Time

namespace Offset

/-- `Z`, or a sign, hours and minutes. -/
def write : Offset → List Char
  | .zulu => ['Z']
  | .minutes ahead =>
    let sign := if ahead < 0 then '-' else '+'
    sign :: padded 2 (ahead.natAbs / 60) ++ ':' :: padded 2 (ahead.natAbs % 60)

end Offset

namespace Moment

def write : Moment → List Char
  | .date day => day.write
  | .time clock => clock.write
  | .dateTime day clock offset =>
    day.write ++ 'T' :: clock.write ++ (offset.map Offset.write).getD []

end Moment

/-! ## Reading -/

/-- A number of exactly `width` digits. -/
def readFixed (width : Nat) : Reader Nat := fun text =>
  let digits := text.take width
  if digits.length = width && digits.all Char.isDigit then
    some (Nat.ofDigitChars 10 digits 0, text.drop width)
  else none

def readChar (c : Char) (text : List Char) : Option (List Char) :=
  match text with
  | d :: rest => if c = d then some rest else none
  | [] => none

def readDate (text : List Char) : Option (Date × List Char) := do
  let (year, text) ← readFixed 4 text
  let text ← readChar '-' text
  let (month, text) ← readFixed 2 text
  let text ← readChar '-' text
  let (day, text) ← readFixed 2 text
  if 1 ≤ month && month ≤ 12 && 1 ≤ day && day ≤ daysInMonth year month then
    return (⟨year, month, day⟩, text)
  else none

/-- The nanoseconds of a fraction, of which no more than nine digits count. -/
def nanoseconds (digits : List Char) : Nat :=
  let digits := digits.take 9
  Nat.ofDigitChars 10 digits 0 * Nat.pow 10 (9 - digits.length)

/-- A point and digits, if they are there. -/
def readNanoseconds (text : List Char) : Nat × List Char :=
  match text with
  | '.' :: rest =>
    match spanDigits rest with
    | ([], _) => (0, text)
    | (digits, rest) => (nanoseconds digits, rest)
  | _ => (0, text)

/-- A time of day; the last minute may have a leap second. -/
def readTime (text : List Char) : Option (Time × List Char) := do
  let (hour, text) ← readFixed 2 text
  let text ← readChar ':' text
  let (minute, text) ← readFixed 2 text
  let text ← readChar ':' text
  let (second, text) ← readFixed 2 text
  let (nanosecond, text) := readNanoseconds text
  if hour ≤ 23 && minute ≤ 59 && second ≤ 60 then
    return (⟨hour, minute, second, nanosecond⟩, text)
  else none

def readOffset : Reader Offset
  | c :: rest =>
    if c = 'Z' || c = 'z' then some (.zulu, rest)
    else if c = '+' || c = '-' then do
      let (hours, rest) ← readFixed 2 rest
      let rest ← readChar ':' rest
      let (minutes, rest) ← readFixed 2 rest
      let ahead : Int := hours * 60 + minutes
      if hours ≤ 23 && minutes ≤ 59 then
        return (.minutes (if c = '-' then -ahead else ahead), rest)
      else none
    else none
  | [] => none

/-- What may follow a date: a separator and a time, and perhaps an offset. -/
def readTimeAfterDate : Reader (Time × Option Offset)
  | c :: rest =>
    if c = 'T' || c = 't' || c = ' ' then
      match readTime rest with
      | none => none
      | some (time, rest) =>
        match readOffset rest with
        | some (offset, rest) => some ((time, some offset), rest)
        | none => some ((time, none), rest)
    else none
  | [] => none

def readMoment : Reader Moment := fun text =>
  match readDate text with
  | some (date, rest) =>
    match readTimeAfterDate rest with
    | some ((time, offset), rest) => some (.dateTime date time offset, rest)
    | none => some (.date date, rest)
  | none => (readTime text).map fun (time, rest) => (.time time, rest)

def Moment.parse? (text : List Char) : Option Moment :=
  match readMoment text with
  | some (moment, []) => some moment
  | _ => none

end Stencil.Toml
