import Stylebook.Text.Digits
import Stylebook.Text.Lines

/-!
# Dates and moments

Days of the calendar, and times of day on them, with or without the distance of their zone from the
meridian. They are written as year, month and day, and hour, minute and second, perhaps with a
fraction and a zone; a text that has this form may still name no day or time that there is.
-/

namespace Stylebook

open Text

/-- A day of the calendar. -/
structure Date where
  year : Nat
  month : Nat
  day : Nat
  deriving DecidableEq, Repr

/-- A time on a day. -/
structure Moment where
  date : Date
  hour : Nat
  minute : Nat
  second : Nat
  microsecond : Nat
  /-- The minutes that the zone is ahead of the meridian, if the zone is known. -/
  zone : Option Int
  deriving DecidableEq, Repr

/-- Why numbers name no moment. -/
inductive Moment.Fault where
  | year (n : Nat)
  | month
  | day
  | hour
  | minute
  | second
  /-- A zone a whole day or more away from the meridian, in minutes. -/
  | zone (minutes : Int)
  deriving DecidableEq, Repr

/-- A span of minutes in messages, as days and seconds. -/
def Moment.shownSpan (minutes : Int) : String :=
  let days := minutes.fdiv 1440
  let seconds := 60 * minutes.fmod 1440
  "datetime.timedelta(" ++ String.intercalate ", "
    ((if days = 0 then [] else ["days=" ++ intText days])
      ++ (if seconds = 0 then [] else ["seconds=" ++ intText seconds])) ++ ")"

/-- The wording of a fault. -/
def Moment.Fault.message : Moment.Fault → String
  | .year n => "year " ++ natText n ++ " is out of range"
  | .month => "month must be in 1..12"
  | .day => "day is out of range for month"
  | .hour => "hour must be in 0..23"
  | .minute => "minute must be in 0..59"
  | .second => "second must be in 0..59"
  | .zone minutes =>
    "offset must be a timedelta strictly between -timedelta(hours=24) and timedelta(hours=24), not "
      ++ Moment.shownSpan minutes ++ "."

/-! ### The calendar -/

namespace Date

/-- Whether a year has a leap day. -/
def isLeap (year : Nat) : Bool :=
  year % 4 == 0 && (year % 100 != 0 || year % 400 == 0)

/-- The days of a month. -/
def monthLength (year month : Nat) : Nat :=
  if month == 2 then (if isLeap year then 29 else 28)
  else if [4, 6, 9, 11].contains month then 30
  else 31

/-- Whether there is such a day. -/
def check (d : Date) : Except Moment.Fault Date :=
  if d.year == 0 then .error (.year d.year)
  else if d.month == 0 || d.month > 12 then .error .month
  else if d.day == 0 || d.day > monthLength d.year d.month then .error .day
  else .ok d

/-- The number of days from the first day of the first year. -/
def dayNumber (d : Date) : Nat :=
  let y := d.year - 1
  let months := (List.range (d.month - 1)).map fun m => monthLength d.year (m + 1)
  365 * y + y / 4 - y / 100 + y / 400 + months.foldr (· + ·) 0 + d.day

/-- A number with zeros in front. -/
def padded (width n : Nat) : String :=
  let digits := Nat.toDigits 10 n
  String.ofList (List.replicate (width - digits.length) '0' ++ digits)

/-- The text of a day. -/
def text (d : Date) : String :=
  padded 4 d.year ++ "-" ++ padded 2 d.month ++ "-" ++ padded 2 d.day

/-- A day as a part of another value in a message. -/
def shown (d : Date) : String :=
  "datetime.date(" ++ String.intercalate ", " ([d.year, d.month, d.day].map natText) ++ ")"

end Date

namespace Moment

/-- Whether there is such a moment. The zone is looked at first. -/
def check (m : Moment) : Except Fault Moment :=
  let far := m.zone.filter fun minutes => minutes.natAbs ≥ 1440
  match far, m.date.check with
  | some minutes, _ => .error (.zone minutes)
  | none, .error e => .error e
  | none, .ok _ =>
    if m.hour > 23 then .error .hour
    else if m.minute > 59 then .error .minute
    else if m.second > 59 then .error .second
    else .ok m

/-- The minute of a moment, counted from the first year, as its own zone has it. -/
def minuteNumber (m : Moment) : Int :=
  (m.date.dayNumber * 24 + m.hour) * 60 + m.minute

/-- Whether two moments are the same. Those whose zones are known are compared at the meridian; they
are never the same as one whose zone is not known. -/
def same (a b : Moment) : Bool :=
  a.second == b.second && a.microsecond == b.microsecond &&
    match a.zone, b.zone with
    | none, none => a.minuteNumber == b.minuteNumber
    | some y, some z => a.minuteNumber - y == b.minuteNumber - z
    | _, _ => false

/-- The text of a zone. -/
def zoneText (minutes : Int) : String :=
  (if minutes < 0 then "-" else "+") ++ Date.padded 2 (minutes.natAbs / 60) ++ ":"
    ++ Date.padded 2 (minutes.natAbs % 60)

/-- The text of a moment. -/
def text (m : Moment) : String :=
  m.date.text ++ " " ++ Date.padded 2 m.hour ++ ":" ++ Date.padded 2 m.minute ++ ":"
    ++ Date.padded 2 m.second
    ++ (if m.microsecond = 0 then "" else "." ++ Date.padded 6 m.microsecond)
    ++ m.zone.elim "" zoneText

/-- A zone as a part of a moment in a message. -/
def shownZone (minutes : Int) : String :=
  if minutes = 0 then "datetime.timezone.utc"
  else "datetime.timezone(" ++ shownSpan minutes ++ ")"

/-- A moment as a part of another value in a message. Seconds and their fraction are left out where
they are zero. -/
def shown (m : Moment) : String :=
  let time := if m.microsecond != 0 then [m.second, m.microsecond]
    else if m.second != 0 then [m.second]
    else []
  let numbers := [m.date.year, m.date.month, m.date.day, m.hour, m.minute] ++ time
  "datetime.datetime(" ++ String.intercalate ", "
    (numbers.map natText ++ (m.zone.map fun z => "tzinfo=" ++ shownZone z).toList) ++ ")"

/-! ### Reading -/

/-- A day or a moment as it is written. -/
structure Written where
  /-- The digits of year, month and day. -/
  date : List Char × List Char × List Char
  /-- The digits of hour, minute, second and fraction, with the zone in minutes. -/
  time : Option (List Char × List Char × List Char × List Char × Option Int)

/-- Reads `least` to `most` digits. -/
def readDigits (least most : Nat) (s : List Char) : Option (List Char × List Char) :=
  let digits := (s.take most).takeWhile isAsciiDigit
  if digits.length < least then none else some (digits, s.drop digits.length)

/-- Reads one given character. -/
def readMark (mark : Char) : List Char → Option (List Char)
  | c :: s => if c == mark then some s else none
  | [] => none

/-- Reads an hour and perhaps minutes of a zone to the end of the text, in minutes. -/
def readOffset (s : List Char) : Option Int := do
  let (h, r) ← readDigits 1 2 s
  match r with
  | [] => return 60 * asciiNumber h
  | _ =>
    let (m, r) ← readDigits 2 2 (← readMark ':' r)
    if r.isEmpty then return 60 * asciiNumber h + asciiNumber m else none

/-- Reads a zone to the end of the text: nothing, or blanks and a `Z` or a distance from it. -/
def readZone (s : List Char) : Option (Option Int) :=
  if s.isEmpty then some none
  else
    match s.dropWhile isSpaceOrTab with
    | ['Z'] => some (some 0)
    | '+' :: r => (readOffset r).map some
    | '-' :: r => (readOffset r).map fun minutes => some (-minutes)
    | _ => none

/-- Reads a time of day to the end of the text. -/
def readTime (s : List Char) :
    Option (List Char × List Char × List Char × List Char × Option Int) := do
  let (h, r) ← readDigits 1 2 s
  let (m, r) ← readDigits 2 2 (← readMark ':' r)
  let (sec, r) ← readDigits 2 2 (← readMark ':' r)
  let (fraction, r) := match r with
    | '.' :: t => (t.takeWhile isAsciiDigit, t.dropWhile isAsciiDigit)
    | t => ([], t)
  return (h, m, sec, fraction, ← readZone r)

/-- Reads a day or a moment. A `T` or blanks stand between day and time. -/
def Written.read? (s : List Char) : Option Written := do
  let (y, r) ← readDigits 4 4 s
  let (m, r) ← readDigits 1 2 (← readMark '-' r)
  let (d, r) ← readDigits 1 2 (← readMark '-' r)
  match r with
  | [] => return ⟨(y, m, d), none⟩
  | c :: r =>
    if c == 'T' || c == 't' then return ⟨(y, m, d), some (← readTime r)⟩
    else if isSpaceOrTab c then
      return ⟨(y, m, d), some (← readTime (r.dropWhile isSpaceOrTab))⟩
    else none

/-- The microseconds of a fraction; what is finer is cut off. -/
def microseconds (fraction : List Char) : Nat :=
  let digits := fraction.take 6
  asciiNumber (digits ++ List.replicate (6 - digits.length) '0')

/-- The day that is written. -/
def Written.day (w : Written) : Date :=
  ⟨asciiNumber w.date.1, asciiNumber w.date.2.1, asciiNumber w.date.2.2⟩

/-- The moment that is written, if there is a time of day. -/
def Written.moment? (w : Written) : Option Moment :=
  w.time.map fun (h, m, s, fraction, zone) =>
    ⟨w.day, asciiNumber h, asciiNumber m, asciiNumber s, microseconds fraction, zone⟩

end Moment

end Stylebook
