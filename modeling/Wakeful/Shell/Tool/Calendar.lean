import Wakeful.Shell.Tool.Text

/-! A program that tells times by the calendar. -/

namespace Wakeful.Shell.Tool

/-- A time of a day in the calendar. -/
structure CalendarTime where
  /-- The year. -/
  year : Int
  /-- The month, from one on. -/
  month : Nat
  /-- The day of the month, from one on. -/
  day : Nat
  /-- The hour. -/
  hour : Nat
  /-- The minute. -/
  minute : Nat
  /-- The second. -/
  second : Nat
  deriving DecidableEq, Repr

namespace CalendarTime

/-- The days between a day and the first of January 1970. -/
def daysTo (year : Int) (month day : Nat) : Int :=
  -- Years are counted from March on, so that a leap day comes last.
  let shifted := if month ≤ 2 then year - 1 else year
  let era := shifted.fdiv 400
  let yearOfEra := shifted - era * 400
  let monthFromMarch : Int := (month + 9) % 12
  let dayOfYear := (153 * monthFromMarch + 2) / 5 + day - 1
  era * 146097 + yearOfEra * 365 + yearOfEra / 4 - yearOfEra / 100 + dayOfYear - 719468

/-- The day that lies so many days after the first of January 1970. -/
def ofDays (days : Int) : Int × Nat × Nat :=
  -- This undoes the counting of days.
  let shifted := days + 719468
  let era := shifted.fdiv 146097
  let dayOfEra := shifted - era * 146097
  let yearOfEra := (dayOfEra - dayOfEra / 1460 + dayOfEra / 36524 - dayOfEra / 146096) / 365
  let dayOfYear := dayOfEra - (365 * yearOfEra + yearOfEra / 4 - yearOfEra / 100)
  let monthFromMarch := (5 * dayOfYear + 2) / 153
  let day := dayOfYear - (153 * monthFromMarch + 2) / 5 + 1
  let month := if monthFromMarch < 10 then monthFromMarch + 3 else monthFromMarch - 9
  (yearOfEra + era * 400 + if month ≤ 2 then 1 else 0, month.toNat, day.toNat)

/-- The time so many seconds after the beginning of 1970. -/
def ofSeconds (seconds : Int) : CalendarTime :=
  -- All days have the same length.
  let days := seconds.fdiv 86400
  let rest := (seconds - days * 86400).toNat
  let (year, month, day) := ofDays days
  ⟨year, month, day, rest / 3600, rest / 60 % 60, rest % 60⟩

/-- The days since the beginning of 1970. -/
def days (time : CalendarTime) : Int := daysTo time.year time.month time.day

/-- The seconds since the beginning of 1970. -/
def seconds (time : CalendarTime) : Int :=
  -- All days have the same length.
  time.days * 86400 + time.hour * 3600 + time.minute * 60 + time.second

/-- The day of the week, where Sunday is the first one. -/
def weekday (time : CalendarTime) : Nat := ((time.days + 4) % 7).toNat

/-- The day of the year, from one on. -/
def dayOfYear (time : CalendarTime) : Nat := (time.days - daysTo time.year 1 1 + 1).toNat

/--
The number of the week and its year, where a week belongs to the year in which its Thursday lies.
-/
def week (time : CalendarTime) : Int × Nat :=
  -- The Thursday of the same week is looked at.
  let thursday := time.days - ((time.weekday + 6) % 7 : Nat) + 3
  let (year, _, _) := ofDays thursday
  (year, ((thursday - daysTo year 1 1) / 7 + 1).toNat)

/-- The names of the days of the week. -/
def weekdays : List String :=
  ["Sunday", "Monday", "Tuesday", "Wednesday", "Thursday", "Friday", "Saturday"]

/-- The names of the months. -/
def months : List String :=
  ["January", "February", "March", "April", "May", "June", "July", "August", "September", "October",
    "November", "December"]

/-- A number with noughts or blanks before it. -/
def filled (sign : Char) (width : Nat) (value : Int) : Letters :=
  -- A longer number stays as it is.
  let digits := digitsOf value
  List.replicate (width - digits.length) sign ++ digits

/-- What a letter of a format stands for. -/
def field (time : CalendarTime) : Char → Option Letters
  -- Letters without a meaning are left as they are.
  | 'Y' => some (digitsOf time.year)
  | 'C' => some (filled '0' 2 (time.year.fdiv 100))
  | 'y' => some (filled '0' 2 (time.year % 100))
  | 'm' => some (filled '0' 2 time.month)
  | 'd' => some (filled '0' 2 time.day)
  | 'e' => some (filled ' ' 2 time.day)
  | 'H' => some (filled '0' 2 time.hour)
  | 'k' => some (filled ' ' 2 time.hour)
  | 'I' => some (filled '0' 2 ((time.hour + 11) % 12 + 1 : Nat))
  | 'l' => some (filled ' ' 2 ((time.hour + 11) % 12 + 1 : Nat))
  | 'M' => some (filled '0' 2 time.minute)
  | 'S' => some (filled '0' 2 time.second)
  | 'N' => some (List.replicate 9 '0')
  | 'p' => some (if time.hour < 12 then "AM" else "PM").toList
  | 'P' => some (if time.hour < 12 then "am" else "pm").toList
  | 's' => some (digitsOf time.seconds)
  | 'j' => some (filled '0' 3 time.dayOfYear)
  | 'u' => some (digitsOf (if time.weekday = 0 then 7 else time.weekday : Nat))
  | 'w' => some (digitsOf (time.weekday : Nat))
  | 'a' => some ((weekdays.getD time.weekday "").toList.take 3)
  | 'A' => some (weekdays.getD time.weekday "").toList
  | 'b' | 'h' => some ((months.getD (time.month - 1) "").toList.take 3)
  | 'B' => some (months.getD (time.month - 1) "").toList
  | 'G' => some (digitsOf time.week.1)
  | 'g' => some (filled '0' 2 (time.week.1 % 100))
  | 'V' => some (filled '0' 2 time.week.2)
  | 'U' => some (filled '0' 2 ((time.dayOfYear + 6 - time.weekday) / 7 : Nat))
  | 'W' => some (filled '0' 2 ((time.dayOfYear + 6 - (time.weekday + 6) % 7) / 7 : Nat))
  | 'q' => some (digitsOf ((time.month - 1) / 3 + 1 : Nat))
  | 'Z' => some "UTC".toList
  | 'z' => some "+0000".toList
  | 'n' => some ['\n']
  | 't' => some ['\t']
  | '%' => some ['%']
  | _ => none

/-- The format that another letter of a format stands for. -/
def longer : Char → Option String
  | 'F' => some "%Y-%m-%d"
  | 'T' | 'X' => some "%H:%M:%S"
  | 'D' | 'x' => some "%m/%d/%y"
  | 'R' => some "%H:%M"
  | 'r' => some "%I:%M:%S %p"
  | 'c' => some "%a %b %e %H:%M:%S %Y"
  | _ => none

/-- A time in a format. -/
def write (time : CalendarTime) : (fuel : Nat) → Letters → Letters
  -- A sign can keep numbers from being filled up.
  | 0, _ => []
  | _ + 1, [] => []
  | fuel + 1, '%' :: '-' :: letter :: rest =>
    let text := (time.field letter).getD ['%', '-', letter]
    let short := text.dropWhile fun sign => sign = '0' || sign = ' '
    (if short.isEmpty then text.take 1
      else if text.all Char.isDigit || text.head? = some ' ' then short else text)
      ++ write time fuel rest
  | fuel + 1, '%' :: letter :: rest =>
    match longer letter with
    | some format => write time fuel (format.toList ++ rest)
    | none => (time.field letter).getD ['%', letter] ++ write time fuel rest
  | fuel + 1, letter :: rest => letter :: write time fuel rest

/-- The numbers between separators. -/
def numbers (separator : Char) (letters : Letters) : Option (List Nat) :=
  (pieces separator letters).mapM number?

/-- The time that a text describes. -/
def read (letters : Letters) : Option CalendarTime := do
  -- Seconds have a sign before them, and otherwise a day comes before a time.
  match letters with
  | '@' :: digits => return ofSeconds (← integer? digits)
  | _ =>
    let words :=
      (pieces ' ' (letters.map fun letter => if letter = 'T' then ' ' else letter)).filter
      fun word => !word.isEmpty && word ≠ "UTC".toList && word ≠ ['Z']
    let words := words.map fun word => if word.getLast? = some 'Z' then word.dropLast else word
    let (date, time) ← match words with
      | [date] => some (date, "0:0:0".toList)
      | [date, time] => some (date, time)
      | _ => none
    let (year, month, day) ← match ← numbers '-' date with
      | [year, month, day] => some (year, month, day)
      | _ => none
    let (hour, minute, second) ← match ← numbers ':' time with
      | [hour, minute] => some (hour, minute, 0)
      | [hour, minute, second] => some (hour, minute, second)
      | _ => none
    let isDay := ofDays (daysTo year month day) = ((year : Int), month, day)
    if isDay && hour < 24 && minute < 60 && second < 61 then
      return ⟨year, month, day, hour, minute, second⟩
    else
      none

end CalendarTime

/-- Tells a time. -/
def date : Task → Result :=
  -- A format comes after a sign, and a time that is not told is the beginning of 1970.
  withChoices ⟨"uIR", "drs", [("date", 'd'), ("utc", 'u'), ("universal", 'u'), ("rfc-email", 'R')],
    true⟩ 1 fun task choices =>
    let time := match choices.value? 'd' with
      | some text => CalendarTime.read text
      | none => some (CalendarTime.ofSeconds 0)
    let format := if choices.has 'R' then "%a, %d %b %Y %H:%M:%S %z"
      else if choices.has 'I' then "%F" else "%a %b %e %H:%M:%S %Z %Y"
    match time, choices.operands with
    | none, _ => task.failing 1 ("invalid date '".toList ++ (choices.value? 'd').getD [] ++ ['\''])
    | some time, [] => task.saying 0 (time.write (8 * format.length + 8) format.toList ++ ['\n'])
    | some time, ['+' :: format] =>
      task.saying 0 (time.write (32 * format.length + 32) format ++ ['\n'])
    | some _, [other] => task.failing 1 ("invalid date '".toList ++ other ++ ['\''])
    | some _, _ :: other :: _ => task.misused 1 ("extra operand '".toList ++ other ++ ['\''])

end Wakeful.Shell.Tool
