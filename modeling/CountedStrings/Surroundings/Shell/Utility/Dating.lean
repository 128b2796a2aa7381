import CountedStrings.Surroundings.Shell.Real
import CountedStrings.Surroundings.Shell.Utility.Basic

/-!
# Times in words

A text gives a time in pieces that stand in any order: a date, a time of the day, a day of the week,
a zone, and distances from there such as `2 days ago`.

## 1.  Days

A moment is a date and the time of the day; the days are numbered from the first one of 1970.

## 2.  Words

The words that name months, days, zones, units and distances.

## 3.  Tokens

A text is cut into numbers, words and marks. What stands in parentheses is left out, and so is a sign
without a number.

## 4.  Items

Each item says something about the time, and a kind of item says it only once.

## 5.  The time

The parts that were given become a time; the parts that were not are those of the present.
-/

namespace CountedStrings.Shell.Utility

/-! ## 1.  Days -/

/-- A date and the time of the day. -/
structure Moment where
  year : Int
  month : Nat
  day : Nat
  hour : Nat
  minute : Nat
  second : Nat
  millisecond : Nat

/-- The moment of a number of milliseconds. -/
def Moment.ofTime (time : Int) : Moment :=
  let days := time.fdiv 86400000
  let rest := (time - days * 86400000).toNat
  let z := days + 719468
  let era := z.fdiv 146097
  let doe := z - era * 146097
  let yoe := (doe - doe.fdiv 1460 + doe.fdiv 36524 - doe.fdiv 146096).fdiv 365
  let doy := doe - (365 * yoe + yoe.fdiv 4 - yoe.fdiv 100)
  let mp := (5 * doy + 2).fdiv 153
  let day := doy - (153 * mp + 2).fdiv 5 + 1
  let month := if mp < 10 then mp + 3 else mp - 9
  ⟨yoe + era * 400 + (if month ≤ 2 then 1 else 0), month.toNat, day.toNat, rest / 3600000,
    rest / 60000 % 60, rest / 1000 % 60, rest % 1000⟩

/-- The number of days from the first one of 1970 to a day. -/
def dayNumber (year month day : Int) : Int :=
  let y := if month ≤ 2 then year - 1 else year
  let era := y.fdiv 400
  let yoe := y - era * 400
  let m := if month ≤ 2 then month + 9 else month - 3
  let doy := (153 * m + 2).fdiv 5 + day - 1
  let doe := yoe * 365 + yoe.fdiv 4 - yoe.fdiv 100 + doy
  era * 146097 + doe - 719468

/-- The number of a day whose month and whose day may lie beyond the year and beyond the month. -/
def dayBeyond (year month day : Int) : Int :=
  dayNumber (year + (month - 1).fdiv 12) ((month - 1).fmod 12 + 1) 1 + (day - 1)

/-- The names of the days of the week. -/
def weekdayNames : List String :=
  ["Sunday", "Monday", "Tuesday", "Wednesday", "Thursday", "Friday", "Saturday"]

/-- The names of the months. -/
def monthNames : List String :=
  ["January", "February", "March", "April", "May", "June", "July", "August", "September", "October",
    "November", "December"]

/-! ## 2.  Words -/

/-- A unit that distances in time are counted in. -/
inductive TimeUnit where
  | years
  | months
  | days
  | milliseconds

/-- What a word says about a time. -/
inductive TimeWord where
  /-- Which half of the day the hour lies in. -/
  | half (isLate : Bool)
  | month (n : Nat)
  | weekday (n : Nat)
  /-- A zone, in minutes from the zone of reference. -/
  | zone (minutes : Int)
  /-- A zone in summer, with the minutes that it has in winter. -/
  | summerZone (minutes : Int)
  | summer
  /-- A unit, as a number of a plainer one. -/
  | distance (count : Int) (u : TimeUnit)
  /-- A day that lies this many days ahead. -/
  | shift (days : Int)
  | ordinal (n : Int)
  /-- The direction of a distance. -/
  | direction (sign : Int)
  /-- The letter between a date and a time of the day, which names a zone too. -/
  | separator

/-- The zones with a name, and the minutes that they are ahead. -/
def zones : List (String × Int) :=
  [("GMT", 0), ("UT", 0), ("UTC", 0), ("WET", 0), ("ART", -180), ("BRT", -180), ("NST", -210),
    ("AST", -240), ("CLT", -240), ("EST", -300), ("CST", -360), ("MST", -420), ("PST", -480),
    ("AKST", -540), ("HST", -600), ("HAST", -600), ("SST", -720), ("WAT", 60), ("CET", 60),
    ("MET", 60), ("MEZ", 60), ("EET", 120), ("CAT", 120), ("SAST", 120), ("EAT", 180), ("MSK", 180),
    ("IST", 330), ("SGT", 480), ("KST", 540), ("JST", 540), ("GST", 600), ("NZST", 720)]

/-- The zones in summer, and the minutes that they are ahead in winter. -/
def summerZones : List (String × Int) :=
  [("WEST", 0), ("BST", 0), ("BRST", -180), ("NDT", -210), ("ADT", -240), ("CLST", -240),
    ("EDT", -300), ("CDT", -360), ("MDT", -420), ("PDT", -480), ("AKDT", -540), ("HADT", -600),
    ("CEST", 60), ("MEST", 60), ("MESZ", 60), ("EEST", 120), ("MSD", 180), ("NZDT", 720)]

/-- The zone that a word names. -/
def zoneWord? (word : String) : Option TimeWord :=
  ((zones.lookup word).map TimeWord.zone).or ((summerZones.lookup word).map TimeWord.summerZone)

/-- The unit that a word names. -/
def unitWord? : String → Option TimeWord
  | "YEAR" => some (.distance 1 .years)
  | "MONTH" => some (.distance 1 .months)
  | "FORTNIGHT" => some (.distance 14 .days)
  | "WEEK" => some (.distance 7 .days)
  | "DAY" => some (.distance 1 .days)
  | "HOUR" => some (.distance 3600000 .milliseconds)
  | "MINUTE" | "MIN" => some (.distance 60000 .milliseconds)
  | "SECOND" | "SEC" => some (.distance 1000 .milliseconds)
  | _ => none

/-- The distance or the place in a row that a word names. -/
def relativeWord? : String → Option TimeWord
  | "TOMORROW" => some (.shift 1)
  | "YESTERDAY" => some (.shift (-1))
  | "TODAY" | "NOW" => some (.shift 0)
  | "AGO" => some (.direction (-1))
  | "HENCE" => some (.direction 1)
  | "LAST" => some (.ordinal (-1))
  | "THIS" => some (.ordinal 0)
  | "NEXT" | "FIRST" => some (.ordinal 1)
  | word =>
    (["THIRD", "FOURTH", "FIFTH", "SIXTH", "SEVENTH", "EIGHTH", "NINTH", "TENTH", "ELEVENTH",
      "TWELFTH"].findIdx? (· = word)).map fun i => .ordinal (i + 3)

/-- The zone that a single letter names: A to M without J lie ahead, N to Y behind. -/
def letterWord? (c : Char) : Option TimeWord :=
  if c = 'T' then some .separator
  else if c = 'J' || c = 'Z' then some (.zone 0)
  else (("ABCDEFGHIKLM".toList.findIdx? (· = c)).map fun i => TimeWord.zone ((i + 1 : Nat) * 60)).or
    (("NOPQRSTUVWXY".toList.findIdx? (· = c)).map fun i => TimeWord.zone (-((i + 1 : Nat) * 60)))

/-- The month or the day that a word names: in full, by three letters, or by a few more. -/
def calendarWord? (word : String) : Option TimeWord :=
  let isShort := word.length = 3 || (word.length = 4 && word.endsWith ".")
  let names (whole : String) : Bool :=
    if isShort then whole.toUpper.startsWith (String.ofList (word.toList.take 3))
    else whole.toUpper = word
  match word with
  | "SEPT" => some (.month 9)
  | "TUES" => some (.weekday 2)
  | "WEDNES" => some (.weekday 3)
  | "THUR" | "THURS" => some (.weekday 4)
  | _ => ((monthNames.findIdx? names).map fun i => TimeWord.month (i + 1)).or
      ((weekdayNames.findIdx? names).map TimeWord.weekday)

/-- What a word in capitals says. -/
def timeWord? (word : String) : Option TimeWord :=
  if ["AM", "A.M."].contains word then some (.half false)
  else if ["PM", "P.M."].contains word then some (.half true)
  else if word = "DST" then some .summer
  else
    let single := if word.endsWith "S" then (word.dropEnd 1).toString else word
    let letter := match word.toList with
      | [c] => letterWord? c
      | _ => none
    let bare := String.ofList (word.toList.filter (· ≠ '.'))
    [calendarWord? word, zoneWord? word, unitWord? word, unitWord? single, relativeWord? word, letter,
      zoneWord? bare].findSome? id

/-! ## 3.  Tokens -/

/-- A piece of a text that gives a time. -/
inductive TimeToken where
  | plain (value : Nat) (digits : Nat)
  | signed (value : Int) (digits : Nat)
  /-- A number with a fraction, in thousandths. -/
  | plainFraction (thousandths : Int)
  | signedFraction (thousandths : Int)
  | word (w : TimeWord)
  | mark (c : Char)

/-- The number at the front, with what stands behind it. -/
def numberToken (sign : Option Int) (cs : List Char) : TimeToken × List Char :=
  let digits := cs.takeWhile Char.isDigit
  let rest := cs.dropWhile Char.isDigit
  let value := Number.digitsValue 10 digits
  let fraction := match rest with
    | '.' :: rest | ',' :: rest => rest.takeWhile Char.isDigit
    | _ => []
  if Number.largest < value then (.mark '?', rest)
  else if fraction.isEmpty then
    (match sign with
      | none => .plain value digits.length
      | some sign => .signed (sign * value) digits.length, rest)
  else
    let thousandths := value * 1000 + Number.digitsValue 10 ((fraction ++ ['0', '0', '0']).take 3)
    (match sign with
      | none => .plainFraction thousandths
      | some sign => .signedFraction (sign * thousandths), rest.drop (fraction.length + 1))

/-- What stands behind a comment, of which some are open. -/
def afterComment : Nat → List Char → Option (List Char)
  | _, [] => none
  | n, '(' :: cs => afterComment (n + 1) cs
  | 0, ')' :: cs => some cs
  | n + 1, ')' :: cs => if n = 0 then some cs else afterComment n cs
  | n, _ :: cs => afterComment n cs

/-- The tokens of a text. -/
def timeTokens : Nat → List Char → List TimeToken
  | 0, _ => []
  | _ + 1, [] => []
  | budget + 1, c :: cs =>
    if Number.isBlank c then timeTokens budget cs
    else if c.isDigit then
      let (token, rest) := numberToken none (c :: cs)
      token :: timeTokens budget rest
    else if c = '-' || c = '+' then
      let cs := cs.dropWhile Number.isBlank
      if (cs.head?.map Char.isDigit).getD false then
        let (token, rest) := numberToken (some (if c = '-' then -1 else 1)) cs
        token :: timeTokens budget rest
      else timeTokens budget cs
    else if c.isAlpha then
      let isIn (c : Char) : Bool := c.isAlpha || c = '.'
      let word := String.ofList ((c :: cs).takeWhile isIn)
      let token := match timeWord? word.toUpper with
        | some w => .word w
        | none => .mark '?'
      token :: timeTokens budget (cs.dropWhile isIn)
    else if c = '(' then
      match afterComment 1 cs with
      | some rest => timeTokens budget rest
      | none => []
    else .mark c :: timeTokens budget cs

/-! ## 4.  Items -/

/-- What a text has said about a time so far. -/
structure TimeReading where
  year : Int
  /-- How many digits the year was written with; none if it was not written. -/
  yearDigits : Nat := 0
  month : Int
  day : Int
  hour : Int
  minute : Int
  /-- The seconds within the minute, in thousandths. -/
  thousandths : Int
  /-- Which half of the day the hour lies in, if it counts to twelve. -/
  half : Option Bool := none
  /-- The day of the week, and how many of them ahead. -/
  weekday : Option (Int × Nat) := none
  zone : Int := 0
  yearsAhead : Int := 0
  monthsAhead : Int := 0
  daysAhead : Int := 0
  thousandthsAhead : Int := 0
  dates : Nat := 0
  times : Nat := 0
  weekdays : Nat := 0
  zones : Nat := 0
  /-- Whether a distance was given. -/
  isRelative : Bool := false

namespace TimeReading

/-- The reading before anything was said: the present. -/
def ofTime (now : Int) : TimeReading :=
  let m := Moment.ofTime now
  { year := m.year, month := m.month, day := m.day, hour := m.hour, minute := m.minute,
    thousandths := m.second * 1000 + m.millisecond }

/-- Moves the time ahead. -/
def ahead (r : TimeReading) (count : Int) (u : TimeUnit) : TimeReading :=
  let r := { r with isRelative := true }
  match u with
  | .years => { r with yearsAhead := r.yearsAhead + count }
  | .months => { r with monthsAhead := r.monthsAhead + count }
  | .days => { r with daysAhead := r.daysAhead + count }
  | .milliseconds => { r with thousandthsAhead := r.thousandthsAhead + count }

/-- Moves the time by a number of units, in the direction that a word behind it says. -/
def aheadOrBack (r : TimeReading) (count : Int) (u : TimeUnit) :
    List TimeToken → TimeReading × List TimeToken
  | .word (.direction sign) :: rest => (r.ahead (sign * count) u, rest)
  | rest => (r.ahead count u, rest)

/-- Sets the time of the day. -/
def atTime (r : TimeReading) (hour minute thousandths : Int) (half : Option Bool) : TimeReading :=
  { r with hour, minute, thousandths, half, times := r.times + 1 }

/-- Sets the date without its year. -/
def on (r : TimeReading) (month day : Int) : TimeReading :=
  { r with month, day, dates := r.dates + 1 }

/-- Sets the year. -/
def inYear (r : TimeReading) (year : Int) (digits : Nat) : TimeReading :=
  { r with year, yearDigits := digits }

/-- Sets the zone. -/
def inZone (r : TimeReading) (minutes : Int) : TimeReading :=
  { r with zone := minutes, zones := r.zones + 1 }

/-- The minutes of a zone that is written as a number: of hours, of hours and minutes in one, or of
hours with minutes behind a colon. -/
def zoneMinutes? (value : Int) (digits : Nat) (minutes : Option Nat) : Option Int :=
  let total : Int := match minutes with
    | some m => value * 60 + (if value < 0 then -(m : Int) else m)
    | none =>
      let value := if digits ≤ 2 then value * 100 else value
      value.tdiv 100 * 60 + value.tmod 100
  if total.natAbs ≤ 1440 then some total else none

/-- Adds a zone that is written as a number, counted from another one. -/
def zoneItem? (r : TimeReading) (start value : Int) (digits : Nat) :
    List TimeToken → Option (TimeReading × List TimeToken)
  | .mark ':' :: .plain m _ :: rest =>
    (zoneMinutes? value digits (some m)).map fun z => (r.inZone (start + z), rest)
  | .mark ':' :: _ => none
  | rest => (zoneMinutes? value digits none).map fun z => (r.inZone (start + z), rest)

/-- What may stand behind a time of the day: a half of the day, if it is allowed, or a zone. -/
def timeEnd? (r : TimeReading) (hour minute thousandths : Int) (allowsHalf : Bool) :
    List TimeToken → Option (TimeReading × List TimeToken)
  | .word (.half isLate) :: rest =>
    if allowsHalf then some (r.atTime hour minute thousandths (some isLate), rest) else none
  | .signed z digits :: rest => (r.atTime hour minute thousandths none).zoneItem? 0 z digits rest
  | rest => some (r.atTime hour minute thousandths none, rest)

/-- The time of the day behind its hour and a colon. -/
def timeItem? (r : TimeReading) (hour : Int) (allowsHalf : Bool) :
    List TimeToken → Option (TimeReading × List TimeToken)
  | .plain minute _ :: .mark ':' :: .plain second _ :: rest =>
    r.timeEnd? hour minute (second * 1000) allowsHalf rest
  | .plain minute _ :: .mark ':' :: .plainFraction t :: rest =>
    r.timeEnd? hour minute t allowsHalf rest
  | .plain _ _ :: .mark ':' :: _ => none
  | .plain minute _ :: rest => r.timeEnd? hour minute 0 allowsHalf rest
  | _ => none

/-- A number by itself: the year of a date that has none, a date in digits, or a time of the day. -/
def plainNumber (r : TimeReading) (value digits : Nat) : TimeReading :=
  if r.dates ≠ 0 && r.yearDigits = 0 && !r.isRelative && (r.times ≠ 0 || 2 < digits) then
    r.inYear value digits
  else if 4 < digits then
    (r.on (value / 100 % 100 : Nat) (value % 100 : Nat)).inYear (value / 10000 : Nat) (digits - 4)
  else if digits ≤ 2 then r.atTime value 0 0 none
  else r.atTime (value / 100 : Nat) (value % 100 : Nat) 0 none

/-- The item that begins with a number without a sign. -/
def plainItem? (r : TimeReading) (value digits : Nat) :
    List TimeToken → Option (TimeReading × List TimeToken)
  | .word (.half isLate) :: rest => some (r.atTime value 0 0 (some isLate), rest)
  | .mark ':' :: rest => r.timeItem? value true rest
  | .mark '/' :: .plain second _ :: .mark '/' :: .plain third thirdDigits :: rest =>
    if 4 ≤ digits then some ((r.on second third).inYear value digits, rest)
    else some ((r.on value second).inYear third thirdDigits, rest)
  | .mark '/' :: .plain _ _ :: .mark '/' :: _ => none
  | .mark '/' :: .plain second _ :: rest => some (r.on value second, rest)
  | .mark '/' :: _ => none
  | .word (.month month) :: .signed year yearDigits :: rest =>
    some ((r.on month value).inYear (-year) yearDigits, rest)
  | .word (.month month) :: .plain year yearDigits :: rest =>
    some ((r.on month value).inYear year yearDigits, rest)
  | .word (.month month) :: rest => some (r.on month value, rest)
  | .word (.weekday n) :: rest =>
    some ({ r with weekday := some (value, n), weekdays := r.weekdays + 1 }, rest)
  | .word (.distance count u) :: rest => some (r.aheadOrBack (value * count) u rest)
  | .signed month _ :: .signed day _ :: .word .separator :: .plain hour _ :: rest =>
    let r := (r.on (-month) (-day)).inYear value digits
    match rest with
    | .mark ':' :: rest => r.timeItem? hour false rest
    | .signed z zoneDigits :: rest => (r.atTime hour 0 0 none).zoneItem? 0 z zoneDigits rest
    | _ => none
  | .signed _ _ :: .signed _ _ :: .word .separator :: _ => none
  | .signed month _ :: .signed day _ :: rest =>
    some ((r.on (-month) (-day)).inYear value digits, rest)
  | .signed ahead _ :: .word (.distance count u) :: rest =>
    some ((r.plainNumber value digits).ahead (ahead * count) u, rest)
  | .signed z zoneDigits :: rest => (r.atTime value 0 0 none).zoneItem? 0 z zoneDigits rest
  | rest => some (r.plainNumber value digits, rest)

/-- The item that begins with the name of a zone. -/
def namedZoneItem? (r : TimeReading) (minutes : Int) :
    List TimeToken → Option (TimeReading × List TimeToken)
  | .signed ahead _ :: .word (.distance count u) :: rest =>
    some ((r.inZone minutes).ahead (ahead * count) u, rest)
  | .signed z digits :: rest => r.zoneItem? minutes z digits rest
  | .word .summer :: rest => some (r.inZone (minutes + 60), rest)
  | rest => some (r.inZone minutes, rest)

/-- The item that begins with a word. -/
def wordItem? (r : TimeReading) :
    TimeWord → List TimeToken → Option (TimeReading × List TimeToken)
  | .month m, .signed day _ :: .signed year yearDigits :: rest =>
    some ((r.on m (-day)).inYear (-year) yearDigits, rest)
  | .month m, .plain day _ :: .mark ',' :: .plain year yearDigits :: rest =>
    some ((r.on m day).inYear year yearDigits, rest)
  | .month _, .plain _ _ :: .mark ',' :: _ => none
  | .month m, .plain day _ :: rest => some (r.on m day, rest)
  | .weekday n, rest =>
    some ({ r with weekday := some (0, n), weekdays := r.weekdays + 1 },
      match rest with
      | .mark ',' :: rest => rest
      | rest => rest)
  | .ordinal i, .word (.weekday n) :: rest =>
    some ({ r with weekday := some (i, n), weekdays := r.weekdays + 1 }, rest)
  | .ordinal i, .word (.distance count u) :: rest => some (r.aheadOrBack (i * count) u rest)
  | .distance count u, rest => some (r.aheadOrBack count u rest)
  | .shift days, rest => some (r.ahead days .days, rest)
  | .zone minutes, rest => r.namedZoneItem? minutes rest
  | .summerZone minutes, rest => some (r.inZone (minutes + 60), rest)
  | .separator, .signed ahead _ :: .word (.distance count u) :: rest =>
    some ((r.inZone (-420)).ahead (ahead * count) u, rest)
  | .separator, rest => some (r.inZone (-420), rest)
  | _, _ => none

/-- The item at the front, with what stands behind it. -/
def item? (r : TimeReading) : List TimeToken → Option (TimeReading × List TimeToken)
  | .plain value digits :: rest => r.plainItem? value digits rest
  | .signed ahead _ :: .word (.distance count u) :: rest =>
    some (r.aheadOrBack (ahead * count) u rest)
  | .plainFraction t :: .word (.distance 1000 .milliseconds) :: rest =>
    some (r.aheadOrBack t .milliseconds rest)
  | .signedFraction t :: .word (.distance 1000 .milliseconds) :: rest =>
    some (r.aheadOrBack t .milliseconds rest)
  | .word w :: rest => r.wordItem? w rest
  | _ => none

/-- Reads all items. -/
def items? : Nat → TimeReading → List TimeToken → Option TimeReading
  | _, r, [] => some r
  | 0, _, _ => none
  | budget + 1, r, tokens => do
    let (r, rest) ← r.item? tokens
    items? budget r rest

/-! ## 5.  The time -/

/-- The year, of which two digits lie between 1969 and 2068. -/
def wholeYear (r : TimeReading) : Int :=
  if r.yearDigits = 2 && 0 ≤ r.year then r.year + (if r.year < 69 then 2000 else 1900) else r.year

/-- The hour among those of the whole day, if there is such an hour. -/
def wholeHour? (r : TimeReading) : Option Int :=
  match r.half with
  | none => if 0 ≤ r.hour && r.hour < 24 then some r.hour else none
  | some isLate =>
    if 1 ≤ r.hour && r.hour ≤ 12 then some (r.hour % 12 + if isLate then 12 else 0) else none

/-- The time of the day in thousandths of seconds. A text that gives a date or a day of the week and
no time means the start of the day. -/
def timeOfDay? (r : TimeReading) : Option Int := do
  if r.times ≠ 0 || (r.isRelative && r.dates = 0 && r.weekdays = 0) then
    let hour ← r.wholeHour?
    if 0 ≤ r.minute && r.minute < 60 && r.thousandths < 60000 then
      some ((hour * 60 + r.minute) * 60000 + r.thousandths)
    else none
  else some 0

/-- The number of the day, if the date is one of the calendar. -/
def dayOf? (r : TimeReading) : Option Int :=
  let year := r.wholeYear
  let next := dayBeyond year (r.month + 1) 1
  let number := dayBeyond year r.month r.day
  let isDay := 1 ≤ r.month && r.month ≤ 12 && 1 ≤ r.day && number < next
  if isDay && (year - 1900).natAbs < 2147483648 then some number else none

/-- The number of days to the day of the week that was named. -/
def daysToWeekday (r : TimeReading) (day : Int) : Int :=
  match r.weekday with
  | none => 0
  | some (ordinal, n) =>
    let today := (day + 4).fmod 7
    if r.dates ≠ 0 then 0
    else ((n : Int) - today + 7).fmod 7 +
      7 * (ordinal - if 0 < ordinal && today ≠ (n : Int) then 1 else 0)

/-- The time in milliseconds, if what was said fits together. -/
def time? (r : TimeReading) : Option Int := do
  if [r.dates, r.times, r.weekdays, r.zones].any (1 < ·) then none
  let timeOfDay ← r.timeOfDay?
  let start ← r.dayOf?
  let start := start + r.daysToWeekday start
  let m := Moment.ofTime (start * 86400000)
  let day := dayBeyond (m.year + r.yearsAhead) (m.month + r.monthsAhead) (m.day + r.daysAhead)
  let ahead := r.thousandthsAhead - (if r.zones = 0 then 0 else r.zone * 60000)
  some (day * 86400000 + timeOfDay + ahead)

end TimeReading

/-- What stands behind the name of a zone in front of a text. -/
def afterZoneName (text : List Char) : List Char :=
  if ['T', 'Z', '=', '"'].isPrefixOf text then
    match (text.drop 4).dropWhile (· ≠ '"') with
    | _ :: rest => rest
    | [] => text
  else text

/-- The time that a text is, given the time now. A text of nothing is the start of the day. -/
def readTime (now : Int) (text : String) : Option Int :=
  let cs := afterZoneName (text.toList.dropWhile Number.isBlank)
  let tokens := timeTokens (cs.length + 1) cs
  match if cs.all Number.isBlank then [.plain 0 1] else tokens with
  | [.mark '@', .plain n _] => some (n * 1000)
  | [.mark '@', .signed n _] => some (n * 1000)
  | [.mark '@', .plainFraction n] | [.mark '@', .signedFraction n] => some n
  | tokens => (TimeReading.items? (tokens.length + 1) (.ofTime now) tokens).bind TimeReading.time?

/-- A time in milliseconds, if its parts are those of a date. -/
def timeOf (year month day hour minute second : Nat) : Option Int :=
  let isDay := 1 ≤ month && month ≤ 12 && 1 ≤ day &&
    dayBeyond year month day < dayBeyond year (month + 1) 1
  if isDay && hour ≤ 23 && minute ≤ 59 && second ≤ 60 then
    some (((dayNumber year month day * 24 + hour) * 60 + minute) * 60000 + second * 1000)
  else none

/-- The time that digits stand for: a month, a day, an hour and a minute, with a year in front and
seconds behind a point if they are given. -/
def readStamp (now : Int) (text : String) : Option Int :=
  let (digits, seconds) := match text.splitOn "." with
    | [a, b] => (a, Number.ofDigits? b)
    | _ => (text, some 0)
  let cs := digits.toList
  let year (two : Nat) : Nat := if two < 69 then 2000 + two else 1900 + two
  let thisYear := (Moment.ofTime now).year.toNat
  let front : Option (Nat × List Char) := match cs.length with
    | 8 => some (thisYear, cs)
    | 10 => some (year (Number.digitsValue 10 (cs.take 2)), cs.drop 2)
    | 12 => some (Number.digitsValue 10 (cs.take 4), cs.drop 4)
    | _ => none
  match front, seconds with
  | some (year, cs), some second =>
    let two (i : Nat) : Nat := Number.digitsValue 10 ((cs.drop i).take 2)
    if digits.all Char.isDigit then timeOf year (two 0) (two 2) (two 4) (two 6) second else none
  | _, _ => none

end CountedStrings.Shell.Utility
