import CountedStrings.Surroundings.Shell.Utility.Facts

/-!
# The calendar

## 1.  Days

The day of the week and of the year of a moment, and the weeks that belong to a year: a week belongs
to the year that its Thursday lies in.

## 2.  Moments in a format

A percent sign introduces a part of a moment, with flags and a width in front of its letter.

## 3.  Printing moments

`date` prints a moment that its arguments give, or the moment now.
-/

namespace CountedStrings.Shell.Utility

/-! ## 1.  Days -/

namespace Moment

/-- The number of the day among all days. -/
def days (m : Moment) : Int := dayNumber m.year m.month m.day

/-- The day of the week, with 0 for Sunday. -/
def weekday (m : Moment) : Nat := ((m.days + 4) % 7).toNat

/-- The day of the year, from 0. -/
def yearDay (m : Moment) : Nat := (m.days - dayNumber m.year 1 1).toNat

/-- The number of the week, of which the first begins with the first such day of the week. -/
def weekFrom (m : Moment) (start : Nat) : Nat := (m.yearDay + 7 - (m.weekday + 7 - start) % 7) / 7

/-- The year that the week belongs to, and the number of the week in it. -/
def isoWeek (m : Moment) : Int × Nat :=
  let thursday := m.days - (m.weekday + 6) % 7 + 3
  let year := (Moment.ofTime (thursday * 86400000)).year
  (year, ((thursday - dayNumber year 1 1) / 7).toNat + 1)

/-- The hour on a clock with twelve of them. -/
def hourOfTwelve (m : Moment) : Nat := if m.hour % 12 = 0 then 12 else m.hour % 12

end Moment

/-! ## 2.  Moments in a format -/

/-- How a part of a moment is laid out. -/
structure DateLayout where
  /-- The flag that says what a short part is filled with. -/
  pad : Option Char
  /-- Whether letters are turned into capitals. -/
  upper : Bool
  /-- Whether letters change their size. -/
  swap : Bool
  width : Option Nat
  /-- How many colons stand in front of the letter. -/
  colons : Nat

namespace DateLayout

/-- A number, filled up to so many digits. -/
def number (l : DateLayout) (usual : Char) (digits n : Nat) : List Char :=
  let shown := Nat.toDigits 10 n
  let pad := l.pad.getD usual
  let missing := l.width.getD digits - shown.length
  if pad = '-' then shown
  else List.replicate missing (if pad = '_' then ' ' else '0') ++ shown

/-- A number of years, with a sign if they lie before the first one, or on request if the number is
longer than usual or is filled up. -/
def years (l : DateLayout) (digits : Nat) (isBefore : Bool) (n : Nat) : List Char :=
  let shown := Nat.toDigits 10 n
  let isLong := (if digits = 2 then 99 else 9999) < n || digits < l.width.getD 0
  let sign := if isBefore then ['-'] else if l.pad = some '+' && isLong then ['+'] else []
  let missing := l.width.getD digits - sign.length - shown.length
  match l.pad with
  | some '-' => sign ++ shown
  | some '_' => List.replicate missing ' ' ++ sign ++ shown
  | _ => sign ++ List.replicate missing '0' ++ shown

/-- The layout of the year in front of a month and a day. -/
def ofYear (l : DateLayout) : DateLayout :=
  match l.pad, l.width with
  | none, none => { l with pad := some '+', width := some 4 }
  | _, width => { l with width := some (width.getD 0 - 6) }

/-- A text, filled up to the width. -/
def text (l : DateLayout) (s : String) : List Char :=
  let cs := if l.upper then s.toList.map Char.toUpper else s.toList
  let missing := l.width.getD 0 - cs.length
  match l.pad with
  | some '-' => cs
  | some '0' | some '+' => List.replicate missing '0' ++ cs
  | _ => List.replicate missing ' ' ++ cs

/-- A name, in capitals on request. -/
def name (l : DateLayout) (s : String) : List Char := { l with upper := l.upper || l.swap }.text s

/-- A word in capitals, in small letters on request. -/
def word (l : DateLayout) (s : String) : List Char := l.text (if l.swap then s.toLower else s)

/-- So many digits of the nanoseconds. -/
def fraction (l : DateLayout) (milliseconds : Nat) : List Char :=
  let digits := Real.digitsOf 10 3 milliseconds ++ List.replicate 6 '0'
  match l.width, l.pad with
  | some n, _ => digits.take n ++ List.replicate (n - 9) '0'
  | none, some '-' =>
    let kept := (digits.reverse.dropWhile (· = '0')).reverse
    if kept.isEmpty then ['0'] else kept
  | none, _ => digits

/-- The distance from the standard time, which is none. -/
def zone (l : DateLayout) : List Char :=
  let shown := match l.colons with
    | 0 => "0000"
    | 1 => "00:00"
    | 2 => "00:00:00"
    | _ => "00"
  '+' :: shown.toList

end DateLayout

/-- The parts that stand for several others. -/
def dateShorthand? (c : Char) : Option String :=
  match c with
  | 'c' => some "%a %b %e %H:%M:%S %-Y"
  | 'D' | 'x' => some "%m/%d/%y"
  | 'r' => some "%I:%M:%S %p"
  | 'R' => some "%H:%M"
  | 'T' | 'X' => some "%H:%M:%S"
  | _ => none

/-- The part of a moment for a letter. -/
def datePart? (m : Moment) (l : DateLayout) (c : Char) : Option (List Char) :=
  let isBefore := m.year < 0
  let year := m.year.natAbs
  let weekYear := m.isoWeek.1
  match c with
  | '%' => some (l.text "%")
  | 'n' => some (l.text "\n")
  | 't' => some (l.text "\t")
  | 'a' => some (l.name (((weekdayNames[m.weekday]?).getD "").take 3).toString)
  | 'A' => some (l.name ((weekdayNames[m.weekday]?).getD ""))
  | 'b' | 'h' => some (l.name (((monthNames[m.month - 1]?).getD "").take 3).toString)
  | 'B' => some (l.name ((monthNames[m.month - 1]?).getD ""))
  | 'C' => some (l.years 2 isBefore (year / 100))
  | 'd' => some (l.number '0' 2 m.day)
  | 'e' => some (l.number '_' 2 m.day)
  | 'F' => some (l.ofYear.years 4 isBefore year ++
      ("-" ++ twoDigits m.month ++ "-" ++ twoDigits m.day).toList)
  | 'g' => some (l.years 2 false (weekYear.natAbs % 100))
  | 'G' => some (l.years 4 (weekYear < 0) weekYear.natAbs)
  | 'H' => some (l.number '0' 2 m.hour)
  | 'I' => some (l.number '0' 2 m.hourOfTwelve)
  | 'j' => some (l.number '0' 3 (m.yearDay + 1))
  | 'k' => some (l.number '_' 2 m.hour)
  | 'l' => some (l.number '_' 2 m.hourOfTwelve)
  | 'm' => some (l.number '0' 2 m.month)
  | 'M' => some (l.number '0' 2 m.minute)
  | 'N' => some (l.fraction m.millisecond)
  | 'p' => some (l.word (if m.hour < 12 then "AM" else "PM"))
  | 'P' => some (l.text (if m.hour < 12 then "am" else "pm"))
  | 'q' => some (l.number '0' 1 ((m.month - 1) / 3 + 1))
  | 's' =>
    let seconds := ((m.days * 24 + m.hour) * 60 + m.minute) * 60 + m.second
    if seconds < 0 then some ('-' :: l.number '0' 1 seconds.natAbs)
    else some (l.number '0' 1 seconds.toNat)
  | 'S' => some (l.number '0' 2 m.second)
  | 'u' => some (l.number '0' 1 ((m.weekday + 6) % 7 + 1))
  | 'U' => some (l.number '0' 2 (m.weekFrom 0))
  | 'V' => some (l.number '0' 2 m.isoWeek.2)
  | 'w' => some (l.number '0' 1 m.weekday)
  | 'W' => some (l.number '0' 2 (m.weekFrom 1))
  | 'y' => some (l.years 2 false (year % 100))
  | 'Y' => some (l.years 4 isBefore year)
  | 'z' => some l.zone
  | 'Z' => some (l.word "UTC")
  | _ => none

/-- A moment in a format.  The depth is how often a part may stand for others, and the budget has to be
more than the length of the format. -/
def inFormat (m : Moment) : Nat → Nat → List Char → List Char
  | _, 0, _ | _, _, [] => []
  | depth, budget + 1, '%' :: cs =>
    let flags := cs.takeWhile ['_', '-', '0', '+', '^', '#'].contains
    let rest := cs.drop flags.length
    let digits := rest.takeWhile Char.isDigit
    let rest := rest.drop digits.length
    let colons := rest.takeWhile (· = ':')
    let rest := rest.drop colons.length
    let rest := rest.dropWhile ['E', 'O'].contains
    let l : DateLayout :=
      { pad := (flags.filter ['_', '-', '0', '+'].contains).getLast?
        upper := flags.contains '^'
        swap := flags.contains '#'
        width := if digits.isEmpty then none else some (Number.digitsValue 10 digits)
        colons := colons.length }
    match rest with
    | [] => '%' :: cs
    | c :: rest =>
      let part := match dateShorthand? c, depth with
        | some shorthand, depth + 1 =>
          some (l.text (String.ofList
            (inFormat m depth (shorthand.length + 1) shorthand.toList)))
        | _, _ => datePart? m l c
      let unknown := '%' :: cs.take (cs.length - rest.length)
      part.getD unknown ++ inFormat m depth budget rest
  | depth, budget + 1, c :: rest => c :: inFormat m depth budget rest

/-! ## 3.  Printing moments -/

/-- The options of `date`. -/
def dateSyntax : Syntax :=
  ⟨"Ru", "dfrs", [⟨"date", 'd', .yes⟩, ⟨"debug", 'D', .no⟩, ⟨"file", 'f', .yes⟩,
    ⟨"iso-8601", 'I', .maybe⟩, ⟨"reference", 'r', .yes⟩, ⟨"resolution", 'E', .no⟩,
    ⟨"rfc-email", 'R', .no⟩, ⟨"rfc-822", 'R', .no⟩, ⟨"rfc-2822", 'R', .no⟩,
    ⟨"rfc-3339", 'T', .yes⟩, ⟨"set", 's', .yes⟩, ⟨"uct", 'u', .no⟩, ⟨"utc", 'u', .no⟩,
    ⟨"universal", 'u', .no⟩], true, 1⟩

/-- An argument in which the short option for the international format is written out. -/
def withLongFormat (argument : String) : List String :=
  match argument.toList with
  | '-' :: 'I' :: [] => ["--iso-8601"]
  | '-' :: 'I' :: precision => ["--iso-8601=" ++ String.ofList precision]
  | _ => [argument]

/-- How exact a moment is shown. -/
def datePrecisions : List (List String) :=
  [["hours"], ["minutes"], ["date"], ["seconds"], ["ns"]]

/-- The format of the international standard with a precision. -/
def standardFormat (precision : String) : String :=
  match precision with
  | "date" => "%Y-%m-%d"
  | "hours" => "%Y-%m-%dT%H%:z"
  | "minutes" => "%Y-%m-%dT%H:%M%:z"
  | "seconds" => "%Y-%m-%dT%H:%M:%S%:z"
  | _ => "%Y-%m-%dT%H:%M:%S,%N%:z"

/-- The formats that options ask for. -/
def formatsOf (name : String) (given : List Given) : Run (List String) :=
  given.filterMapM fun (letter, value) => do
    match letter with
    | 'I' => do
      let precision ← if value = "" then pure "date"
        else wordAmong name "iso-8601" value datePrecisions 1
      return some (standardFormat precision)
    | 'T' => do
      let words := [["date"], ["seconds"], ["ns"]]
      let precision ← wordAmong name "rfc-3339" value words 1
      return some (match precision with
        | "date" => "%Y-%m-%d"
        | "seconds" => "%Y-%m-%d %H:%M:%S%:z"
        | _ => "%Y-%m-%d %H:%M:%S.%N%:z")
    | 'R' => return some "%a, %d %b %Y %H:%M:%S %z"
    | _ => return none

/-- Prints a moment in a format. -/
def printMoment (format : String) (time : Int) : Run Unit :=
  print (String.ofList (inFormat (Moment.ofTime time) 3 (format.length + 1) format.toList) ++ "\n")

/-- Prints a moment. -/
def date : Body := fun name arguments => do
  let (given, operands) ← options name dateSyntax (changeFree dateSyntax withLongFormat arguments)
  let formats ← formatsOf name given
  let isGiven := ['d', 'f', 'r', 'E'].filter (has given)
  if 1 < formats.length then fail name "multiple output formats specified" 1
  if 1 < isGiven.length || (!isGiven.isEmpty && has given 's') then
    let message := if isGiven.length ≤ 1
      then "the options to print and set the time may not be used together"
      else "the options to specify dates for printing are mutually exclusive"
    misused name message 1
  if let some operand := operands[1]? then extraOperand name operand 1
  let now := (← get).files.clock
  let usual := "%a %b %e %H:%M:%S %Z %Y"
  let format ← match operands.head? with
    | none => pure (formats.headD usual)
    | some operand =>
      if operand.startsWith "+" then
        if !formats.isEmpty then fail name "multiple output formats specified" 1
        pure (operand.drop 1).toString
      else if !isGiven.isEmpty || has given 's' then
        misused name ("the argument " ++ (← cited operand) ++ " lacks a leading '+';\n" ++
          "when using an option to specify date(s), any non-option\n" ++
          "argument must be a format string beginning with '+'") 1
      else fail name ("invalid date " ++ (← cited operand)) 1
  match isGiven.head? with
  | none =>
    printMoment format now
    finish name 0
  | some 'E' => do
    if operands.isEmpty then print "0.000000001\n" else printMoment format 0
    finish name 0
  | some 'r' => do
    let path := (valueOf given 'r').getD ""
    match ← nodeAt path with
    | .error e => fail name (quotedIfNeeded false path ++ ": " ++ e.message) 1
    | .ok node => do
      printMoment format (modifiedOf (← get).files node)
      finish name 0
  | some 'f' => do
    let path := (valueOf given 'f').getD ""
    match ← contentOf path with
    | .error (.opening e) => fail name (quotedIfNeeded false path ++ ": " ++ e.message) 1
    | .error (.reading e) =>
      let title := if path = "-" then "standard input" else path
      fail name (quotedIfNeeded false title ++ ": read error: " ++ e.message) 1
    | .ok bytes => do
      let mut status := 0
      for line in linesOf (textOf bytes) do
        match readTime now line with
        | some time => printMoment format time
        | none =>
          report name ("invalid date " ++ (← cited line))
          status := 1
      finish name status
  | some _ => do
    let text := (valueOf given 'd').getD ""
    match readTime now text with
    | none => fail name ("invalid date " ++ (← cited text)) 1
    | some time => do
      printMoment format time
      finish name 0

end CountedStrings.Shell.Utility
