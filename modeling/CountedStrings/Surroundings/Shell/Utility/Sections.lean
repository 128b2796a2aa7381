import CountedStrings.Surroundings.Shell.Layout
import CountedStrings.Surroundings.Shell.Regular
import CountedStrings.Surroundings.Shell.Utility.Splitting

/-!
# Sections of a file

`csplit` writes the sections of a file into files of their own.  Each of its arguments says where a
section ends: at the line of a number, or at a line that a regular expression matches.

## 1.  Arguments

An argument may be repeated, and a line that is matched may be counted from.

## 2.  Sections

The lines of the file are taken from its front.  What goes wrong ends all, and takes away the files that
were made unless they are to be kept.
-/

namespace CountedStrings.Shell.Utility

/-! ## 1.  Arguments -/

/-- Where a section ends. -/
inductive SectionEnd where
  /-- In front of the line of a number. -/
  | line (number : Nat)
  /-- So many lines behind a line that is matched; whether the section is left out. -/
  | matched (r : Regular) (offset : Int) (isLeftOut : Bool)

/-- An argument that says where sections end. -/
structure SectionMark where
  text : String
  place : SectionEnd
  /-- How often it is repeated; none if that goes on up to the end of the file. -/
  repeats : Option Nat

/-- Reads a regular expression between marks, and the number behind it. -/
def readSectionPattern (name text : String) : Run SectionEnd := do
  let cs := text.toList
  let mark := cs.headD '/'
  let behind := (cs.drop 1).reverse.takeWhile (· ≠ mark)
  if !(cs.drop 1).contains mark then
    fail name (text ++ ": closing delimiter '" ++ mark.toString ++ "' missing") 1
  let pattern := (cs.drop 1).take (cs.length - behind.length - 2)
  let offset := String.ofList behind.reverse
  match Regular.ofText (String.ofList pattern) with
  | .error _ =>
    fail name ((← cited text) ++ ": invalid regular expression: Invalid regular expression") 1
  | .ok r =>
    if offset = "" then return .matched r 0 (mark = '%')
    match Number.ofText? (some 10) offset with
    | some n => return .matched r n (mark = '%')
    | none => fail name ((← cited text) ++ ": integer expected after delimiter") 1

/-- Reads how often an argument is repeated. -/
def readRepeats (name text : String) : Run (Option Nat) := do
  let cs := text.toList.drop 1
  if cs.getLast? ≠ some '\x7d' then
    fail name ((← cited text) ++ ": '\x7d' is required in repeat count") 1
  let digits := String.ofList cs.dropLast
  if digits = "*" then return none
  match Number.ofDigits? digits with
  | some n => return some n
  | none =>
    let front ← cited ("\x7b" ++ digits)
    fail name (front ++ "\x7d: integer required between '\x7b' and '\x7d'") 1

/-- Reads the arguments that say where sections end, given the number of the last line that one of them
named. -/
def readSectionMarks (name : String) : Nat → List String → Run (List SectionMark)
  | _, [] => return []
  | last, text :: rest => do
    let isPattern := text.startsWith "/" || text.startsWith "%"
    let place ←
      if isPattern then readSectionPattern name text
      else
        match Number.ofDigits? text with
        | none => fail name ((← cited text) ++ ": invalid pattern") 1
        | some n => do
          if n = 0 then fail name (text ++ ": line number must be greater than zero") 1
          if n < last then
            fail name ("line number " ++ (← cited text) ++
              " is smaller than preceding line number, " ++ toString last) 1
          if n = last then
            report name ("warning: line number " ++ (← cited text) ++
              " is the same as preceding line number")
          pure (SectionEnd.line n)
    let last := match place with
      | .line n => n
      | .matched _ _ _ => last
    match rest with
    | [] => return [⟨text, place, some 0⟩]
    | next :: others =>
      if next.startsWith "\x7b" then do
        let repeats ← readRepeats name next
        return ⟨text, place, repeats⟩ :: (← readSectionMarks name last others)
      else return ⟨text, place, some 0⟩ :: (← readSectionMarks name last (next :: others))

/-! ## 2.  Sections -/

/-- How sections are written. -/
structure SectionWay where
  name : String
  /-- The name of the file of a number. -/
  path : Nat → String
  keeps : Bool
  quiet : Bool
  /-- Whether no empty files are made. -/
  elides : Bool
  /-- Whether lines that are matched are left out. -/
  suppresses : Bool

/-- What is left of the file, and what was written. -/
structure Sectioning where
  lines : Array String
  /-- How many lines were taken. -/
  taken : Nat
  /-- The number of the line that was looked at last. -/
  current : Nat
  /-- How many files there are. -/
  made : Nat
  /-- What is to be written into the last file, if it is still open. -/
  section_ : Option (List String)

namespace Sectioning

/-- Takes a line. -/
def take (s : Sectioning) : Option String × Sectioning :=
  match s.lines[s.taken]? with
  | none => (none, s)
  | some line => (some line, { s with taken := s.taken + 1, current := max s.current (s.taken + 1) })

/-- The line of a number. -/
def line? (s : Sectioning) (number : Nat) : Option String :=
  if number = 0 then none else s.lines[number - 1]?

/-- Adds a line to the section. -/
def add (s : Sectioning) (line : String) : Sectioning :=
  { s with section_ := s.section_.map (line :: ·) }

/-- Begins a section with a file of its own. -/
def openSection (way : SectionWay) (s : Sectioning) : Run Sectioning := do
  match ← openForWriting (way.path s.made) true false false with
  | .ok _ => return { s with made := s.made + 1, section_ := some [] }
  | .error e => fail way.name (quotedIfNeeded true (way.path s.made) ++ ": " ++ e.message) 1

/-- Writes the section that was begun, and tells its size. -/
def closeSection (way : SectionWay) (s : Sectioning) : Run Sectioning := do
  match s.section_ with
  | none => return s
  | some lines => do
    let path := way.path (s.made - 1)
    let bytes := bytesOf (String.join lines.reverse)
    if bytes.isEmpty && way.elides then
      changeFiles fun files => (files.unlink (Bytes.ofByteText path)).toOption.getD files
      return { s with made := s.made - 1, section_ := none }
    if let .ok number := ← openForWriting path true false false then
      setDescriptor scratchDescriptor number
      discard (write scratchDescriptor bytes)
      closeDescriptor scratchDescriptor
    if !way.quiet then print (toString bytes.size ++ "\n")
    return { s with section_ := none }

/-- Ends all because something went wrong. -/
def abandon {α : Type} (way : SectionWay) (s : Sectioning) : Run α := do
  let s ← s.closeSection way
  if !way.keeps then
    for i in List.range s.made do
      changeFiles fun files =>
        (files.unlink (Bytes.ofByteText (way.path i))).toOption.getD files
  discard (finish way.name 1)
  quit 1

/-- Takes all lines that are left. -/
def takeRest (s : Sectioning) : Sectioning :=
  let rest := (s.lines.extract s.taken s.lines.size).toList
  { s with section_ := s.section_.map (rest.reverse ++ ·), taken := s.lines.size }

/-- Takes so many lines, into the section unless it is left out; tells whether there were so many. -/
def takeLines (isLeftOut : Bool) : Nat → Sectioning → Bool × Sectioning
  | 0, s => (true, s)
  | count + 1, s =>
    match s.take with
    | (none, s) => (false, s)
    | (some line, s) => takeLines isLeftOut count (if isLeftOut then s else s.add line)

/-- Complains if nothing at all is left. -/
def needLines (way : SectionWay) (s : Sectioning) : Run Unit := do
  if s.lines.size ≤ s.taken then fail way.name "input disappeared" 1

/-- What is said of a place that was reached once more. -/
def repetitionText (repetition : Nat) : String :=
  if repetition = 0 then "\n" else " on repetition " ++ toString repetition ++ "\n"

/-- Takes the section up to the line of a number. -/
def takeUpTo (way : SectionWay) (number repetition : Nat) (s : Sectioning) : Run Sectioning := do
  let outside {α : Type} (s : Sectioning) : Run α := do
    complain (way.name ++ ": " ++ (← cited (toString number)) ++ ": line number out of range" ++
      repetitionText repetition)
    s.abandon way
  let s ← s.openSection way
  if way.suppresses && (s.line? (s.current + 1)).isNone then outside s
  s.needLines way
  let wanted := number * (repetition + 1) - 1
  let (isEnough, s) := s.takeLines false (wanted - s.taken)
  if !isEnough then outside s
  let s ← s.closeSection way
  if way.suppresses then return s.take.2
  if (s.line? (s.current + 1)).isNone then outside s
  return s

/-- The number of the next line that is matched, behind the one that was looked at last.  The budget has
to be more than the number of lines. -/
def nextMatch (r : Regular) : Nat → Nat → Sectioning → Option Nat
  | 0, _, _ => none
  | budget + 1, number, s =>
    match s.line? number with
    | none => none
    | some line =>
      let bare := if line.endsWith "\n" then line.toList.dropLast else line.toList
      if r.occursIn bare then some number else nextMatch r budget (number + 1) s

/-- Takes the section up to a line that is matched; none if the file is at its end and that is to be
expected. -/
def takeUpToMatch (way : SectionWay) (m : SectionMark) (r : Regular) (offset : Int)
    (isLeftOut : Bool) (repetition : Nat) (s : Sectioning) : Run (Option Sectioning) := do
  let s ← if isLeftOut then pure s else s.openSection way
  match s.nextMatch r (s.lines.size + 1) (s.current + 1) with
  | none => do
    let s := if isLeftOut then s else s.takeRest
    if m.repeats.isNone then
      discard (s.closeSection way)
      return none
    complain (way.name ++ ": " ++ (← cited m.text) ++ ": match not found" ++
      repetitionText repetition)
    s.abandon way
  | some number => do
    let before := if 0 ≤ offset then number - 1 - s.taken else 0
    let (_, s) := s.takeLines isLeftOut before
    let s := { s with current := number }
    let stop : Int := number + offset
    let outside {α : Type} (s : Sectioning) : Run α := do
      report way.name ((← cited m.text) ++ ": line number out of range")
      s.abandon way
    s.needLines way
    if stop < s.taken + 1 then outside s
    let (isEnough, s) := s.takeLines isLeftOut (stop - (s.taken + 1)).toNat
    if !isEnough then outside s
    let s ← s.closeSection way
    let s := { s with current := if 0 < offset then stop.toNat else number }
    return some (if way.suppresses then s.take.2 else s)

/-- Takes the sections that an argument says the ends of, from a repetition on.  The budget bounds the
repetitions. -/
def takeMarked (way : SectionWay) (m : SectionMark) : Nat → Nat → Sectioning → Run (Option Sectioning)
  | 0, _, s => return some s
  | budget + 1, repetition, s => do
    if m.repeats.any (· < repetition) then return some s
    let after ← match m.place with
      | .line number => do pure (some (← s.takeUpTo way number repetition))
      | .matched r offset isLeftOut => s.takeUpToMatch way m r offset isLeftOut repetition
    match after with
    | none => return none
    | some s => takeMarked way m budget (repetition + 1) s

end Sectioning

/-- The name of the file of a section from a format for its number; none if the format is wrong, with the
reason. -/
def sectionSuffix (name : String) (format : Option String) (digits : Nat) : Run (Nat → String) := do
  match format with
  | none =>
    return fun n =>
      String.ofList (Real.digitsOf 10 digits n)
  | some format =>
    let parts := (format.replace "%%" "\x00").splitOn "%"
    let text (part : String) : String := part.replace "\x00" "%"
    match parts with
    | [_] => fail name "missing % conversion specification in suffix" 1
    | [front, directive] => do
      let cs := directive.toList
      let flags := cs.takeWhile ['-', '+', ' ', '#', '0', '\''].contains
      let rest := cs.drop flags.length
      let width := rest.takeWhile Char.isDigit
      let rest := rest.drop width.length
      let hasPoint := rest.head? = some '.'
      let places := if hasPoint then (rest.drop 1).takeWhile Char.isDigit else []
      let rest := if hasPoint then rest.drop (places.length + 1) else rest
      let l : Layout := { Layout.ofFlags flags with
        width := Number.digitsValue 10 width
        precision := if hasPoint then some (Number.digitsValue 10 places) else none }
      match rest with
      | [] => fail name "missing conversion specifier in suffix" 1
      | c :: behind => do
        let shown : Nat → List Char ← match c with
          | 'd' | 'i' | 'u' => pure fun n => l.ofNat 10 n
          | 'o' => pure fun n => l.ofNat 8 n
          | 'x' => pure fun n => l.ofNat 16 n
          | 'X' => pure fun n => (l.ofNat 16 n).map Char.toUpper
          | c => fail name ("invalid conversion specifier in suffix: " ++ c.toString) 1
        return fun n => text front ++ String.ofList (shown n) ++ text (String.ofList behind)
    | _ => fail name "too many % conversion specifications in suffix" 1

/-- The options of `csplit`. -/
def csplitSyntax : Syntax where
  flags := "ksqz"
  valued := "bfn"
  long := [⟨"suffix-format", 'b', .yes⟩, ⟨"prefix", 'f', .yes⟩, ⟨"keep-files", 'k', .no⟩,
    ⟨"digits", 'n', .yes⟩, ⟨"quiet", 's', .no⟩, ⟨"silent", 's', .no⟩,
    ⟨"elide-empty-files", 'z', .no⟩, ⟨"suppress-matched", 'm', .no⟩]
  permutes := true
  status := 1

/-- Writes the sections of a file into files of their own. -/
def csplit : Body := fun name arguments => do
  let (given, operands) ← options name csplitSyntax arguments
  let digits ← match valueOf given 'n' with
    | none => pure 2
    | some text =>
      match Number.ofDigits? text with
      | some n => pure n
      | none => fail name ("invalid number: " ++ (← cited text)) 1
  match operands with
  | [] => missingOperand name 1
  | [a] => misused name ("missing operand after " ++ (← cited a)) 1
  | path :: marks => do
    let suffix ← sectionSuffix name (valueOf given 'b') digits
    let content ← contentOf path
    if let .error (.opening e) := content then
      fail name ("cannot open " ++ quoted path ++ " for reading: " ++ e.message) 1
    let marks ← readSectionMarks name 0 marks
    let front := (valueOf given 'f').getD "xx"
    let way : SectionWay :=
      ⟨name, fun n => front ++ suffix n, has given 'k', has given 's' || has given 'q',
        has given 'z', has given 'm'⟩
    let bytes := content.toOption.getD ByteArray.empty
    let start : Sectioning := ⟨(markedLines '\n' (textOf bytes)).toArray, 0, 0, 0, none⟩
    if let .error (.reading e) := content then
      let s ← start.openSection way
      report name ("read error: " ++ e.message)
      s.abandon way
    let rest ← marks.foldlM (fun (s : Option Sectioning) m =>
      match s with
      | none => return none
      | some s => s.takeMarked way m (s.lines.size + 2) 0) (some start)
    if let some s := rest then
      let s ← s.openSection way
      discard (s.takeRest.closeSection way)
    finish name 0

end CountedStrings.Shell.Utility
