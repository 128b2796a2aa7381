import CountedStrings.Surroundings.Shell.Pattern
import CountedStrings.Surroundings.Shell.Utility.Basic

/-!
# Characters in place of others

`tr` puts characters in place of others, deletes them, and leaves out those that repeat.

## 1.  Sets

A set lists characters one by one, as ranges, by the names of classes, and with a count.  The order
in which a set lists its characters counts.

## 2.  What is allowed

When characters are translated, a class of letters has to stand opposite to such a class, and the
second set is made as long as the first.

## 3.  Translation
-/

namespace CountedStrings.Shell.Utility

/-! ## 1.  Sets -/

/-- A part of a set. -/
inductive SetPart where
  | one (c : Char)
  | range (low high : Char)
  | named (name : String)
  | same (c : Char)
  /-- A character so many times; zero times means as often as needed. -/
  | times (c : Char) (count : Nat)

/-- A character of a set as it is written, and whether it stood behind a backslash. -/
abbrev Written := Char × Bool

/-- The character that stands for a letter behind a backslash. -/
def letterEscape? : Char → Option Char
  | 'a' => some '\x07'
  | 'b' => some '\x08'
  | 'f' => some '\x0c'
  | 'n' => some '\n'
  | 'r' => some '\r'
  | 't' => some '\t'
  | 'v' => some '\x0b'
  | _ => none

/-- A byte as messages show it. -/
def shownByte (c : Char) : String :=
  if 0x20 ≤ c.toNat && c.toNat ≤ 0x7E then c.toString
  else
    let digits := Nat.toDigits 8 c.toNat
    String.ofList ('\\' :: List.replicate (3 - digits.length) '0' ++ digits)

/-- The characters of a set as it is written. -/
def readEscapes (name : String) : Nat → List Char → Run (List Written)
  | 0, _ | _, [] => return []
  | _, ['\\'] => do
    report name "warning: an unescaped backslash at end of string is not portable"
    return [('\\', false)]
  | budget + 1, '\\' :: c :: rest => do
    if '0' ≤ c && c ≤ '7' then
      let digits := (c :: rest.take 2).takeWhile fun c => '0' ≤ c && c ≤ '7'
      let value := Number.digitsValue 8 digits
      if value < 256 then
        let others ← readEscapes name budget (rest.drop (digits.length - 1))
        return (Char.ofNat value, true) :: others
      else
        let short := digits.take 2
        let last := (digits.getD 2 '0').toString
        report name ("warning: the ambiguous octal escape \\" ++ String.ofList digits ++
          " is being\n\tinterpreted as the 2-byte sequence \\0" ++ String.ofList short ++ ", " ++ last)
        return (Char.ofNat (Number.digitsValue 8 short), true) ::
          (← readEscapes name budget (rest.drop 1))
    else return ((letterEscape? c).getD c, true) :: (← readEscapes name budget rest)
  | budget + 1, c :: rest => return (c, false) :: (← readEscapes name budget rest)

/-- What stands in front of a mark that a bracket closes, and what stands behind both. -/
def untilClosed (mark : Char) : List Written → Option (List Written × List Written)
  | (c, false) :: (']', false) :: rest =>
    if c = mark then some ([], rest)
    else (untilClosed mark ((']', false) :: rest)).map fun (front, rest) => ((c, false) :: front, rest)
  | w :: rest => (untilClosed mark rest).map fun (front, rest) => (w :: front, rest)
  | [] => none

/-- The text of written characters. -/
def writtenText (ws : List Written) : String := String.ofList (ws.map (·.1))

/-- Whether a star with a count and a closing bracket stands here. -/
def isCount (ws : List Written) : Bool :=
  match ws with
  | ('*', false) :: rest =>
    let digits := rest.takeWhile fun (c, escaped) => c.isDigit && !escaped
    (rest.drop digits.length).head? = some (']', false)
  | _ => false

/-- A class in brackets, behind its opening, and what stands behind it. -/
def readClass (name : String) (mark : Char) (ws : List Written) :
    Run (Option (SetPart × List Written)) := do
  match untilClosed mark ws with
  | none => return none
  | some ([], _) =>
    fail name (if mark = ':' then "missing character class name '[::]'"
      else "missing equivalence class character '[==]'") 1
  | some (operand, rest) =>
    let text := writtenText operand
    if mark = ':' then
      if (Pattern.classes.lookup text).isSome then return some (.named text, rest)
      else if isCount ws then return none
      else fail name ("invalid character class " ++ (← cited text)) 1
    else
      match operand with
      | [(c, _)] => return some (.same c, rest)
      | _ =>
        if isCount ws then return none
        else fail name (text ++ ": equivalence class operand must be a single character") 1

/-- A character with a count in brackets, behind the opening one, and what stands behind it. -/
def readTimes (name : String) (ws : List Written) : Run (Option (SetPart × List Written)) := do
  match ws with
  | (c, _) :: ('*', false) :: rest =>
    let digits := rest.takeWhile fun (c, escaped) => c ≠ ']' && !escaped
    match rest.drop digits.length with
    | (']', false) :: behind =>
      let cs := digits.map (·.1)
      let base := if cs.head? = some '0' then 8 else 10
      if cs.all (Number.isDigitOf base) then
        return some (.times c (Number.digitsValue base cs), behind)
      else
        fail name ("invalid repeat count " ++ (← cited (String.ofList cs)) ++ " in [c*n] construct") 1
    | _ => return none
  | _ => return none

/-- The part of a set that begins with an opening bracket, if it is more than that, and what stands
behind it. -/
def readBracket (name : String) (ws : List Written) : Run (Option (SetPart × List Written)) := do
  let classed ← match ws with
    | (mark, false) :: rest =>
      if mark = ':' || mark = '=' then readClass name mark rest else pure none
    | _ => pure none
  match classed with
  | some result => return some result
  | none => readTimes name ws

/-- The parts of a set.  The budget has to be the number of its characters. -/
def readSetParts (name : String) : Nat → List Written → Run (List SetPart)
  | 0, _ => return []
  | budget + 1, ws => do
    match ws with
    | [] => return []
    | w :: mark :: high :: rest =>
      let bracket ←
        if w = ('[', false) then readBracket name (mark :: high :: rest) else pure none
      match bracket with
      | some (part, rest) => return part :: (← readSetParts name budget rest)
      | none =>
        if mark = ('-', false) then
          if high.1.toNat < w.1.toNat then
            fail name ("range-endpoints of '" ++ shownByte w.1 ++ "-" ++ shownByte high.1 ++
              "' are in reverse collating sequence order") 1
          else return .range w.1 high.1 :: (← readSetParts name budget rest)
        else return .one w.1 :: (← readSetParts name budget (mark :: high :: rest))
    | w :: rest => return .one w.1 :: (← readSetParts name budget rest)

/-- The parts of the set that an argument is. -/
def readSet (name text : String) : Run (List SetPart) := do
  let ws ← readEscapes name (text.length + 1) text.toList
  readSetParts name ws.length ws

/-- All bytes. -/
def allBytes : List Char := (List.range 256).map Char.ofNat

/-- The characters that a part lists. -/
def SetPart.characters : SetPart → List Char
  | .one c | .same c => [c]
  | .range low high =>
    (List.range (high.toNat + 1 - low.toNat)).map fun i => Char.ofNat (low.toNat + i)
  | .named name => allBytes.filter ((Pattern.classes.lookup name).getD fun _ => false)
  | .times c count => List.replicate count c

/-- Whether a part is a class of letters that have another case. -/
def SetPart.isCase : SetPart → Bool
  | .named name => name = "upper" || name = "lower"
  | _ => false

/-- Whether a part is a class. -/
def SetPart.isClass : SetPart → Bool
  | .named _ => true
  | _ => false

/-- Whether a part is a character as often as needed. -/
def SetPart.isFilling : SetPart → Bool
  | .times _ 0 => true
  | _ => false

/-- Whether a part is a class that stands for a character. -/
def SetPart.isSame : SetPart → Bool
  | .same _ => true
  | _ => false

/-- The characters that parts list. -/
def charactersOf (parts : List SetPart) : List Char := parts.flatMap SetPart.characters

/-! ## 2.  What is allowed -/

/-- What stands opposite to characters: another one, or a class of letters as a whole. -/
inductive Listed where
  | character (c : Char)
  /-- A class of letters: whether it is that of the upper ones. -/
  | case (upper : Bool)

/-- The characters that parts list, with each class of letters as one. -/
def listedOf (parts : List SetPart) : List Listed :=
  parts.flatMap fun
    | .named "upper" => [.case true]
    | .named "lower" => [.case false]
    | part => part.characters.map .character

/-- The characters that parts list; with the first one of a class of letters stands whether it is
that of the upper ones. -/
def markedOf (parts : List SetPart) : List (Char × Option Bool) :=
  parts.flatMap fun part =>
    let mark := match part with
      | .named "upper" => some true
      | .named "lower" => some false
      | _ => none
    match part.characters with
    | [] => []
    | c :: rest => (c, mark) :: rest.map fun c => (c, none)

/-- Characters, or classes of letters, that stand opposite to each other. -/
inductive Opposed where
  | characters (first second : Char)
  | cases (first second : Bool)

/-- How many letters there are in a class. -/
def letterCount : Nat := 26

/-- What stands opposite to each other in two lists, unless a class of letters in the second one
stands opposite to something else than such a class. -/
def opposedOf : List (Char × Option Bool) → List Listed → Option (List Opposed)
  | [], _ | _, [] => some []
  | (c, _) :: first, .character d :: second =>
    (opposedOf first second).map (.characters c d :: ·)
  | (_, some upper) :: first, .case other :: second =>
    (opposedOf (first.drop (letterCount - 1)) second).map (.cases upper other :: ·)
  | (_, none) :: _, .case _ :: _ => none

/-- Parts in which the character that is there as often as needed fills up to a length. -/
def filled (length : Nat) (parts : List SetPart) : List SetPart :=
  let others := (charactersOf parts).length
  parts.map fun
    | .times c 0 => if others < length then .times c (length - others) else .times c 0
    | part => part

/-- What ends a set that is made longer. -/
def lastCharacter (name : String) (parts : List SetPart) : Run Char := do
  match parts.getLast? with
  | some (.named _) =>
    fail name ("when translating with string1 longer than string2,\n" ++
      "the latter string must not end with a character class") 1
  | some (.times c _) => return c
  | some part => return (part.characters.getLast?).getD ' '
  | none => fail name "when not truncating set1, string2 must be non-empty" 1

/-- The second set as it stands opposite to the first one, which is given with its length, when
characters are translated. -/
def opposite (name : String) (complements truncates : Bool) (length : Nat)
    (first second : List SetPart) : Run (List SetPart) := do
  if 1 < (second.filter SetPart.isFilling).length then
    fail name "only one [c*] repeat construct may appear in string2" 1
  let second := filled length second
  if second.any SetPart.isSame then
    fail name "[=c=] expressions may not appear in string2\nwhen translating" 1
  if second.any fun part => part.isClass && !part.isCase then
    fail name ("when translating, the only character classes that may appear in\n" ++
      "string2 are 'upper' and 'lower'") 1
  if !complements && (opposedOf (markedOf first) (listedOf second)).isNone then
    fail name "misaligned [:upper:] and/or [:lower:] construct" 1
  let cases := if complements then 0 else (second.filter SetPart.isCase).length
  let size := length - cases * (letterCount - 1)
  let given := (charactersOf second).length - cases * (letterCount - 1)
  let extended ←
    if size ≤ given || truncates then pure second
    else do
      let last ← lastCharacter name second
      pure (second ++ [.times last (size - given)])
  let cs := charactersOf extended
  let uniform := (match cs with
    | [] => true
    | c :: rest => rest.all (· = c)) && cs.length = length
  if complements && first.any SetPart.isClass && !uniform then
    fail name ("when translating with complemented character classes,\n" ++
      "string2 must map all characters in the domain to one") 1
  return extended

/-! ## 3.  Translation -/

/-- A table of all bytes, with one put in place of another. -/
def putByte (table : Array Char) (c d : Char) : Array Char := table.setIfInBounds c.toNat d

/-- A table with the characters of the second list in place of those of the first. -/
def putAll (table : Array Char) (first second : List Char) : Array Char :=
  (first.zip second).foldl (fun table (c, d) => putByte table c d) table

/-- A table with what stands opposite in place of something. -/
def putOpposed (table : Array Char) : Opposed → Array Char
  | .characters c d => putByte table c d
  | .cases first second =>
    let letters (upper : Bool) : List Char :=
      allBytes.filter (if upper then Char.isUpper else Char.isLower)
    putAll table (letters first) (letters second)

/-- The table by which characters are translated. -/
def translationTable (complements : Bool) (first second : List SetPart) : Array Char :=
  let start := allBytes.toArray
  if complements then
    let inside := charactersOf first
    putAll start (allBytes.filter (!inside.contains ·)) (charactersOf second)
  else ((opposedOf (markedOf first) (listedOf second)).getD []).foldl putOpposed start

/-- A text in which repeated characters of a set are left out. -/
def squeezed (holds : Array Bool) (text : String) : String :=
  (text.foldl (fun (state : Option Char × String) c =>
    if state.1 = some c && holds[c.toNat]?.getD false then state
    else (some c, state.2.push c)) (none, "")).2

/-- Which bytes are in a set, or which are not. -/
def membership (complements : Bool) (parts : List SetPart) : Array Bool :=
  let inside := (charactersOf parts).foldl (fun (table : Array Bool) c =>
    table.setIfInBounds c.toNat true) (Array.replicate 256 false)
  if complements then inside.map (!·) else inside

/-- The options of `tr`. -/
def trSyntax : Syntax where
  flags := "cCdst"
  valued := ""
  long := [⟨"complement", 'c', .no⟩, ⟨"delete", 'd', .no⟩, ⟨"squeeze-repeats", 's', .no⟩,
    ⟨"truncate-set1", 't', .no⟩]
  permutes := false
  status := 1

/-- Complains about too few or too many sets. -/
def checkSets (name : String) (deletes squeezes : Bool) (sets : List String) : Run Unit := do
  let least := if deletes = squeezes then 2 else 1
  let most := if deletes && !squeezes then 1 else 2
  if sets.length < least then
    match sets.getLast? with
    | none => missingOperand name 1
    | some last =>
      report name ("missing operand after " ++ (← cited last))
      say ("Two strings must be given when " ++
        (if deletes then "both deleting and squeezing repeats" else "translating") ++ ".\n")
      referToHelp name 1
  if most < sets.length then
    report name ("extra operand " ++ (← cited (sets.getD most "")))
    if most = 1 && sets.length = 2 then
      say "Only one string may be given when deleting without squeezing repeats.\n"
    referToHelp name 1

/-- Translates, deletes and squeezes characters. -/
def tr : Body := fun name arguments => do
  let (given, sets) ← options name trSyntax arguments
  let complements := has given 'c' || has given 'C'
  let deletes := has given 'd'
  let squeezes := has given 's'
  let truncates := has given 't'
  checkSets name deletes squeezes sets
  let first ← readSet name (sets.headD "")
  let second ← match sets[1]? with
    | some text => some <$> readSet name text
    | none => pure none
  if first.any SetPart.isFilling then
    fail name "the [c*] repeat construct may not appear in string1" 1
  let translates := second.isSome && !deletes
  let inside := charactersOf first
  let length :=
    if complements then (allBytes.filter (!inside.contains ·)).length else inside.length
  let second ← match second with
    | none => pure []
    | some second =>
      if translates then opposite name complements truncates length first second
      else
        if second.any SetPart.isFilling then
          fail name "the [c*] construct may appear in string2 only when translating" 1
        else pure second
  let text ← match ← read 0 none with
    | .ok bytes => pure (textOf bytes)
    | .error e => fail name ("read error: " ++ e.message) 1
  let text :=
    if translates then
      let table := translationTable complements first second
      text.map fun c => table[c.toNat]?.getD c
    else if deletes then
      let gone := membership complements first
      String.ofList (text.toList.filter fun c => !(gone[c.toNat]?.getD false))
    else text
  let text :=
    if !squeezes then text
    else if second.isEmpty && !deletes && !translates then
      squeezed (membership complements first) text
    else squeezed (membership false second) text
  print text
  finish name 0

end CountedStrings.Shell.Utility
