import CountedStrings.Surroundings.Shell.Real
import CountedStrings.Surroundings.Shell.Utility.Basic

/-!
# Utilities that put lines in order

## 1.  Keys

A key is a part of a line, from a place in one field to a place in another.

## 2.  Orders

Keys are compared as texts or by what they mean: numbers, sizes with a unit, months, versions.

## 3.  Sorting

`sort` orders lines by keys, and by their bytes where the keys are equal.

## 4.  Lines that repeat

`uniq` compares each line with the one before it.
-/

namespace CountedStrings.Shell.Utility

/-! ## 1.  Keys -/

/-- A part of a line, and how such parts are compared. -/
structure SortKey where
  /-- How many fields and characters are skipped in front of the part. -/
  skippedFields : Nat
  skippedCharacters : Nat
  /-- How many whole fields the part ends behind, and how many characters further; without it, at
  the end of the line. -/
  lastField : Option (Nat × Nat)
  /-- The letters of its order. -/
  letters : List Char
  /-- Whether blanks are skipped at its start and at its end. -/
  skipsAtStart : Bool
  skipsAtEnd : Bool

/-- The key that is the whole line. -/
def SortKey.whole : SortKey := ⟨0, 0, none, [], false, false⟩

/-- Whether a key says nothing about its order. -/
def SortKey.isPlain (k : SortKey) : Bool :=
  k.letters.isEmpty && !k.skipsAtStart && !k.skipsAtEnd

/-- Whether a character separates fields by itself. -/
def isSortBlank (c : Char) : Bool := c = ' ' || c = '\t' || c = '\n'

/-- What is left behind so many fields.  With a mark, the mark behind the last of them is skipped
only on request. -/
def behindFields (mark : Option Char) (pastLast : Bool) : Nat → List Char → List Char
  | 0, cs => cs
  | fields + 1, cs =>
    match mark with
    | some mark =>
      let rest := cs.dropWhile (· ≠ mark)
      behindFields (some mark) pastLast fields (if pastLast || fields ≠ 0 then rest.drop 1 else rest)
    | none =>
      behindFields none pastLast fields ((cs.dropWhile isSortBlank).dropWhile (!isSortBlank ·))

/-- The part of a line that a key names. -/
def SortKey.part (k : SortKey) (mark : Option Char) (line : List Char) : List Char :=
  let start := behindFields mark true k.skippedFields line
  let start := if k.skipsAtStart then start.dropWhile isSortBlank else start
  let start := start.drop k.skippedCharacters
  match k.lastField with
  | none => start
  | some (fields, characters) =>
    let stop := behindFields mark (characters ≠ 0) fields line
    let stop := if characters ≠ 0 && k.skipsAtEnd then stop.dropWhile isSortBlank else stop
    let stop := stop.drop characters
    start.take (start.length - stop.length)

/-- What a complaint about a key begins with, and the rest of the key behind a number. -/
def fieldCount (name what : String) (cs : List Char) : Run (Nat × List Char) := do
  let digits := cs.takeWhile Char.isDigit
  if digits.isEmpty then
    fail name (what ++ ": invalid count at start of " ++ (← cited (String.ofList cs))) 2
  else return (Number.digitsValue 10 digits, cs.drop digits.length)

/-- Complains about a key. -/
def badKey {α : Type} (name what text : String) : Run α := do
  fail name (what ++ ": invalid field specification " ++ (← cited text)) 2

/-- The letters of orders. -/
def orderLetters : List Char := ['b', 'd', 'f', 'g', 'h', 'i', 'M', 'n', 'r', 'R', 'V']

/-- The key that a text is. -/
def readKey (name text : String) : Run SortKey := do
  let (first, rest) ← fieldCount name "invalid number at field start" text.toList
  if first = 0 then badKey name "field number is zero" text
  let (skipped, rest) ← match rest with
    | '.' :: rest => do
      let (n, rest) ← fieldCount name "invalid number after '.'" rest
      if n = 0 then badKey name "character offset is zero" text
      pure (n - 1, rest)
    | rest => pure (0, rest)
  let letters := rest.takeWhile orderLetters.contains
  let (last, endLetters, rest) ← match rest.drop letters.length with
    | ',' :: rest => do
      let (n, rest) ← fieldCount name "invalid number after ','" rest
      if n = 0 then badKey name "field number is zero" text
      let (characters, rest) ← match rest with
        | '.' :: rest => fieldCount name "invalid number after '.'" rest
        | rest => pure (0, rest)
      let letters := rest.takeWhile orderLetters.contains
      let fields := if characters = 0 then n else n - 1
      pure (some (fields, characters), letters, rest.drop letters.length)
    | rest => pure (none, [], rest)
  if !rest.isEmpty then badKey name "stray character in field spec" text
  return ⟨first - 1, skipped, last, (letters ++ endLetters).filter (· ≠ 'b'),
    letters.contains 'b', endLetters.contains 'b'⟩

/-! ## 2.  Orders -/

/-- The order of two texts by their bytes. -/
def compareTexts (a b : List Char) : Ordering :=
  match a, b with
  | [], [] => .eq
  | [], _ => .lt
  | _, [] => .gt
  | c :: a, d :: b => (compare c.toNat d.toNat).then (compareTexts a b)

/-- The number at the start of a text: whether it is negative, its whole digits, and the others. -/
def decimalOf (cs : List Char) : Bool × List Char × List Char :=
  let cs := cs.dropWhile isSortBlank
  let (negative, cs) := match cs with
    | '-' :: rest => (true, rest)
    | cs => (false, cs)
  let whole := cs.takeWhile Char.isDigit
  match cs.drop whole.length with
  | '.' :: rest => (negative, whole, rest.takeWhile Char.isDigit)
  | _ => (negative, whole, [])

/-- The order of the numbers that two texts begin with. -/
def compareDecimals (a b : List Char) : Ordering :=
  let places := max (decimalOf a).2.2.length (decimalOf b).2.2.length
  let value (cs : List Char) : Int :=
    let (negative, whole, fraction) := decimalOf cs
    let digits := whole ++ fraction ++ List.replicate (places - fraction.length) '0'
    let size : Int := Number.digitsValue 10 digits
    if negative then -size else size
  compare (value a) (value b)

/-- The place of the unit behind a number among the units. -/
def unitOrder (cs : List Char) : Int :=
  let (negative, whole, fraction) := decimalOf cs
  let cs := cs.dropWhile isSortBlank
  let signs := if negative then 1 else 0
  let points := if (cs.drop (signs + whole.length)).head? = some '.' then 1 else 0
  let unit := (cs.drop (signs + whole.length + points + fraction.length)).headD ' '
  let place := match ['K', 'M', 'G', 'T', 'P', 'E', 'Z', 'Y', 'R', 'Q'].idxOf? unit with
    | some i => (i : Int) + 1
    | none => if unit = 'k' then 1 else 0
  if (whole ++ fraction).all (· = '0') then 0 else if negative then -place else place

/-- The order of two real numbers; what is no number comes first. -/
def compareReals (a b : Real) : Ordering :=
  let rank : Real → Int
    | .notANumber _ => 0
    | .infinite true => 1
    | .finite _ _ _ => 2
    | .infinite false => 3
  match a, b with
  | .finite an am ae, .finite bn bm be =>
    let least := min ae be
    let value (negative : Bool) (mantissa : Nat) (exponent : Int) : Int :=
      let size : Int := mantissa <<< (exponent - least).toNat
      if negative then -size else size
    compare (value an am ae) (value bn bm be)
  | a, b => compare (rank a) (rank b)

/-- The order of the real numbers that two texts begin with; a text without one comes first. -/
def compareGeneral (a b : List Char) : Ordering :=
  let read (cs : List Char) : Option Real :=
    let n := Real.scan .extended cs
    if n.rest.length = cs.length then none else some n.value
  match read a, read b with
  | none, none => .eq
  | none, some _ => .lt
  | some _, none => .gt
  | some x, some y => compareReals x y

/-- The number of the month that a text begins with, or zero. -/
def monthOf (cs : List Char) : Nat :=
  let word := String.ofList (((cs.dropWhile isSortBlank).take 3).map Char.toUpper)
  match ["JAN", "FEB", "MAR", "APR", "MAY", "JUN", "JUL", "AUG", "SEP", "OCT", "NOV",
    "DEC"].idxOf? word with
  | some i => i + 1
  | none => 0

/-- How early a character stands in a version. -/
def versionRank (c : Char) : Int :=
  if c.isDigit then 0
  else if c.isAlpha then c.toNat
  else if c = '~' then -2
  else (c.toNat : Int) + 256

/-- The order of two versions, in which digits count as numbers.  The budget has to be more than the
length of both. -/
def compareVersionParts : Nat → List Char → List Char → Ordering
  | 0, _, _ => .eq
  | budget + 1, a, b =>
    if a.isEmpty && b.isEmpty then .eq
    else
      let isText (cs : List Char) : Bool := cs.head?.any (!·.isDigit)
      if isText a || isText b then
        let rank (cs : List Char) : Int := match cs with
          | [] => -1
          | c :: _ => versionRank c
        (compare (rank a) (rank b)).then (compareVersionParts budget (a.drop 1) (b.drop 1))
      else
        let x := a.takeWhile Char.isDigit
        let y := b.takeWhile Char.isDigit
        (compare (Number.digitsValue 10 x) (Number.digitsValue 10 y)).then
          (compareVersionParts budget (a.drop x.length) (b.drop y.length))

/-- How long a name is without the suffixes at its end. -/
def stemLength : Nat → List Char → Nat → Nat → Nat
  | 0, _, _, stem => stem
  | budget + 1, cs, i, stem =>
    match cs.drop i with
    | [] => stem
    | '.' :: c :: _ =>
      if c.isAlpha || c = '~' then
        let word := (cs.drop (i + 1)).takeWhile fun c => c.isAlphanum || c = '~'
        let next := i + 1 + word.length
        let ends := (cs.drop next).head?.all (· = '.')
        if ends then
          if next = cs.length then stem else stemLength budget cs next stem
        else stemLength budget cs next (next + 1)
      else stemLength budget cs (i + 1) (i + 1)
    | _ => stemLength budget cs (i + 1) (i + 1)

/-- The order of two names with versions in them. -/
def compareVersions (a b : List Char) : Ordering :=
  let hidden (cs : List Char) : Nat := match cs with
    | [] => 0
    | ['.'] => 1
    | ['.', '.'] => 2
    | '.' :: _ => 3
    | _ => 4
  if hidden a ≠ hidden b then compare (hidden a) (hidden b)
  else
    let stem (cs : List Char) : List Char := cs.take (stemLength (cs.length + 1) cs 0 0)
    let budget := a.length + b.length + 1
    (compareVersionParts budget (stem a) (stem b)).then (compareVersionParts budget a b)

/-- The order of two keys by the letters of an order. -/
def compareKeys (letters : List Char) (a b : List Char) : Ordering :=
  if letters.contains 'n' then compareDecimals a b
  else if letters.contains 'g' then compareGeneral a b
  else if letters.contains 'h' then
    (compare (unitOrder a) (unitOrder b)).then (compareDecimals a b)
  else if letters.contains 'M' then compare (monthOf a) (monthOf b)
  else
    let kept (c : Char) : Bool :=
      (!letters.contains 'd' || c.isAlphanum || c = ' ' || c = '\t') &&
        (!letters.contains 'i' || (0x20 ≤ c.toNat && c.toNat ≤ 0x7E))
    let shape (cs : List Char) : List Char :=
      let cs := cs.filter kept
      if letters.contains 'f' then cs.map Char.toUpper else cs
    if letters.contains 'V' then compareVersions (shape a) (shape b)
    else compareTexts (shape a) (shape b)

/-! ## 3.  Sorting -/

/-- A line with the parts that its keys name. -/
structure KeyedLine where
  text : List Char
  parts : List (List Char)

/-- How lines are sorted. -/
structure SortOrder where
  keys : List SortKey
  mark : Option Char
  reversed : Bool
  /-- Whether lines with equal keys stay as they are. -/
  stable : Bool
  /-- Whether only one of several lines with equal keys is kept. -/
  unique : Bool

/-- A line with the parts that keys name. -/
def SortOrder.keyed (o : SortOrder) (line : String) : KeyedLine :=
  let cs := line.toList
  ⟨cs, o.keys.map fun k => k.part o.mark cs⟩

/-- An order turned round. -/
def turnedIf (reversed : Bool) (x : Ordering) : Ordering := if reversed then x.swap else x

/-- The order of two lines. -/
def SortOrder.compare (o : SortOrder) (a b : KeyedLine) : Ordering :=
  let byKeys := (o.keys.zip (a.parts.zip b.parts)).foldl (fun (x : Ordering) (k, p, q) =>
    x.then (turnedIf (k.letters.contains 'r') (compareKeys k.letters p q))) .eq
  if !o.keys.isEmpty && (byKeys ≠ .eq || o.stable || o.unique) then byKeys
  else turnedIf o.reversed (compareTexts a.text b.text)

/-- Lines of which those that are equal to the one before are left out. -/
def SortOrder.thinned (o : SortOrder) : List KeyedLine → List KeyedLine
  | [] => []
  | line :: rest =>
    let kept := rest.foldl (fun (state : KeyedLine × List KeyedLine) next =>
      if o.compare state.1 next = .eq then state else (next, next :: state.2)) (line, [line])
    kept.2.reverse

/-- The number of the first line that stands behind one that it should stand in front of. -/
def SortOrder.disorder? (o : SortOrder) : Nat → List KeyedLine → Option (Nat × KeyedLine)
  | n, a :: b :: rest =>
    let x := o.compare a b
    if x = .gt || (o.unique && x = .eq) then some (n + 1, b)
    else o.disorder? (n + 1) (b :: rest)
  | _, _ => none

/-- The options of `sort`. -/
def sortSyntax : Syntax where
  flags := "bcCdfghimMnrRsuVz"
  valued := "kotSTy"
  long := [⟨"ignore-leading-blanks", 'b', .no⟩, ⟨"check", 'K', .maybe⟩,
    ⟨"dictionary-order", 'd', .no⟩, ⟨"ignore-case", 'f', .no⟩,
    ⟨"general-numeric-sort", 'g', .no⟩, ⟨"human-numeric-sort", 'h', .no⟩,
    ⟨"ignore-nonprinting", 'i', .no⟩, ⟨"key", 'k', .yes⟩, ⟨"merge", 'm', .no⟩,
    ⟨"month-sort", 'M', .no⟩, ⟨"numeric-sort", 'n', .no⟩, ⟨"output", 'o', .yes⟩,
    ⟨"random-sort", 'R', .no⟩, ⟨"version-sort", 'V', .no⟩, ⟨"reverse", 'r', .no⟩,
    ⟨"sort", 'L', .yes⟩, ⟨"stable", 's', .no⟩, ⟨"buffer-size", 'S', .yes⟩,
    ⟨"field-separator", 't', .yes⟩, ⟨"temporary-directory", 'T', .yes⟩, ⟨"unique", 'u', .no⟩,
    ⟨"zero-terminated", 'z', .no⟩, ⟨"parallel", 'P', .yes⟩, ⟨"batch-size", 'B', .yes⟩]
  permutes := true
  status := 2

/-- The options in which words stand for letters, with the letters in their place. -/
def sortLetters (name : String) (given : List Given) : Run (List Given) :=
  given.mapM fun (c, text) => do
    if c = 'L' then
      let word ← wordAmong name "sort" text [["general-numeric"], ["human-numeric"], ["month"],
        ["numeric"], ["random"], ["version"]] 2
      let letter := ([("general-numeric", 'g'), ("human-numeric", 'h'), ("month", 'M'),
        ("numeric", 'n'), ("random", 'R'), ("version", 'V')].lookup word).getD 'n'
      return (letter, "")
    else if c = 'K' then
      if text = "" then return ('c', "")
      let word ← wordAmong name "check" text [["quiet", "silent"], ["diagnose-first"]] 1
      return (if word = "quiet" then 'C' else 'c', "")
    else return (c, text)

/-- The character between fields that options ask for. -/
def sortMark (name : String) (given : List Given) : Run (Option Char) := do
  let mut mark := none
  for (c, text) in given do
    if c = 't' then
      match text.toList with
      | [] => fail name "empty tab" 2
      | cs =>
        if 1 < cs.length && text ≠ "\\0" then
          fail name ("multi-character tab " ++ (← cited text)) 2
        let next := if text = "\\0" then '\x00' else cs.headD ' '
        if mark.any (· ≠ next) then fail name "incompatible tabs" 2
        mark := some next
  return mark

/-- Complains about the letters of an order that do not go together. -/
def checkLetters (name : String) (letters : List Char) : Run Unit := do
  let count := (['n', 'g', 'h', 'M'].filter letters.contains).length +
    (if ['V', 'R', 'd', 'i'].any letters.contains then 1 else 0)
  if 1 < count then
    let shown := ['d', 'f', 'g', 'h', 'i', 'M', 'n', 'R', 'V'].filter letters.contains
    fail name ("options '-" ++ String.ofList shown ++ "' are incompatible") 2

/-- The operands of old in the form of keys. -/
def modernKeys (arguments : List String) : List String :=
  arguments.flatMap fun argument =>
    match argument.toList with
    | '+' :: cs =>
      if !cs.isEmpty && cs.all Char.isDigit then ["-k", toString (Number.digitsValue 10 cs + 1)]
      else [argument]
    | _ => [argument]

/-- The lines of the operands, those of each one for itself; whether they are only checked makes a
difference if there is no input. -/
def sortInputs (name : String) (checks : Bool) (mark : Char) (operands : List String) :
    Run (List (List String)) :=
  operands.mapM fun operand => do
    match ← contentOf operand with
    | .ok bytes => return recordsOf mark (textOf bytes)
    | .error (.opening e) =>
      fail name ("open failed: " ++ quotedIfNeeded true operand ++ ": " ++ e.message) 2
    | .error (.reading e) =>
      let verb := if e = .badDescriptor && !checks then "stat" else "read"
      fail name (verb ++ " failed: " ++ quotedIfNeeded true operand ++ ": " ++ e.message) 2

/-- Complains about an output that cannot be opened, and makes it if there is none. -/
def prepareOutput (name path : String) : Run Unit := do
  match ← openForWriting path false false false with
  | .ok _ => return
  | .error e => fail name ("open failed: " ++ quotedIfNeeded true path ++ ": " ++ e.message) 2

/-- Writes a text to a file, or prints it. -/
def putOut (path : Option String) (text : String) : Run Unit := do
  match path with
  | none => print text
  | some path =>
    match ← openForWriting path true false false with
    | .error _ => return
    | .ok number =>
      setDescriptor scratchDescriptor number
      discard (write scratchDescriptor (bytesOf text))
      closeDescriptor scratchDescriptor

/-- Says whether one operand is in order. -/
def checkOrder (name : String) (order : SortOrder) (mark : Char) (quiet : Bool)
    (writes : Bool) (operands : List String) : Run Nat := do
  let letter := if quiet then "C" else "c"
  match operands with
  | _ :: operand :: _ =>
    fail name ("extra operand " ++ quoted operand ++ " not allowed with -" ++ letter) 2
  | _ =>
    if writes then fail name ("options '-" ++ letter ++ "o' are incompatible") 2
    let operand := operands.headD "-"
    let lines := (← sortInputs name true mark [operand]).flatten
    match order.disorder? 1 (lines.map order.keyed) with
    | none => return 0
    | some (n, line) =>
      if !quiet then
        report name (operand ++ ":" ++ toString n ++ ": disorder: " ++ String.ofList line.text)
      return 1

/-- Sorts lines. -/
def sort : Body := fun name arguments => do
  let (given, operands) ← options name sortSyntax (modernKeys arguments)
  let given ← sortLetters name given
  let field ← sortMark name given
  let keys ← (given.filter fun (c, _) => c = 'k').mapM fun (_, text) => readKey name text
  if let some size := valueOf given 'S' then
    if !(size.toList.head?.any Char.isDigit) then
      fail name ("invalid -S argument " ++ quoted size) 2
  let global := (given.map (·.1)).filter fun c => orderLetters.contains c
  let blanks := global.contains 'b'
  let usual : SortKey := ⟨0, 0, none, global.filter (· ≠ 'b'), blanks, blanks⟩
  let reversed := global.contains 'r'
  let inherit (k : SortKey) : SortKey :=
    if k.isPlain then
      { k with letters := usual.letters, skipsAtStart := blanks, skipsAtEnd := blanks }
    else k
  let isSpecial := blanks || usual.letters.any (· ≠ 'r')
  let keys := if keys.isEmpty then (if isSpecial then [usual] else []) else keys.map inherit
  for k in keys do checkLetters name k.letters
  let unique := has given 'u'
  let order : SortOrder := ⟨keys, field, reversed, has given 's', unique⟩
  let mark := recordMark given
  if has given 'c' || has given 'C' then checkOrder name order mark (has given 'C') (has given 'o') operands
  else
    let operands := orInput operands
    for operand in operands do
      if operand ≠ "-" then
        match (← get).files.find (Bytes.ofByteText operand) with
        | .ok _ => pure ()
        | .error e =>
          fail name ("cannot read: " ++ quotedIfNeeded true operand ++ ": " ++ e.message) 2
    let output := valueOf given 'o'
    if let some path := output then prepareOutput name path
    let inputs ← sortInputs name false mark operands
    let precedes (a b : KeyedLine) : Bool := order.compare a b ≠ .gt
    let sorted :=
      if has given 'm' then
        inputs.foldl (fun done lines => List.merge done (lines.map order.keyed) precedes) []
      else (inputs.flatten.map order.keyed).mergeSort precedes
    let kept := if unique then order.thinned sorted else sorted
    let text := String.ofList (kept.flatMap fun line => line.text ++ [mark])
    putOut output text
    match ← flush with
    | none => return 0
    | some e => do
      report name ("fflush failed: " ++ quoted "standard output" ++ ": " ++ e.message)
      fail name "write error" 2

/-! ## 4.  Lines that repeat -/

/-- What of lines `uniq` compares. -/
structure Comparing where
  skippedFields : Nat
  skippedCharacters : Nat
  most : Option Nat
  ignoresCase : Bool

/-- What of a line is compared. -/
def Comparing.part (x : Comparing) (line : String) : List Char :=
  let cs := (behindFields none false x.skippedFields line.toList).drop x.skippedCharacters
  let cs := match x.most with
    | some n => cs.take n
    | none => cs
  if x.ignoresCase then cs.map Char.toUpper else cs

/-- Lines in groups of equal ones. -/
def Comparing.groups (x : Comparing) (lines : List String) : List (List String) :=
  let (last, done) := lines.foldl
    (fun (state : List String × List (List String)) line =>
      match state with
      | ([], done) => ([line], done)
      | (first :: others, done) =>
        if x.part first = x.part line then (line :: first :: others, done)
        else ([line], (first :: others).reverse :: done)) ([], [])
  (if last.isEmpty then done else last.reverse :: done).reverse

/-- The options of `uniq`. -/
def uniqSyntax : Syntax where
  flags := "cdDiuz"
  valued := "fsw"
  long := [⟨"count", 'c', .no⟩, ⟨"repeated", 'd', .no⟩, ⟨"all-repeated", 'A', .maybe⟩,
    ⟨"group", 'G', .maybe⟩, ⟨"ignore-case", 'i', .no⟩, ⟨"unique", 'u', .no⟩,
    ⟨"skip-fields", 'f', .yes⟩, ⟨"skip-chars", 's', .yes⟩, ⟨"check-chars", 'w', .yes⟩,
    ⟨"zero-terminated", 'z', .no⟩]
  permutes := true
  status := 1

/-- A number that an option of `uniq` gives. -/
def uniqNumber (name what : String) (given : Option String) : Run (Option Nat) := do
  match given with
  | none => return none
  | some text =>
    match Number.ofDigits? text with
    | some n => return some n
    | none => fail name (quotedIfNeeded true text ++ ": invalid number of " ++ what) 1

/-- The arguments of old, digits behind a sign, in the form of options. -/
def modernSkips (arguments : List String) : List String :=
  changeFree uniqSyntax (fun argument =>
    match argument.toList with
    | c :: cs =>
      if (c = '-' || c = '+') && !cs.isEmpty && cs.all Char.isDigit then
        [if c = '-' then "-f" else "-s", String.ofList cs]
      else [argument]
    | [] => [argument]) arguments

/-- Leaves out lines that repeat. -/
def uniq : Body := fun name arguments => do
  let (given, operands) ← options name uniqSyntax (modernSkips arguments)
  let fields ← uniqNumber name "fields to skip" (valueOf given 'f')
  let characters ← uniqNumber name "bytes to skip" (valueOf given 's')
  let most ← uniqNumber name "bytes to compare" (valueOf given 'w')
  let apart ← match valueOf given 'A' with
    | none | some "" => pure "none"
    | some word =>
      wordAmong name "all-repeated" word [["none"], ["prepend"], ["separate"]] 1
  let grouping ← match valueOf given 'G' with
    | none => pure none
    | some "" => pure (some "separate")
    | some word =>
      some <$> wordAmong name "group" word [["prepend"], ["append"], ["separate"], ["both"]] 1
  let all := has given 'D' || has given 'A'
  let counts := has given 'c'
  if 2 < operands.length then extraOperand name (operands.getD 2 "") 1
  if grouping.isSome && (counts || has given 'd' || all || has given 'u') then
    misused name "--group is mutually exclusive with -c/-d/-D/-u" 1
  if all && counts then
    misused name "printing all duplicated lines and repeat counts is meaningless" 1
  let mark := recordMark given
  let x : Comparing := ⟨fields.getD 0, characters.getD 0, most, has given 'i'⟩
  let input := operands.headD "-"
  let lines ← match ← contentOf input with
    | .ok bytes => pure (recordsOf mark (textOf bytes))
    | .error (.opening e) => fail name (quotedIfNeeded true input ++ ": " ++ e.message) 1
    | .error (.reading e) => fail name ("error reading " ++ quoted input ++ ": " ++ e.message) 1
  let output := (operands[1]?).filter (· ≠ "-")
  if let some path := output then
    if let .error e ← openForWriting path true false false then
      fail name (quotedIfNeeded true path ++ ": " ++ e.message) 1
  let line (text : String) : String := text ++ mark.toString
  let blank := mark.toString
  let groups := x.groups lines
  let text :=
    match grouping with
    | some how =>
      let body := blank.intercalate (groups.map fun g => String.join (g.map line))
      let ends (ways : List String) : String :=
        if ways.contains how && !groups.isEmpty then blank else ""
      ends ["prepend", "both"] ++ body ++ ends ["append", "both"]
    | none =>
      if all then
        let repeated := groups.filter fun g => 1 < g.length && !has given 'u'
        let bodies := repeated.map fun g => String.join (g.map line)
        if apart = "prepend" then String.join (bodies.map (blank ++ ·))
        else (if apart = "separate" then blank else "").intercalate bodies
      else
        String.join (groups.map fun g =>
          let wanted := (g.length = 1 && !has given 'd') || (1 < g.length && !has given 'u')
          let front := if counts then rightNumber 7 g.length ++ " " else ""
          if wanted then line (front ++ g.headD "") else "")
  putOut output text
  finish name 0

end CountedStrings.Shell.Utility
