import CountedStrings.Surroundings.Shell.Digest
import CountedStrings.Surroundings.Shell.Utility.Dump

/-!
# Checksums

## 1.  Sums

`sum` adds the bytes of a file up, and `cksum` takes the remainder of a polynomial.

## 2.  Lists of digests

The utilities print the digest of each file, or check such a list.  A name with a backslash or a line
break in it is written with backslashes, and a backslash at the start of the line tells.
-/

namespace CountedStrings.Shell.Utility

/-! ## 1.  Sums -/

/-- The sum of bytes by turning the sum before each one is added. -/
def turningSum (bytes : ByteArray) : Nat :=
  bytes.foldl (fun sum b => (sum / 2 + sum % 2 * 0x8000 + b.toNat) % 0x10000) 0

/-- The sum of bytes folded to sixteen bits. -/
def foldedSum (bytes : ByteArray) : Nat :=
  let sum := bytes.foldl (fun sum b => sum + b.toNat) 0 % Nat.pow 2 32
  let sum := sum % 0x10000 + sum / 0x10000
  sum % 0x10000 + sum / 0x10000

/-- The remainder behind one more bit. -/
def remainderBit (r : UInt32) : UInt32 :=
  if r &&& 0x80000000 ≠ 0 then (r <<< 1) ^^^ 0x04C11DB7 else r <<< 1

/-- The remainder behind one more byte. -/
def remainderByte (r : UInt32) (b : UInt8) : UInt32 :=
  (List.range 8).foldl (fun r _ => remainderBit r) (r ^^^ (b.toUInt32 <<< 24))

/-- The bytes of a length, the lowest first, without zeros at the end. -/
def lengthBytes : Nat → Nat → List UInt8
  | 0, _ => []
  | budget + 1, n => if n = 0 then [] else UInt8.ofNat n :: lengthBytes budget (n / 256)

/-- The remainder of bytes and their length. -/
def remainder (bytes : ByteArray) : UInt32 :=
  ~~~((lengthBytes 8 bytes.size).foldl remainderByte (bytes.foldl remainderByte 0))

/-- Goes through operands of which a line is printed, given how to write it. -/
def printSums (name : String) (operands : List String) (line : ByteArray → String) : Run Nat := do
  let status ← forEachContent name operands fun operand bytes =>
    print (line bytes ++ (if operands.isEmpty then "" else " " ++ operand) ++ "\n")
  finishLines name (← closeInput name "standard input" operands status)

/-- The sum of bytes and their number, in blocks or not, as a line shows both. -/
def sumLine (algorithm : String) (bytes : ByteArray) : String :=
  let blocks (size : Nat) : Nat := (bytes.size + size - 1) / size
  if algorithm = "sysv" then toString (foldedSum bytes) ++ " " ++ toString (blocks 512)
  else if algorithm = "bsd" then
    String.ofList (Real.digitsOf 10 5 (turningSum bytes)) ++ " " ++ rightNumber 5 (blocks 1024)
  else toString (remainder bytes).toNat ++ " " ++ toString bytes.size

/-- Adds the bytes of files up. -/
def sum : Body := fun name arguments => do
  let x : Syntax := ⟨"rs", "", [⟨"sysv", 's', .no⟩], true, 1⟩
  let (given, operands) ← options name x arguments
  printSums name operands (sumLine (if lastOf given ['r', 's'] = some 's' then "sysv" else "bsd"))

/-! ## 2.  Lists of digests -/

/-- The digests, by the names that lists give them. -/
def digests : List (String × Digest) :=
  [("MD5", md5), ("SHA1", sha1), ("SHA224", sha224), ("SHA256", sha256), ("SHA384", sha384),
    ("SHA512", sha512), ("BLAKE2b", blake 64), ("SM3", sm3)]

/-- A name with backslashes in place of characters that a line has no room for, and whether there are
such. -/
def escapedName (text : String) : String × Bool :=
  let written := text.toList.flatMap fun c =>
    match c with
    | '\\' => ['\\', '\\']
    | '\n' => ['\\', 'n']
    | '\r' => ['\\', 'r']
    | c => [c]
  (String.ofList written, written.length ≠ text.length)

/-- The name that was written with backslashes. -/
def unescapedName : List Char → Option (List Char)
  | [] => some []
  | '\\' :: '\\' :: rest => (unescapedName rest).map ('\\' :: ·)
  | '\\' :: 'n' :: rest => (unescapedName rest).map ('\n' :: ·)
  | '\\' :: 'r' :: rest => (unescapedName rest).map ('\r' :: ·)
  | '\\' :: _ => none
  | c :: rest => (unescapedName rest).map (c :: ·)

/-- The digest and the name in a line of a list. -/
def digestLine? (tag : String) (d : Digest) (line : String) : Option (String × String) :=
  let cs := line.toList.dropWhile fun c => c = ' ' || c = '\t'
  let (escaped, cs) := match cs with
    | '\\' :: rest => (true, rest)
    | cs => (false, cs)
  let isDigest (text : List Char) : Bool :=
    text.length = 2 * d.size && text.all (Number.isDigitOf 16)
  let named (digest file : List Char) : Option (String × String) :=
    (if escaped then unescapedName file else some file).map fun file =>
      (String.ofList digest, String.ofList file)
  let opening := (tag ++ " (").toList
  if opening.isPrefixOf cs then
    match ((String.ofList (cs.drop opening.length)).splitOn ") = ").reverse with
    | digest :: file :: others =>
      let file := ") = ".intercalate (file :: others).reverse
      if isDigest digest.toList then named digest.toList file.toList else none
    | _ => none
  else
    let digest := cs.take (2 * d.size)
    match cs.drop (2 * d.size) with
    | ' ' :: mark :: c :: rest =>
      if isDigest digest && (mark = ' ' || mark = '*') then named digest (c :: rest) else none
    | _ => none

/-- A warning about so many things. -/
def warnCount (name : String) (n : Nat) (one many : String) : Run Unit := do
  if n ≠ 0 then report name ("WARNING: " ++ toString n ++ " " ++ (if n = 1 then one else many))

/-- Checks a list of digests; gives whether all is well. -/
def checkList (name tag : String) (d : Digest) (given : List Given) (list text : String) :
    Run Bool := do
  let mut bad := 0
  let mut failed := 0
  let mut unread := 0
  let mut good := 0
  let mut right := 0
  let loudness := lastOf given ['S', 'w', 'q']
  let silent := loudness = some 'S'
  let shown := if list = "-" then quoted "standard input" else quotedIfNeeded false list
  for (line, number) in (linesOf text).zipIdx 1 do
    if line.startsWith "#" then continue
    match digestLine? tag d line with
    | none =>
      bad := bad + 1
      if loudness = some 'w' then
        report name (shown ++ ": " ++ toString number ++ ": improperly formatted " ++ tag ++
          " checksum line")
    | some (digest, file) =>
      good := good + 1
      let (written, escaped) := escapedName file
      let front := (if escaped then "\\" else "") ++ written
      match ← contentOf file with
      | .error e =>
        if !(has given 'I' && e.message = FileError.missing.message) then
          report name (quotedIfNeeded false file ++ ": " ++ e.message)
          if !silent then print (front ++ ": FAILED open or read\n")
          unread := unread + 1
      | .ok bytes =>
        if d.text bytes = digest.toLower then
          right := right + 1
          if !silent && loudness ≠ some 'q' then print (front ++ ": OK\n")
        else
          failed := failed + 1
          if !silent then print (front ++ ": FAILED\n")
  if good = 0 then
    report name (shown ++ ": no properly formatted checksum lines found")
    return false
  if !silent then
    warnCount name bad "line is improperly formatted" "lines are improperly formatted"
    warnCount name unread "listed file could not be read" "listed files could not be read"
    warnCount name failed "computed checksum did NOT match" "computed checksums did NOT match"
  if has given 'I' && right = 0 then report name (shown ++ ": no file was verified")
  return right ≠ 0 && failed = 0 && unread = 0 && (!has given 'X' || bad = 0)

/-- The options of utilities for digests. -/
def digestSyntax : Syntax where
  flags := "bctwz"
  valued := ""
  long := [⟨"binary", 'b', .no⟩, ⟨"check", 'c', .no⟩, ⟨"tag", 'T', .no⟩, ⟨"text", 't', .no⟩,
    ⟨"zero", 'z', .no⟩, ⟨"quiet", 'q', .no⟩, ⟨"status", 'S', .no⟩, ⟨"warn", 'w', .no⟩,
    ⟨"strict", 'X', .no⟩, ⟨"ignore-missing", 'I', .no⟩]
  permutes := true
  status := 1

/-- Complains about options that have no meaning for what is done. -/
def checkDigestOptions (name : String) (given : List Given) : Run Unit := do
  let checks := has given 'c'
  let kind := lastOf given ['b', 't', 'T']
  if has given 'T' && kind = some 't' then misused name "--tag does not support --text mode" 1
  if checks then
    if has given 'z' then
      misused name "the --zero option is not supported when verifying checksums" 1
    if has given 'T' then misused name "the --tag option is meaningless when verifying checksums" 1
    if kind.isSome then
      misused name
        "the --binary and --text options are meaningless when verifying checksums" 1
  else
    let loudness := lastOf given ['S', 'w', 'q']
    let wrong := (if has given 'I' then ["ignore-missing"] else []) ++
      (if loudness = some 'S' then ["status"] else []) ++
      (if loudness = some 'w' then ["warn"] else []) ++
      (if loudness = some 'q' then ["quiet"] else []) ++
      (if has given 'X' then ["strict"] else [])
    if let some option := wrong.head? then
      misused name
        ("the --" ++ option ++ " option is meaningful only when verifying checksums") 1

/-- Prints the digests of files, or checks lists of them. -/
def digested (tag : String) (d : Digest) (tagged : Bool) (name : String) (given : List Given)
    (operands : List String) : Run Nat := do
  checkDigestOptions name given
  if has given 'R' && 1 < operands.length then
    misused name "the --raw option is not supported with multiple files" 1
  if has given 'c' then
    let mut status := 0
    for operand in orInput operands do
      match ← contentOf operand with
      | .ok bytes =>
        if !(← checkList name tag d given operand (textOf bytes)) then status := 1
      | .error (.opening e) =>
        report name (quotedIfNeeded false operand ++ ": " ++ e.message)
        status := 1
      | .error (.reading _) =>
        let title := if operand = "-" then "standard input" else operand
        report name (quotedIfNeeded false title ++ ": read error")
        status := 1
    finishLines name (← closeInput name "standard input" operands status)
  else
    let mark := if lastOf given ['b', 't'] = some 'b' then " *" else "  "
    let behind := if has given 'z' then "\x00" else "\n"
    let status ← forEachContent name operands fun operand bytes => do
      let own := d.bytesOf bytes
      let (written, escaped) := if has given 'z' then (operand, false) else escapedName operand
      let digest := if has given '6'
        then String.ofList (Encoding.base64.encode ⟨(own.map UInt8.ofNat).toArray⟩)
        else d.text bytes
      let front := if escaped then "\\" else ""
      if has given 'R' then printBytes ⟨(own.map UInt8.ofNat).toArray⟩
      else if tagged then print (front ++ tag ++ " (" ++ written ++ ") = " ++ digest ++ behind)
      else print (front ++ digest ++ mark ++ written ++ behind)
    finishLines name (← closeInput name "standard input" operands status)

/-- A utility for one digest. -/
def digestOf (tag : String) (d : Digest) : Body := fun name arguments => do
  let (given, operands) ← options name digestSyntax arguments
  digested tag d (has given 'T') name given operands

/-- The digest of a length that may be given in bits, with its name. -/
def blakeOf (name : String) (length : Option String) : Run (String × Digest) := do
  let bits ← match length with
    | some text => wholeWithin name "invalid length" text 0 (Int.pow 2 64 - 1)
    | none => pure 512
  let shown ← cited (length.getD "")
  if 512 < bits then
    report name ("invalid length: " ++ shown)
    fail name ("maximum digest length for " ++ (← cited "BLAKE2b") ++ " is 512 bits") 1
  if bits % 8 ≠ 0 then
    report name ("invalid length: " ++ shown)
    fail name "length is not a multiple of 8" 1
  let bits := if bits = 0 then 512 else bits
  return (if bits = 512 then "BLAKE2b" else "BLAKE2b-" ++ toString bits, blake (bits / 8).toNat)

/-- Prints digests of a length that may be given. -/
def b2sum : Body := fun name arguments => do
  let x := { digestSyntax with
    valued := "l"
    long := digestSyntax.long ++ [⟨"length", 'l', .yes⟩] }
  let (given, operands) ← options name x arguments
  let (tag, d) ← blakeOf name (valueOf given 'l')
  digested tag d (has given 'T') name given operands

/-- The bytes of a number, the highest one first. -/
def highBytes (count n : Nat) : ByteArray := ⟨((wordBytes count false n).map UInt8.ofNat).toArray⟩

/-- Prints the remainders of files, or digests that are asked for by name. -/
def cksum : Body := fun name arguments => do
  let x := { digestSyntax with
    valued := "al"
    long := digestSyntax.long ++ [⟨"algorithm", 'a', .yes⟩, ⟨"untagged", 'U', .no⟩,
      ⟨"raw", 'R', .no⟩, ⟨"base64", '6', .no⟩, ⟨"length", 'l', .yes⟩] }
  let (given, operands) ← options name x arguments
  let sums := ["bsd", "sysv", "crc"]
  let words := (sums ++ digests.map fun (digest : String × Digest) => digest.1.toLower).map ([·])
  let mut algorithm := "crc"
  for (letter, text) in given do
    if letter = 'a' then algorithm := ← wordAmong name "algorithm" text words 1
  if has given 'l' && algorithm ≠ "blake2b" then
    misused name "--length is only supported with --algorithm=blake2b" 1
  match digests.find? fun (tag, _) => tag.toLower = algorithm with
  | some (tag, d) => do
    let (tag, d) ← if algorithm = "blake2b" then blakeOf name (valueOf given 'l') else pure (tag, d)
    digested tag d (!has given 'U') name given operands
  | none => do
    if has given 'c' then
      fail name ("--check is not supported with --algorithm=\x7bbsd,sysv,crc\x7d") 1
    checkDigestOptions name given
    if has given 'R' && 1 < operands.length then
      misused name "the --raw option is not supported with multiple files" 1
    let value (bytes : ByteArray) : Nat × Nat :=
      if algorithm = "bsd" then (turningSum bytes, 2)
      else if algorithm = "sysv" then (foldedSum bytes, 2)
      else ((remainder bytes).toNat, 4)
    if has given 'R' then do
      let status ← forEachContent name operands fun _ bytes =>
        let (n, count) := value bytes
        printBytes (highBytes count n)
      finishLines name (← closeInput name "standard input" operands status)
    else
      printSums name operands (sumLine algorithm)

end CountedStrings.Shell.Utility
