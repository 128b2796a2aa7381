import CountedStrings.Surroundings.Shell.Layout
import CountedStrings.Surroundings.Shell.Utility.Basic

/-!
# Utilities that show bytes

## 1.  Items

A dump shows bytes in items of one, two, four, eight or sixteen bytes, the lowest byte first: as numbers to a
base, as characters, or by their names.

## 2.  Blocks

A line shows one block in each of the formats.  Blocks that are equal to the one before are left out.

## 3.  Text for bytes

`base64` and `base32` write bytes with few characters, and read them back.
-/

namespace CountedStrings.Shell.Utility

/-! ## 1.  Items -/

/-- How an item is shown. -/
inductive ItemKind where
  | named
  | character
  | signed
  | unsigned
  | octal
  | hexadecimal
  | real
  deriving DecidableEq

/-- A format of a dump. -/
structure ItemFormat where
  kind : ItemKind
  /-- How many bytes an item has. -/
  size : Nat
  /-- Whether the bytes are shown as characters behind the items. -/
  trailer : Bool

/-- How wide an item is without the blank in front of it. -/
def ItemFormat.width (f : ItemFormat) : Nat :=
  let among (one two four eight : Nat) : Nat :=
    if f.size = 1 then one else if f.size = 2 then two else if f.size = 4 then four else eight
  match f.kind with
  | .named | .character => 3
  | .signed => among 4 6 11 20
  | .unsigned => among 3 5 10 20
  | .octal => among 3 6 11 22
  | .hexadecimal => among 2 4 8 16
  | .real => if f.size = 16 then 29 else among 15 15 15 24

/-- The names of the first characters. -/
def characterNames : List String :=
  ["nul", "soh", "stx", "etx", "eot", "enq", "ack", "bel", "bs", "ht", "nl", "vt", "ff", "cr", "so",
    "si", "dle", "dc1", "dc2", "dc3", "dc4", "nak", "syn", "etb", "can", "em", "sub", "esc", "fs",
    "gs", "rs", "us", "sp"]

/-- A byte as a character, or by octal digits. -/
def byteShown (b : Nat) : String :=
  match b with
  | 0 => "\\0"
  | 7 => "\\a"
  | 8 => "\\b"
  | 9 => "\\t"
  | 10 => "\\n"
  | 11 => "\\v"
  | 12 => "\\f"
  | 13 => "\\r"
  | b =>
    if 0x20 ≤ b && b < 0x7F then (Char.ofNat b).toString
    else String.ofList (Real.digitsOf 8 3 b)

/-- Numbers of 32 bits. -/
def singlePrecision : Precision := ⟨24, -149, 128, 1⟩

/-- The real number that bits are, with so many of them for the digits. -/
def realOfBits (p : Precision) (bits total : Nat) : Real :=
  let stored := p.digits - 1
  let fraction := bits % Nat.pow 2 stored
  let power := bits / Nat.pow 2 stored % Nat.pow 2 (total - 1 - stored)
  let negative := bits / Nat.pow 2 (total - 1) % 2 = 1
  if power = Nat.pow 2 (total - 1 - stored) - 1 then
    if fraction = 0 then .infinite negative else .notANumber negative
  else if power = 0 then .finite negative fraction p.least
  else .finite negative (fraction + Nat.pow 2 stored) (p.least + power - 1)

/-- The real number that the bits of an extended one are: its digits are all written out, and without
the first of them it is no number. -/
def realOfExtendedBits (bits : Nat) : Real :=
  let mantissa := bits % Nat.pow 2 64
  let power : Nat := bits / Nat.pow 2 64 % Nat.pow 2 15
  let negative := bits / Nat.pow 2 79 % 2 = 1
  let isWhole := mantissa / Nat.pow 2 63 = 1
  if power = 0 then .finite negative mantissa Precision.extended.least
  else if !isWhole then .notANumber negative
  else if power = Nat.pow 2 15 - 1 then
    if mantissa = Nat.pow 2 63 then .infinite negative else .notANumber negative
  else .finite negative mantissa (Precision.extended.least + power - 1)

/-- A real number with the fewest digits, but at least so many, that read back as the same number. -/
def shortestReal (p : Precision) (least : Nat) (r : Real) : String :=
  let written (count : Nat) : List Char :=
    { Layout.ofFlags [] with precision := some count }.ofReal p 'g' r
  let counts := (List.range (22 - least)).map (· + least)
  let same (count : Nat) : Bool := (Real.scan p (written count)).value = r
  String.ofList (written ((counts.find? same).getD 17))

/-- An item, given its bytes as a number. -/
def ItemFormat.item (f : ItemFormat) (n : Nat) : String :=
  match f.kind with
  | .named => if n % 128 = 127 then "del" else
    (characterNames[n % 128]?).getD (Char.ofNat (n % 128)).toString
  | .character => byteShown n
  | .signed =>
    let half := Nat.pow 2 (8 * f.size - 1)
    toString (if n < half then (n : Int) else n - 2 * half)
  | .unsigned => toString n
  | .octal => String.ofList (Real.digitsOf 8 f.width n)
  | .hexadecimal => String.ofList (Real.digitsOf 16 f.width n)
  | .real =>
    if f.size = 4 then
      let r := realOfBits singlePrecision n 32
      shortestReal singlePrecision (if n / Nat.pow 2 23 % 256 = 0 then 1 else 6) r
    else if f.size = 16 then
      let r := realOfExtendedBits n
      shortestReal .extended (if n / Nat.pow 2 64 % Nat.pow 2 15 = 0 then 1 else 18) r
    else
      let r := realOfBits .double n 64
      shortestReal .double (if n / Nat.pow 2 52 % 2048 = 0 then 1 else 15) r

/-- The number that bytes are, the lowest one first. -/
def numberOfBytes (bytes : List Nat) : Nat := bytes.foldr (fun b n => b + 256 * n) 0

/-- Complains about a type of items. -/
def badType {α : Type} (name text : String) (size : Nat) (what : String) : Run α := do
  fail name ("invalid type string " ++ (← cited text) ++ ";\nthis system doesn't provide a " ++
    toString size ++ "-byte " ++ what ++ " type") 1

/-- How many bytes an item has, and what stands behind the size. -/
def itemSize (name text : String) (reals : Bool) (cs : List Char) : Run (Nat × List Char) := do
  let letters : List (Char × Nat) :=
    if reals then [('F', 4), ('D', 8), ('L', 16)] else [('C', 1), ('S', 2), ('I', 4), ('L', 8)]
  let usual := if reals then 8 else 4
  let digits := cs.takeWhile Char.isDigit
  if !digits.isEmpty then
    let n := Number.digitsValue 10 digits
    let sizes := if reals then [4, 8, 16] else [1, 2, 4, 8]
    if !sizes.contains n then
      badType name text n (if reals then "floating point" else "integral")
    return (n, cs.drop digits.length)
  match cs with
  | c :: rest =>
    match letters.lookup c with
    | some n => return (n, rest)
    | none => return (usual, cs)
  | [] => return (usual, [])

/-- The formats that a type text names. -/
def readTypes (name text : String) : Nat → List Char → Run (List ItemFormat)
  | 0, _ | _, [] => return []
  | budget + 1, c :: rest => do
    let kinds : List (Char × ItemKind) :=
      [('a', .named), ('c', .character), ('d', .signed), ('u', .unsigned), ('o', .octal),
        ('x', .hexadecimal), ('f', .real)]
    match kinds.lookup c with
    | none =>
      fail name ("invalid character '" ++ c.toString ++ "' in type string " ++ (← cited text)) 1
    | some kind =>
      let (size, rest) ←
        if kind = .named || kind = .character then pure (1, rest)
        else itemSize name text (kind = .real) rest
      let trailer := rest.head? = some 'z'
      let rest := if trailer then rest.drop 1 else rest
      return ⟨kind, size, trailer⟩ :: (← readTypes name text budget rest)

/-! ## 2.  Blocks -/

/-- How bytes are dumped. -/
structure Dumping where
  formats : List ItemFormat
  /-- How many bytes stand on a line. -/
  block : Nat
  /-- The base of addresses and how many digits they have. -/
  address : Option (Nat × Nat)
  /-- Whether blocks that repeat are shown. -/
  showsAll : Bool

/-- An address. -/
def Dumping.addressText (x : Dumping) (n : Nat) : String :=
  match x.address with
  | none => ""
  | some (base, width) => String.ofList (Real.digitsOf base width n)

/-- Bytes as characters between angle brackets. -/
def trailerText (bytes : List Nat) : String :=
  let shown := bytes.map fun b => if 0x20 ≤ b && b < 0x7F then Char.ofNat b else '.'
  "  >" ++ String.ofList shown ++ "<"

/-- A block in one format; `total` is how wide the items are together in all formats. -/
def Dumping.row (x : Dumping) (total : Nat) (f : ItemFormat) (bytes : List Nat) : String :=
  let fields := x.block / f.size
  let blank := (x.block - bytes.length) / f.size
  let padding := total - f.width * fields
  let items := (List.range (fields - blank)).map fun i =>
    let left := fields - i
    let width := padding * left / fields - padding * (left - 1) / fields + f.width
    let part := (bytes.drop (i * f.size)).take f.size
    let text := f.item (numberOfBytes part)
    String.ofList (List.replicate (width - text.length) ' ') ++ text
  let behind :=
    if f.trailer then
      String.ofList (List.replicate (blank * f.width + padding * blank / fields) ' ') ++
        trailerText bytes
    else ""
  String.join items ++ behind

/-- A block in all formats. -/
def Dumping.rows (x : Dumping) (offset : Nat) (bytes : List Nat) : String :=
  let total := (x.formats.map fun f => (f.width + 1) * (x.block / f.size)).foldl max 0
  let width := (x.address.map (·.2)).getD 0
  let lines := (x.formats.zipIdx).map fun (f, i) =>
    let front := if i = 0 then x.addressText offset else String.ofList (List.replicate width ' ')
    front ++ x.row total f bytes ++ "\n"
  String.join lines

/-- Bytes in blocks, with the address of each one. -/
def blocksOf (size offset : Nat) (bytes : ByteArray) : List (Nat × List Nat) :=
  (List.range ((bytes.size + size - 1) / size)).map fun i =>
    (offset + i * size, ((bytes.extract (i * size) (i * size + size)).toList).map UInt8.toNat)

/-- The lines for bytes that begin at an address. -/
def Dumping.body (x : Dumping) (offset : Nat) (bytes : ByteArray) : String :=
  let (_, _, lines) := (blocksOf x.block offset bytes).foldl
    (fun (state : Option (List Nat) × Bool × List String) (offset, block) =>
      let (before, starred, lines) := state
      if !x.showsAll && before = some block && block.length = x.block then
        (before, true, if starred then lines else "*\n" :: lines)
      else (some block, false, x.rows offset block :: lines)) (none, false, [])
  String.join lines.reverse

/-- The dump of bytes that begin at an address. -/
def Dumping.text (x : Dumping) (offset : Nat) (bytes : ByteArray) : String :=
  let last := x.addressText (offset + bytes.size)
  x.body offset bytes ++ (if x.address.isSome then last ++ "\n" else "")

/-- The texts of at least so many characters with a zero byte behind them, with their addresses. -/
def Dumping.strings (x : Dumping) (least offset : Nat) (bytes : ByteArray) : String :=
  let (lines, _) := bytes.toList.zipIdx.foldl (fun (state : List String × List Char) (b, i) =>
    let (lines, run) := state
    let c := Char.ofNat b.toNat
    if c = '\x00' && least ≤ run.length then
      let address := x.addressText (offset + i - run.length)
      let front := if address = "" then "" else address ++ " "
      ((front ++ String.ofList run.reverse ++ "\n") :: lines, [])
    else if 0x20 ≤ c.toNat && c.toNat < 0x7F then (lines, c :: run)
    else (lines, [])) ([], [])
  String.join lines.reverse

/-- The options of `od`. -/
def odSyntax : Syntax where
  flags := "abcdfehilosxvBDFHILOX"
  valued := "AjNSt"
  long := [⟨"skip-bytes", 'j', .yes⟩, ⟨"address-radix", 'A', .yes⟩, ⟨"read-bytes", 'N', .yes⟩,
    ⟨"format", 't', .yes⟩, ⟨"output-duplicates", 'v', .no⟩, ⟨"strings", 'S', .maybe⟩,
    ⟨"width", 'w', .maybe⟩]
  permutes := true
  status := 1

/-- The types that letters stand for. -/
def typeLetters : List (Char × String) :=
  [('a', "a"), ('b', "o1"), ('c', "c"), ('d', "u2"), ('e', "fD"), ('f', "fF"), ('h', "x2"),
    ('i', "dI"), ('l', "dL"), ('o', "o2"), ('s', "d2"), ('x', "x2"), ('B', "o2"), ('D', "u4"),
    ('F', "fD"), ('H', "x4"), ('I', "dL"), ('L', "dL"), ('O', "o4"), ('X', "x4")]

/-- A size to any base, with a unit behind it. -/
def sizeToBase? (text : String) : Option Nat :=
  let (base, cs) := Number.baseOf text.toList
  if base = 10 then sizeOf? text
  else
    let digits := cs.takeWhile (Number.isDigitOf base)
    let unit := String.ofList ('1' :: cs.drop digits.length)
    if digits.isEmpty then none else (sizeOf? unit).map (Number.digitsValue base digits * ·)

/-- A size that an option gives. -/
def givenSize (name : String) (given : List Given) (letter : Char) : Run (Option Nat) := do
  match valueOf given letter with
  | none => return none
  | some text =>
    match sizeToBase? text with
    | some n => return some n
    | none =>
      fail name ("invalid -" ++ letter.toString ++ " argument '" ++ text ++ "'") 1

/-- The offset that an operand of old is. -/
def oldOffset? (text : String) : Option Nat :=
  let cs := if text.startsWith "+" then (text.drop 1).toString.toList else text.toList
  let blocks := cs.getLast? = some 'b'
  let cs := if blocks then cs.dropLast else cs
  let decimal := cs.getLast? = some '.'
  let cs := if decimal then cs.dropLast else cs
  let (base, digits) := match cs with
    | '0' :: 'x' :: rest => (16, rest)
    | cs => (if decimal then 10 else 8, cs)
  if digits.isEmpty || !digits.all (Number.isDigitOf base) then none
  else some (Number.digitsValue base digits * (if blocks then 512 else 1))

/-- The arguments of `od` with the width behind `-w` in the long form. -/
def longWidth (arguments : List String) : List String :=
  arguments.map fun argument =>
    match argument.toList with
    | '-' :: 'w' :: cs => "--width" ++ (if cs.isEmpty then "" else "=" ++ String.ofList cs)
    | _ => argument

/-- Dumps bytes. -/
def od : Body := fun name arguments => do
  let (given, operands) ← options name odSyntax (longWidth arguments)
  let address ← match (valueOf given 'A').map String.toList with
    | none => pure (some (8, 7))
    | some ('o' :: _) => pure (some (8, 7))
    | some ('d' :: _) => pure (some (10, 7))
    | some ('x' :: _) => pure (some (16, 6))
    | some ('n' :: _) => pure none
    | some cs =>
      fail name ("invalid output address radix '" ++ (cs.headD ' ').toString ++
        "'; it must be one character from [doxn]") 1
  let least ← if valueOf given 'S' = some "" then pure (some 3) else givenSize name given 'S'
  let skipped ← givenSize name given 'j'
  let most ← givenSize name given 'N'
  let mut named := []
  for (c, text) in given do
    let written := if c = 't' then some text else typeLetters.lookup c
    if let some text := written then
      named := named ++ (← readTypes name text text.length text.toList)
  let formats := if named.isEmpty then [⟨.octal, 2, false⟩] else named
  let unit := formats.foldl (fun n f => Nat.lcm n f.size) 1
  let block ← match valueOf given 'w' with
    | none => pure (16 / unit * unit)
    | some "" => pure 32
    | some text =>
      match sizeOf? text with
      | none => fail name ("invalid -w argument '" ++ text ++ "'") 1
      | some n =>
        if n = 0 then throw (.killed 6)
        else if n % unit = 0 then pure n
        else do
          report name ("warning: invalid width " ++ toString n ++ "; using " ++ toString unit ++
            " instead")
          pure unit
  let isModern := ['A', 'j', 'N', 't', 'v', 'w'].any (has given)
  let (operands, offset) := match operands with
    | [file, start] =>
      match if isModern then none else oldOffset? start with
      | some n => ([file], some n)
      | none => (operands, none)
    | [start] =>
      match if isModern || !start.startsWith "+" then none else oldOffset? start with
      | some n => ([], some n)
      | none => (operands, none)
    | _ => (operands, none)
  let start := (skipped.or offset).getD 0
  let mut all := ByteArray.empty
  let mut status := 0
  let mut opened := false
  let mut shown := 0
  let x : Dumping := ⟨formats, block, address, has given 'v'⟩
  for operand in orInput operands do
    match ← contentOf operand with
    | .ok bytes =>
      all := all ++ bytes
      opened := true
    | .error e =>
      if let .reading _ := e then opened := true
      if least.isNone && most.isNone then
        let front := x.body start (all.extract start (start + (all.size - start) / block * block))
        print (front.drop shown).toString
        shown := front.length
      let title := if operand = "-" then "standard input" else operand
      report name (quotedIfNeeded true title ++ ": " ++ e.message)
      status := 1
  if opened then
    if all.size < start then fail name "cannot skip past end of combined input" 1
    let stop := (most.map (start + ·)).getD all.size
    let part := all.extract start stop
    match least with
    | some least => print (x.strings least start part)
    | none => print ((x.text start part).drop shown).toString
  finish name (← closeInput name "standard input" operands status)

/-! ## 3.  Text for bytes -/

/-- A way to write bytes with few characters. -/
structure Encoding where
  alphabet : Array Char
  /-- How many bits a character stands for. -/
  bits : Nat
  /-- How many characters stand together. -/
  group : Nat
  /-- Whether a group that is cut short stands for bytes before it is refused. -/
  allowsShort : Bool

/-- The way with 64 characters. -/
def Encoding.base64 : Encoding :=
  ⟨"ABCDEFGHIJKLMNOPQRSTUVWXYZabcdefghijklmnopqrstuvwxyz0123456789+/".toList.toArray, 6, 4, true⟩

/-- The way with 32 characters. -/
def Encoding.base32 : Encoding := 
  ⟨"ABCDEFGHIJKLMNOPQRSTUVWXYZ234567".toList.toArray, 5, 8, false⟩

/-- How many bytes a group of characters stands for. -/
def Encoding.bytes (e : Encoding) : Nat := e.bits * e.group / 8

/-- A group for at most as many bytes as it has room for. -/
def Encoding.encodeGroup (e : Encoding) (bytes : List Nat) : List Char :=
  let value := (bytes ++ List.replicate (e.bytes - bytes.length) 0).foldl
    (fun n b => n * 256 + b) 0
  let used := (8 * bytes.length + e.bits - 1) / e.bits
  (List.range e.group).map fun i =>
    let place := Nat.pow 2 (e.bits * (e.group - 1 - i))
    if i < used then (e.alphabet[value / place % Nat.pow 2 e.bits]?).getD '=' else '='

/-- Bytes as text. -/
def Encoding.encode (e : Encoding) (bytes : ByteArray) : List Char :=
  (blocksOf e.bytes 0 bytes).flatMap fun (_, block) => e.encodeGroup block

/-- The bytes that a group stands for, and whether it is complete. -/
def Encoding.decodeGroup (e : Encoding) (cs : List Char) : List Nat × Bool :=
  let values := ((cs.map fun c => e.alphabet.toList.idxOf? c).takeWhile Option.isSome).filterMap id
  let used := values.length
  let value := (values ++ List.replicate (e.group - used) 0).foldl
    (fun n v => n * Nat.pow 2 e.bits + v) 0
  let count := used * e.bits / 8
  let bytes := (List.range count).map fun i => value / Nat.pow 256 (e.bytes - 1 - i) % 256
  let bytes := if cs.length < e.group && !e.allowsShort then [] else bytes
  let padding := cs.drop used
  let exact := (8 * count + e.bits - 1) / e.bits = used
  (bytes, used = e.group ||
    (exact && used + padding.length = e.group && padding.all (· = '=') && 0 < used))

/-- The bytes that groups stand for, and whether all are complete.  The budget has to be more than
the number of groups. -/
def Encoding.decode (e : Encoding) : Nat → List Char → List Nat × Bool
  | 0, _ => ([], true)
  | budget + 1, cs =>
    if cs.isEmpty then ([], true)
    else
      let (bytes, complete) := e.decodeGroup (cs.take e.group)
      if !complete then (bytes, false)
      else
        let (others, complete) := e.decode budget (cs.drop e.group)
        (bytes ++ others, complete)

/-- A text in lines of a width; in one line for the width zero. -/
def wrapped (width : Nat) : Nat → List Char → List Char
  | 0, cs => cs
  | budget + 1, cs =>
    if cs.isEmpty then []
    else if width = 0 then cs
    else cs.take width ++ '\n' :: wrapped width budget (cs.drop width)

/-- Bytes as text and back. -/
structure Transcription where
  encode : ByteArray → Except String (List Char)
  decode : List Char → List Nat × Bool
  /-- Whether a character can stand for bytes. -/
  admits : Char → Bool

/-- The transcription that a way to write bytes is. -/
def Encoding.transcription (e : Encoding) : Transcription where
  encode bytes := .ok (e.encode bytes)
  decode cs := e.decode (cs.length + 1) cs
  admits c := c = '=' || e.alphabet.contains c

/-- The options of utilities that write bytes as text. -/
def transcriptionOptions : List LongOption :=
  [⟨"decode", 'd', .no⟩, ⟨"ignore-garbage", 'i', .no⟩, ⟨"wrap", 'w', .yes⟩]

/-- Writes bytes as text, or reads them back, as options say. -/
def transcribe (t : Transcription) (name : String) (given : List Given) (operands : List String) :
    Run Nat := do
  let width ← match valueOf given 'w' with
    | none => pure 76
    | some text =>
      match Number.ofDigits? text with
      | some n => pure n
      | none => fail name ("invalid wrap size: " ++ (← cited text)) 1
  if let some extra := operands[1]? then extraOperand name extra 1
  let operand := operands.headD "-"
  let bytes ← match ← contentOf operand with
    | .ok bytes => pure bytes
    | .error (.opening e) => fail name (quotedIfNeeded true operand ++ ": " ++ e.message) 1
    | .error (.reading e) => fail name ("read error: " ++ e.message) 1
  if has given 'd' then
    let cs := (textOf bytes).toList.filter fun c => c ≠ '\n' && (!has given 'i' || t.admits c)
    let (decoded, complete) := t.decode cs
    printBytes ⟨(decoded.map UInt8.ofNat).toArray⟩
    if !complete then fail name "invalid input" 1
    finish name 0
  else
    match t.encode bytes with
    | .error message => fail name message 1
    | .ok cs => do
      print (String.ofList (wrapped width (cs.length + 1) cs))
      finish name 0

/-- Writes bytes as text in one way. -/
def encoded (e : Encoding) : Body := fun name arguments => do
  let (given, operands) ← options name ⟨"di", "w", transcriptionOptions, true, 1⟩ arguments
  transcribe e.transcription name given operands

/-- An encoding with some characters for so many bits, so many of which stand together. -/
def Encoding.ofAlphabet (alphabet : String) (bits group : Nat) : Encoding :=
  ⟨alphabet.toList.toArray, bits, group, bits = 6⟩

/-- A byte with its bits turned round. -/
def turnedByte (n : Nat) : Nat :=
  (List.range 8).foldl (fun turned i => turned * 2 + n / Nat.pow 2 i % 2) 0

/-- Bits of which the least one stands first. -/
def leastBitFirst : Transcription :=
  let e := Encoding.ofAlphabet "01" 1 8
  { encode := fun bytes =>
      .ok (e.encode ⟨(bytes.toList.map fun b => UInt8.ofNat (turnedByte b.toNat)).toArray⟩)
    decode := fun cs =>
      let (bytes, complete) := e.decode (cs.length + 1) cs
      (bytes.map turnedByte, complete)
    admits := fun c => c = '0' || c = '1' }

/-- The 85 characters five of which stand for four bytes. -/
def largeAlphabet : Array Char :=
  ("0123456789abcdefghijklmnopqrstuvwxyzABCDEFGHIJKLMNOPQRSTUVWXYZ.-:+=^!/*?&<>()[]" ++
    "\x7b\x7d@%$#").toList.toArray

/-- The characters for four bytes. -/
def fiveCharacters (bytes : List Nat) : List Char :=
  let value := bytes.foldl (fun n b => n * 256 + b) 0
  (List.range 5).map fun i => (largeAlphabet[value / Nat.pow 85 (4 - i) % 85]?).getD ' '

/-- The bytes that characters stand for, five by five, and whether all do.  The budget has to be more
than the number of characters. -/
def fourBytes : Nat → List Char → List Nat × Bool
  | 0, _ | _, [] => ([], true)
  | budget + 1, cs =>
    let values := (cs.take 5).filterMap fun c => largeAlphabet.toList.idxOf? c
    let value := values.foldl (fun n v => n * 85 + v) 0
    if values.length < 5 || Nat.pow 2 32 ≤ value then ([], false)
    else
      let bytes := (List.range 4).map fun i => value / Nat.pow 256 (3 - i) % 256
      let (others, complete) := fourBytes budget (cs.drop 5)
      (bytes ++ others, complete)

/-- Five characters for four bytes. -/
def fiveForFour : Transcription where
  encode bytes :=
    if bytes.size % 4 ≠ 0 then
      .error "invalid input (length must be multiple of 4 characters)"
    else .ok ((blocksOf 4 0 bytes).flatMap fun (_, block) => fiveCharacters block)
  decode cs := fourBytes (cs.length + 1) cs
  admits := largeAlphabet.contains

/-- The ways to write bytes that `basenc` knows, with the letters of their options. -/
def transcriptions : List (Char × String × Transcription) :=
  [('4', "base64", Encoding.base64.transcription),
    ('5', "base64url", (Encoding.ofAlphabet
      "ABCDEFGHIJKLMNOPQRSTUVWXYZabcdefghijklmnopqrstuvwxyz0123456789-_" 6 4).transcription),
    ('2', "base32", Encoding.base32.transcription),
    ('3', "base32hex",
      (Encoding.ofAlphabet "0123456789ABCDEFGHIJKLMNOPQRSTUV" 5 8).transcription),
    ('6', "base16", (Encoding.ofAlphabet "0123456789ABCDEF" 4 2).transcription),
    ('7', "base2msbf", (Encoding.ofAlphabet "01" 1 8).transcription),
    ('8', "base2lsbf", leastBitFirst), ('9', "z85", fiveForFour)]

/-- Writes bytes as text in one of several ways. -/
def basenc : Body := fun name arguments => do
  let own : List LongOption := transcriptions.map fun (letter, word, _) => ⟨word, letter, .no⟩
  let (given, operands) ← options name ⟨"di", "w", own ++ transcriptionOptions, true, 1⟩ arguments
  match (lastOf given (transcriptions.map (·.1))).bind fun letter => transcriptions.lookup letter with
  | none => misused name "missing encoding type" 1
  | some (_, t) => transcribe t name given operands

end CountedStrings.Shell.Utility
