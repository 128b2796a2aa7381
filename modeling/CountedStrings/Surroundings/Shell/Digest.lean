import CountedStrings.Surroundings.Shell.Real

/-!
# Digests

A digest goes through a message block by block and mixes each block into a few words, some of which
are shown in the end.

## 1.  Mixing

`Mixing` says how blocks of a message are mixed, once a one, zeros and its length were added to it.

## 2.  Words of 32 bits

The digests `md5` with four words, the lowest byte first, `sha1` with five and `sm3` with eight.

## 3.  Sums of turned words

The digests `sha224` to `sha512`.  Their words start with the digits of roots of primes, and so do
the constants that are added.

## 4.  Counted blocks

The digest `blake` of any size, whose mixing knows how much of the message was read.
-/

namespace CountedStrings.Shell

/-! ## 1.  Mixing -/

/-- A message with a one and zeros behind it, and its length in bits at the end of a block. -/
def paddedMessage (block lengthSize : Nat) (lowFirst : Bool) (bytes : ByteArray) : ByteArray :=
  let used := bytes.size + 1 + lengthSize
  let zeros := (block - used % block) % block
  let length := (List.range lengthSize).map fun i => UInt8.ofNat (bytes.size * 8 / Nat.pow 256 i)
  let length := if lowFirst then length else length.reverse
  bytes ++ ⟨(0x80 :: (List.replicate zeros 0 ++ length)).toArray⟩

/-- A word of a message. -/
def wordAt (size : Nat) (lowFirst : Bool) (bytes : ByteArray) (position : Nat) : Nat :=
  let part := ((bytes.extract position (position + size)).toList).map UInt8.toNat
  (if lowFirst then part else part.reverse).foldr (fun b n => b + 256 * n) 0

/-- The words of a block of a message. -/
def blockWords (size : Nat) (lowFirst : Bool) (bytes : ByteArray) (position : Nat) : Array Nat :=
  ((List.range 16).map fun i => wordAt size lowFirst bytes (position + i * size)).toArray

/-- The bytes of a word. -/
def wordBytes (size : Nat) (lowFirst : Bool) (word : Nat) : List Nat :=
  let bytes := (List.range size).map fun i => word / Nat.pow 256 i % 256
  if lowFirst then bytes else bytes.reverse

/-- A digest of messages. -/
structure Digest where
  /-- How many bytes it has. -/
  size : Nat
  bytesOf : ByteArray → List Nat

/-- The digest of a message, in hexadecimal digits. -/
def Digest.text (d : Digest) (bytes : ByteArray) : String :=
  String.ofList ((d.bytesOf bytes).flatMap (Real.digitsOf 16 2))

/-- How blocks of a message are mixed into words one after the other. -/
structure Mixing where
  /-- How many bytes a word has, and whether the lowest one comes first. -/
  wordSize : Nat
  lowFirst : Bool
  start : Array Nat
  /-- Mixes a block into the words. -/
  mix : Array Nat → Array Nat → Array Nat
  /-- How many bytes of the words are shown. -/
  shown : Nat

/-- The digest that a mixing makes. -/
def Mixing.digest (m : Mixing) : Digest where
  size := m.shown
  bytesOf bytes :=
    let block := 16 * m.wordSize
    let message := paddedMessage block (2 * m.wordSize) m.lowFirst bytes
    let words := (List.range (message.size / block)).foldl (fun words i =>
      m.mix words (blockWords m.wordSize m.lowFirst message (i * block))) m.start
    (words.toList.flatMap (wordBytes m.wordSize m.lowFirst)).take m.shown

/-- A word turned to the left. -/
def turnLeft (bits word count : Nat) : Nat :=
  (word * Nat.pow 2 count + word / Nat.pow 2 (bits - count)) % Nat.pow 2 bits

/-- A word turned to the right. -/
def turnRight (bits word count : Nat) : Nat := turnLeft bits word (bits - count)

/-- A word with all bits turned round. -/
def complement (bits word : Nat) : Nat := Nat.pow 2 bits - 1 - word

/-- The digits in base two behind the point of a root of a number: the root of the second or third
degree. -/
def rootDigits (bits degree n : Nat) : Nat :=
  let scaled := n * Nat.pow 2 (degree * bits)
  let root := (List.range (bits + 6)).foldl (fun root i =>
    let next := root + Nat.pow 2 (bits + 5 - i)
    if Nat.pow next degree ≤ scaled then next else root) 0
  root % Nat.pow 2 bits

/-- The first primes. -/
def firstPrimes (count : Nat) : List Nat :=
  ((List.range 420).filter fun n =>
    2 ≤ n && (List.range 21).all fun d => d < 2 || n ≤ d || n % d ≠ 0).take count

/-! ## 2.  Words of 32 bits -/

/-- How far each step of a round turns. -/
def lowTurns : List Nat := [7, 12, 17, 22, 5, 9, 14, 20, 4, 11, 16, 23, 6, 10, 15, 21]

/-- The numbers that the steps add: parts of sines. -/
def lowConstants : Array Nat :=
  ((List.range 64).map fun i =>
    ((Float.sin (i + 1).toFloat).abs * 4294967296.0).floor.toUInt64.toNat).toArray

/-- Mixes a block in words from the lowest byte on. -/
def mixLow (words block : Array Nat) : Array Nat :=
  let modulus := Nat.pow 2 32
  let at_ (i : Nat) : Nat := words[i]?.getD 0
  let step := fun (state : Nat × Nat × Nat × Nat) (i : Nat) =>
    let (a, b, c, d) := state
    let (f, g) :=
      if i < 16 then ((b &&& c) ||| (complement 32 b &&& d), i)
      else if i < 32 then ((d &&& b) ||| (complement 32 d &&& c), (5 * i + 1) % 16)
      else if i < 48 then (b ^^^ c ^^^ d, (3 * i + 5) % 16)
      else (c ^^^ (b ||| complement 32 d), 7 * i % 16)
    let sum := (a + f + lowConstants[i]?.getD 0 + block[g]?.getD 0) % modulus
    let turn := lowTurns.getD (i / 16 * 4 + i % 4) 0
    (d, (b + turnLeft 32 sum turn) % modulus, b, c)
  let (a, b, c, d) := (List.range 64).foldl step (at_ 0, at_ 1, at_ 2, at_ 3)
  #[(at_ 0 + a) % modulus, (at_ 1 + b) % modulus, (at_ 2 + c) % modulus, (at_ 3 + d) % modulus]

/-- The digest with words from the lowest byte on. -/
def md5 : Digest :=
  (⟨4, true, #[0x67452301, 0xEFCDAB89, 0x98BADCFE, 0x10325476], mixLow, 16⟩ : Mixing).digest

/-- A block made longer by words that depend on the ones before. -/
def extended (count : Nat) (next : Array Nat → Nat → Nat) (block : Array Nat) : Array Nat :=
  (List.range (count - 16)).foldl (fun words i => words.push (next words (i + 16))) block

/-- Mixes a block into five words. -/
def mixFive (words block : Array Nat) : Array Nat :=
  let modulus := Nat.pow 2 32
  let at_ (i : Nat) : Nat := words[i]?.getD 0
  let all := extended 80 (fun w i =>
    let back (n : Nat) : Nat := w[i - n]?.getD 0
    turnLeft 32 (back 3 ^^^ back 8 ^^^ back 14 ^^^ back 16) 1) block
  let step := fun (state : Nat × Nat × Nat × Nat × Nat) (i : Nat) =>
    let (a, b, c, d, e) := state
    let (f, k) :=
      if i < 20 then ((b &&& c) ||| (complement 32 b &&& d), 0x5A827999)
      else if i < 40 then (b ^^^ c ^^^ d, 0x6ED9EBA1)
      else if i < 60 then ((b &&& c) ||| (b &&& d) ||| (c &&& d), 0x8F1BBCDC)
      else (b ^^^ c ^^^ d, 0xCA62C1D6)
    ((turnLeft 32 a 5 + f + e + k + all[i]?.getD 0) % modulus, a, turnLeft 32 b 30, c, d)
  let (a, b, c, d, e) := (List.range 80).foldl step (at_ 0, at_ 1, at_ 2, at_ 3, at_ 4)
  (([a, b, c, d, e].zipIdx).map fun (x, i) => (at_ i + x) % modulus).toArray

/-- The digest of 160 bits. -/
def sha1 : Digest :=
  (⟨4, false, #[0x67452301, 0xEFCDAB89, 0x98BADCFE, 0x10325476, 0xC3D2E1F0], mixFive, 20⟩ : Mixing).digest

/-- Mixes a block into eight words, with sums that depend on each other. -/
def mixCrossed (words block : Array Nat) : Array Nat :=
  let modulus := Nat.pow 2 32
  let turn := turnLeft 32
  let spread (a b x : Nat) : Nat := x ^^^ turn x a ^^^ turn x b
  let all := extended 68 (fun w i =>
    let back (n : Nat) : Nat := w[i - n]?.getD 0
    spread 15 23 (back 16 ^^^ back 9 ^^^ turn (back 3) 15) ^^^ turn (back 13) 7 ^^^ back 6) block
  let step := fun (s : Array Nat) (i : Nat) =>
    let v (n : Nat) : Nat := s[n]?.getD 0
    let word := all[i]?.getD 0
    let constant := if i < 16 then 0x79CC4519 else 0x7A879D8A
    let twelve := turn (v 0) 12
    let one := turn ((twelve + v 4 + turn constant (i % 32)) % modulus) 7
    let two := one ^^^ twelve
    let majority := if i < 16 then v 0 ^^^ v 1 ^^^ v 2
      else (v 0 &&& v 1) ||| (v 0 &&& v 2) ||| (v 1 &&& v 2)
    let choice := if i < 16 then v 4 ^^^ v 5 ^^^ v 6
      else (v 4 &&& v 5) ||| (complement 32 (v 4) &&& v 6)
    let left := (majority + v 3 + two + (word ^^^ all[i + 4]?.getD 0)) % modulus
    let right := (choice + v 7 + one + word) % modulus
    #[left, v 0, turn (v 1) 9, v 2, spread 9 17 right, v 4, turn (v 5) 19, v 6]
  let mixed := (List.range 64).foldl step words
  ((List.range 8).map fun i => words[i]?.getD 0 ^^^ mixed[i]?.getD 0).toArray

/-- The digest of 256 bits with crossed sums. -/
def sm3 : Digest :=
  (⟨4, false, #[0x7380166F, 0x4914B2B9, 0x172442D7, 0xDA8A0600, 0xA96F30BC, 0x163138AA, 0xE38DEE4D,
    0xB0FB0E4E], mixCrossed, 32⟩ : Mixing).digest

/-! ## 3.  Sums of turned words -/

/-- How far words are turned while eight words are mixed. -/
structure Turns where
  bits : Nat
  rounds : Nat
  /-- For the words of a block: two turns and a shift for each of two sums. -/
  early : Nat × Nat × Nat
  late : Nat × Nat × Nat
  /-- For the words of the digest. -/
  first : Nat × Nat × Nat
  fifth : Nat × Nat × Nat
  constants : Array Nat

/-- The constants of the rounds: parts of the third roots of primes. -/
def roundConstants (bits rounds : Nat) : Array Nat :=
  ((firstPrimes rounds).map (rootDigits bits 3)).toArray

/-- Turns of words with 32 bits. -/
def Turns.short : Turns :=
  ⟨32, 64, (7, 18, 3), (17, 19, 10), (2, 13, 22), (6, 11, 25), roundConstants 32 64⟩

/-- Turns of words with 64 bits. -/
def Turns.long : Turns :=
  ⟨64, 80, (1, 8, 7), (19, 61, 6), (28, 34, 39), (14, 18, 41), roundConstants 64 80⟩

/-- Mixes a block into eight words. -/
def mixEight (t : Turns) (words block : Array Nat) : Array Nat :=
  let modulus := Nat.pow 2 t.bits
  let at_ (i : Nat) : Nat := words[i]?.getD 0
  let shifted (x : Nat × Nat × Nat) (w : Nat) : Nat :=
    turnRight t.bits w x.1 ^^^ turnRight t.bits w x.2.1 ^^^ (w / Nat.pow 2 x.2.2)
  let turned (x : Nat × Nat × Nat) (w : Nat) : Nat :=
    turnRight t.bits w x.1 ^^^ turnRight t.bits w x.2.1 ^^^ turnRight t.bits w x.2.2
  let all := extended t.rounds (fun w i =>
    let back (n : Nat) : Nat := w[i - n]?.getD 0
    (back 16 + shifted t.early (back 15) + back 7 + shifted t.late (back 2)) % modulus) block
  let step := fun (s : Array Nat) (i : Nat) =>
    let v (n : Nat) : Nat := s[n]?.getD 0
    let choice := (v 4 &&& v 5) ^^^ (complement t.bits (v 4) &&& v 6)
    let majority := (v 0 &&& v 1) ^^^ (v 0 &&& v 2) ^^^ (v 1 &&& v 2)
    let one := v 7 + turned t.fifth (v 4) + choice + t.constants[i]?.getD 0 + all[i]?.getD 0
    let two := turned t.first (v 0) + majority
    #[(one + two) % modulus, v 0, v 1, v 2, (v 3 + one) % modulus, v 4, v 5, v 6]
  let mixed := (List.range t.rounds).foldl step words
  ((List.range 8).map fun i => (at_ i + mixed[i]?.getD 0) % modulus).toArray

/-- The digits of the second roots of primes. -/
def rootStart (bits : Nat) (primes : List Nat) : Array Nat :=
  (primes.map (rootDigits bits 2)).toArray

/-- The digest of 256 bits. -/
def sha256 : Digest := (⟨4, false, rootStart 32 (firstPrimes 8), mixEight .short, 32⟩ : Mixing).digest

/-- The digest of 224 bits, from the second halves of longer roots. -/
def sha224 : Digest :=
  let start := (rootStart 64 ((firstPrimes 16).drop 8)).map (· % Nat.pow 2 32)
  (⟨4, false, start, mixEight .short, 28⟩ : Mixing).digest

/-- The digest of 512 bits. -/
def sha512 : Digest := (⟨8, false, rootStart 64 (firstPrimes 8), mixEight .long, 64⟩ : Mixing).digest

/-- The digest of 384 bits. -/
def sha384 : Digest := (⟨8, false, rootStart 64 ((firstPrimes 16).drop 8), mixEight .long, 48⟩ : Mixing).digest

/-! ## 4.  Counted blocks -/

/-- In which order the words of a block are used in each round. -/
def wordOrders : Array (List Nat) :=
  #[[0, 1, 2, 3, 4, 5, 6, 7, 8, 9, 10, 11, 12, 13, 14, 15],
    [14, 10, 4, 8, 9, 15, 13, 6, 1, 12, 0, 2, 11, 7, 5, 3],
    [11, 8, 12, 0, 5, 2, 15, 13, 10, 14, 3, 6, 7, 1, 9, 4],
    [7, 9, 3, 1, 13, 12, 11, 14, 2, 6, 5, 10, 4, 0, 15, 8],
    [9, 0, 5, 7, 2, 4, 10, 15, 14, 1, 11, 12, 6, 8, 3, 13],
    [2, 12, 6, 10, 0, 11, 8, 3, 4, 13, 7, 5, 15, 14, 1, 9],
    [12, 5, 1, 15, 14, 13, 4, 10, 0, 7, 6, 3, 9, 2, 8, 11],
    [13, 11, 7, 14, 12, 1, 3, 9, 5, 0, 15, 4, 8, 6, 2, 10],
    [6, 15, 14, 9, 11, 3, 0, 8, 12, 2, 13, 7, 1, 4, 10, 5],
    [10, 2, 8, 4, 7, 6, 1, 5, 15, 11, 9, 14, 3, 12, 13, 0]]

/-- The places of the words that are mixed with each other in a round. -/
def mixedPlaces : List (Nat × Nat × Nat × Nat) :=
  [(0, 4, 8, 12), (1, 5, 9, 13), (2, 6, 10, 14), (3, 7, 11, 15), (0, 5, 10, 15), (1, 6, 11, 12),
    (2, 7, 8, 13), (3, 4, 9, 14)]

/-- Mixes a block into eight words, given how many bytes of the message were read and whether the block
is the last. -/
def mixCounted (words block : Array Nat) (count : Nat) (last : Bool) : Array Nat :=
  let modulus := Nat.pow 2 64
  let start := rootStart 64 (firstPrimes 8)
  let outer := start.modify 4 (· ^^^ (count % modulus))
  let outer := outer.modify 5 (· ^^^ (count / modulus))
  let outer := if last then outer.modify 6 (complement 64) else outer
  let mixed := (List.range 12).foldl (fun (v : Array Nat) round =>
    let order := (wordOrders[round % 10]?).getD []
    (mixedPlaces.zipIdx).foldl (fun (v : Array Nat) (places, i) =>
      let (a, b, c, d) := places
      let at_ (n : Nat) : Nat := v[n]?.getD 0
      let word (n : Nat) : Nat := block[order.getD n 0]?.getD 0
      let a₁ := (at_ a + at_ b + word (2 * i)) % modulus
      let d₁ := turnRight 64 (at_ d ^^^ a₁) 32
      let c₁ := (at_ c + d₁) % modulus
      let b₁ := turnRight 64 (at_ b ^^^ c₁) 24
      let a₂ := (a₁ + b₁ + word (2 * i + 1)) % modulus
      let d₂ := turnRight 64 (d₁ ^^^ a₂) 16
      let c₂ := (c₁ + d₂) % modulus
      let b₂ := turnRight 64 (b₁ ^^^ c₂) 63
      (((v.set! a a₂).set! b b₂).set! c c₂).set! d d₂) v) (words ++ outer)
  ((List.range 8).map fun i =>
    words[i]?.getD 0 ^^^ mixed[i]?.getD 0 ^^^ mixed[i + 8]?.getD 0).toArray

/-- The digest of so many bytes. -/
def blake (size : Nat) : Digest where
  size := size
  bytesOf bytes :=
    let count := max 1 ((bytes.size + 127) / 128)
    let message := bytes ++ ⟨(List.replicate (128 * count - bytes.size) 0).toArray⟩
    let start := (rootStart 64 (firstPrimes 8)).modify 0 (· ^^^ (0x01010000 + size))
    let words := (List.range count).foldl (fun words i =>
      let last := i + 1 = count
      let read := if last then bytes.size else 128 * (i + 1)
      mixCounted words (blockWords 8 true message (128 * i)) read last) start
    (words.toList.flatMap (wordBytes 8 true)).take size

end CountedStrings.Shell
