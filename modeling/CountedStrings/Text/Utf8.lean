import CountedStrings.Bytes

/-!
# UTF-8 inside byte strings

A byte string of the host need not be a text.  `nextCharacter` reads one character from the front
of a byte string if the front is well-formed UTF-8, `pieces` reads a whole byte string as a mixture
of characters and stray bytes, and `decode` accepts exactly the strings without a stray byte.

## 1.  One character

The first byte fixes how many bytes follow and the least code point that needs so many.  A sequence
is refused if a following byte is outside `0x80..0xBF`, if a shorter sequence would do, and if the
code point is a surrogate or above `0x10FFFF`.

## 2.  Whole strings

Where no character can be read, one byte is set aside as stray and reading goes on behind it.  A
stray first byte is never swallowed together with the start of a character, because only bytes in
`0x80..0xBF` can follow inside a sequence and none of them starts one.
-/

namespace CountedStrings.Text.Utf8

/-! ## 1.  One character -/

/-- The six bits of a byte that continues a character. -/
def continuation? (b : UInt8) : Option Nat :=
  if 0x80 ≤ b ∧ b ≤ 0xBF then some (b.toNat - 0x80) else none

/-- The character of a code point that is at least `least`. -/
def character? (least code : Nat) : Option Char :=
  if least ≤ code ∧ code.isValidChar then some (Char.ofNat code) else none

/-- The character of a sequence of two to four bytes, given the bytes and what follows them. -/
def sequence? (first : UInt8) (rest : Bytes) : Option (Char × Bytes) :=
  if 0xC2 ≤ first ∧ first ≤ 0xDF then
    match rest with
    | b :: rest => do
      let b ← continuation? b
      let c ← character? 0x80 ((first.toNat - 0xC0) * 0x40 + b)
      return (c, rest)
    | _ => none
  else if 0xE0 ≤ first ∧ first ≤ 0xEF then
    match rest with
    | b :: b' :: rest => do
      let b ← continuation? b
      let b' ← continuation? b'
      let c ← character? 0x800 (((first.toNat - 0xE0) * 0x40 + b) * 0x40 + b')
      return (c, rest)
    | _ => none
  else if 0xF0 ≤ first ∧ first ≤ 0xF4 then
    match rest with
    | b :: b' :: b'' :: rest => do
      let b ← continuation? b
      let b' ← continuation? b'
      let b'' ← continuation? b''
      let c ← character? 0x10000
        ((((first.toNat - 0xF0) * 0x40 + b) * 0x40 + b') * 0x40 + b'')
      return (c, rest)
    | _ => none
  else none

/-- The character at the front of a byte string, with the bytes behind it. -/
def nextCharacter (first : UInt8) (rest : Bytes) : Option (Char × Bytes) :=
  if first < 0x80 then some (Char.ofNat first.toNat, rest) else sequence? first rest

/-- Reading the rest of a character leaves no more bytes than there were behind its first. -/
theorem length_le_of_sequence? {first : UInt8} {rest rest' : Bytes} {c : Char}
    (h : sequence? first rest = some (c, rest')) : rest'.length ≤ rest.length := by
  unfold sequence? at h
  split at h
  · split at h
    · simp [Option.bind_eq_some_iff] at h
      obtain ⟨_, _, _, _, _, rfl⟩ := h
      simp
    · simp at h
  · split at h
    · split at h
      · simp [Option.bind_eq_some_iff] at h
        obtain ⟨_, _, _, _, _, _, _, rfl⟩ := h
        simp only [List.length_cons]
        omega
      · simp at h
    · split at h
      · split at h
        · simp [Option.bind_eq_some_iff] at h
          obtain ⟨_, _, _, _, _, _, _, _, _, rfl⟩ := h
          simp only [List.length_cons]
          omega
        · simp at h
      · simp at h

/-- Reading a character leaves no more bytes than there were behind its first byte. -/
theorem length_le_of_nextCharacter {first : UInt8} {rest rest' : Bytes} {c : Char}
    (h : nextCharacter first rest = some (c, rest')) : rest'.length ≤ rest.length := by
  unfold nextCharacter at h
  split at h
  · simp_all
  · exact length_le_of_sequence? h

/-! ## 2.  Whole strings -/

/-- A piece of a byte string: a character, or a byte that belongs to none. -/
inductive Piece where
  | character (c : Char)
  | stray (b : UInt8)
  deriving DecidableEq

/-- The character of a piece that is one. -/
def Piece.character? : Piece → Option Char
  | .character c => some c
  | .stray _ => none

/-- The pieces of a byte string, in order. -/
def pieces : Bytes → List Piece
  | [] => []
  | first :: rest =>
    match _hc : nextCharacter first rest with
    | some (c, rest') => .character c :: pieces rest'
    | none => .stray first :: pieces rest
termination_by bytes => bytes.length
decreasing_by
  · have := length_le_of_nextCharacter _hc
    simp only [List.length_cons]
    omega
  · simp

/-- The text of a byte string that is well-formed throughout. -/
def decode (bytes : Bytes) : Option String :=
  ((pieces bytes).mapM Piece.character?).map String.ofList

/-- What stands in a text for a byte that belongs to no character. -/
def replacement : Char := Char.ofNat 0xFFFD

/-- The text of a byte string, whatever it is. -/
def decodeAll (bytes : Bytes) : String :=
  String.ofList ((pieces bytes).map fun piece => piece.character?.getD replacement)

end CountedStrings.Text.Utf8
