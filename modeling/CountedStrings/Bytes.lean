/-!
# Byte strings

Everything that crosses the border of a process is a string of bytes: names and values of the
environment, arguments, paths, commands, contents of files.  This file fixes the type and the two
readings of it that the rest of the library uses.

## 1.  Zero-terminated reading

A reader that is given only the address of a byte string stops at the first zero byte.
`upToZero` is what such a reader sees.  It holds no zero (`zero_notMem_upToZero`), a string
without a zero is seen whole (`upToZero_of_notMem`), and so seeing twice is seeing once
(`upToZero_upToZero`).

## 2.  Byte text

Rules about bytes are easier to read with characters in them.  `ofByteText` and `toByteText`
identify the byte `b` with the character of number `b`, so a rule can say `'='` and mean the byte
`0x3D`.  Bytes above `0x7F` become the characters of the same numbers, whatever encoding they
belong to, and come back unchanged (`ofByteText_toByteText`).
-/

namespace CountedStrings

/-- A string of bytes. -/
abbrev Bytes := List UInt8

namespace Bytes

/-! ## 1.  Zero-terminated reading -/

/-- The bytes in front of the first zero byte, or all of them when there is none. -/
def upToZero (bytes : Bytes) : Bytes :=
  bytes.takeWhile (· != 0)

/-- The zero-terminated reading of a byte string holds no zero byte. -/
theorem zero_notMem_upToZero (bytes : Bytes) : (0 : UInt8) ∉ upToZero bytes := by
  intro h
  induction bytes with
  | nil => simp [upToZero] at h
  | cons b rest ih =>
    by_cases hb : b = 0
    · simp [upToZero, hb] at h
    · have : (0 : UInt8) ≠ b := fun h0 => hb h0.symm
      simp_all [upToZero]

/-- A byte string without a zero byte is read whole. -/
theorem upToZero_of_notMem {bytes : Bytes} (h : (0 : UInt8) ∉ bytes) : upToZero bytes = bytes := by
  induction bytes with
  | nil => rfl
  | cons b rest ih =>
    have hb : b ≠ 0 := fun h0 => h (by simp [h0])
    have hr : (0 : UInt8) ∉ rest := fun hm => h (List.mem_cons_of_mem _ hm)
    have := ih hr
    simp_all [upToZero]

/-- Reading what was read stops nowhere earlier. -/
@[simp] theorem upToZero_upToZero (bytes : Bytes) : upToZero (upToZero bytes) = upToZero bytes :=
  upToZero_of_notMem (zero_notMem_upToZero bytes)

/-! ## 2.  Byte text -/

/-- The bytes whose numbers are the numbers of the given characters, modulo 256. -/
def ofCharacters (characters : List Char) : Bytes :=
  characters.map fun c => UInt8.ofNat c.toNat

/-- The character of the same number, for each byte. -/
def toCharacters (bytes : Bytes) : List Char :=
  bytes.map fun b => Char.ofNat b.toNat

/-- The bytes of a text with one character per byte. -/
def ofByteText (text : String) : Bytes :=
  ofCharacters text.toList

/-- A text with one character per byte. -/
def toByteText (bytes : Bytes) : String :=
  String.ofList (toCharacters bytes)

/-- The character of a byte's number has that number. -/
theorem toNat_ofNat_toNat (b : UInt8) : (Char.ofNat b.toNat).toNat = b.toNat := by
  have h : b.toNat < 256 := b.toNat_lt
  have hv : Nat.isValidChar b.toNat := Or.inl (by omega)
  rw [Char.ofNat, dif_pos hv]
  rfl

/-- Bytes survive the trip through characters. -/
@[simp] theorem ofCharacters_toCharacters (bytes : Bytes) :
    ofCharacters (toCharacters bytes) = bytes := by
  induction bytes with
  | nil => rfl
  | cons b rest ih =>
    simp only [toCharacters, ofCharacters, List.map_cons] at ih ⊢
    rw [toNat_ofNat_toNat, ih]
    simp

/-- Bytes survive the trip through byte text. -/
@[simp] theorem ofByteText_toByteText (bytes : Bytes) : ofByteText (toByteText bytes) = bytes := by
  simp [ofByteText, toByteText]

/-- The UTF-8 form of a text. -/
def ofText (text : String) : Bytes :=
  text.toUTF8.toList

end Bytes

end CountedStrings
