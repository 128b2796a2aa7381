import CountedStrings.Bytes
import CountedStrings.Outcome

/-!
# Strings with a header

Compiled code holds a string by the address of its first byte.  In front of that byte stand two
words of 32 bits, and behind it the bytes themselves:

    count word | info word | byte 0, byte 1, …, byte capacity

The *count word* counts the owners of the string besides the first one.  The *info word* tells the
two kinds of strings apart.

* From `ownedFlag` upwards, the string is *owned*: it was made by this library, and what the word
  exceeds the flag by is its capacity.
* Below `ownedFlag`, the string is *foreign*: the compiler put it into the program, it is never
  freed, and only the caller knows where its bytes end.

## 1.  The info word

`capacityOf` reads the capacity off an info word and `ownedInfo` writes it; they invert each other
on every capacity that fits (`capacityOf_ownedInfo`), and no word holds a capacity that does not
fit (`capacityOf_le`).

## 2.  Layout of the block

`layoutFor` is the block that holds a string of a given capacity.  On its way to the block it asks
three times whether there can be one: whether a header can describe the capacity, whether the size
of the block is a number of 64 bits, and whether a block of that size can exist.  The first question
settles the other two (`layoutFor_of_le`).  Every capacity read off an info word has a block
(`isSome_layoutFor_of_capacityOf`), so a block can always be handed back.

## 3.  Strings and what they show

The *visible bytes* of a string are those in front of its first zero byte.
-/

namespace CountedStrings

/-! ## 1.  The info word -/

/-- The least info word of an owned string: bit 31 alone. -/
def ownedFlag : UInt32 := 0x80000000

/-- The largest capacity that an info word can hold. -/
def maxCapacity : Nat := 0x7FFFFFFF

/-- The info word of an owned string. -/
def ownedInfo (capacity : Nat) : UInt32 :=
  ownedFlag + UInt32.ofNat capacity

/-- The capacity in an info word, if it is that of an owned string. -/
def capacityOf (info : UInt32) : Option Nat :=
  if ownedFlag ≤ info then some (info.toNat - ownedFlag.toNat) else none

theorem toNat_ownedFlag : ownedFlag.toNat = 2147483648 := rfl

/-- Writing a capacity that fits gives the sum of the flag and the capacity. -/
theorem toNat_ownedInfo {capacity : Nat} (h : capacity ≤ maxCapacity) :
    (ownedInfo capacity).toNat = 2147483648 + capacity := by
  have hc : capacity ≤ 2147483647 := h
  rw [ownedInfo, UInt32.toNat_add, toNat_ownedFlag, UInt32.toNat_ofNat']
  omega

/-- The capacity that was written is the capacity that is read. -/
theorem capacityOf_ownedInfo {capacity : Nat} (h : capacity ≤ maxCapacity) :
    capacityOf (ownedInfo capacity) = some capacity := by
  have hi := toNat_ownedInfo h
  have hle : ownedFlag ≤ ownedInfo capacity := by
    rw [UInt32.le_iff_toNat_le, hi, toNat_ownedFlag]
    omega
  rw [capacityOf, if_pos hle, hi, toNat_ownedFlag]
  simp

/-- No info word holds more than the largest capacity. -/
theorem capacityOf_le {info : UInt32} {capacity : Nat} (h : capacityOf info = some capacity) :
    capacity ≤ maxCapacity := by
  have hlt := info.toNat_lt
  rw [capacityOf] at h
  split at h
  · rw [Option.some.injEq, toNat_ownedFlag] at h
    show capacity ≤ 2147483647
    omega
  · simp at h

/-- An info word is that of its capacity. -/
theorem eq_ownedInfo_of_capacityOf {info : UInt32} {capacity : Nat}
    (h : capacityOf info = some capacity) : info = ownedInfo capacity := by
  have hc := capacityOf_le h
  apply UInt32.toNat_inj.mp
  rw [toNat_ownedInfo hc]
  rw [capacityOf] at h
  split at h
  · rename_i hle
    rw [Option.some.injEq, toNat_ownedFlag] at h
    rw [UInt32.le_iff_toNat_le, toNat_ownedFlag] at hle
    omega
  · simp at h

/-! ## 2.  Layout of the block -/

/-- The number of bytes in front of the first byte of a string. -/
def headerSize : Nat := 8

/-- What the address of a string's block is a multiple of. -/
def headerAlignment : Nat := 8

/-- A block of memory: how many bytes it has, and what its address is a multiple of. -/
structure Layout where
  size : Nat
  alignment : Nat
  deriving DecidableEq

/-- A block of a given size.  There is one only if the alignment is a power of two, and the size,
once rounded up to the alignment, is no larger than the largest signed number of 64 bits. -/
def Layout.ofSize? (size alignment : Nat) : Option Layout :=
  if alignment.isPowerOfTwo ∧ size + alignment ≤ 9223372036854775808 then
    some ⟨size, alignment⟩
  else none

/-- The sum of two sizes, if it is a number of 64 bits. -/
def addSizes? (m n : Nat) : Option Nat :=
  if m + n < 18446744073709551616 then some (m + n) else none

/-- The block of a string: its header, as many bytes as its capacity, and one zero byte. -/
def layoutFor (capacity : Nat) : Option Layout :=
  if maxCapacity < capacity then none
  else do
    let size ← addSizes? capacity (headerSize + 1)
    Layout.ofSize? size headerAlignment

/-- A capacity that a header can describe has a block: neither the size of the block nor the block
itself is ever refused. -/
theorem layoutFor_of_le {capacity : Nat} (h : capacity ≤ maxCapacity) :
    layoutFor capacity = some ⟨capacity + headerSize + 1, headerAlignment⟩ := by
  have hc : capacity ≤ 2147483647 := h
  have hsum : addSizes? capacity (headerSize + 1) = some (capacity + headerSize + 1) :=
    if_pos (show capacity + 9 < 18446744073709551616 by omega)
  have hblock : Layout.ofSize? (capacity + headerSize + 1) headerAlignment =
      some ⟨capacity + headerSize + 1, headerAlignment⟩ :=
    if_pos ⟨by decide, show capacity + 8 + 1 + 8 ≤ 9223372036854775808 by omega⟩
  rw [layoutFor, if_neg (Nat.not_lt.mpr h), hsum]
  exact hblock

/-- Nothing else has one. -/
theorem layoutFor_of_lt {capacity : Nat} (h : maxCapacity < capacity) :
    layoutFor capacity = none :=
  if_pos h

/-- Every capacity that an info word can hold has a block. -/
theorem isSome_layoutFor_of_capacityOf {info : UInt32} {capacity : Nat}
    (h : capacityOf info = some capacity) : (layoutFor capacity).isSome := by
  rw [layoutFor_of_le (capacityOf_le h)]
  rfl

/-! ## 3.  Strings and what they show -/

/-- A string with its header and its bytes. -/
structure Str where
  /-- The count word: how many owners there are besides the first. -/
  refcount : Int32
  /-- The info word: the capacity of an owned string, or the mark of a foreign one. -/
  info : UInt32
  /-- All bytes behind the header. -/
  storage : Array UInt8
  deriving DecidableEq

namespace Str

/-- The capacity of an owned string; a foreign one has none. -/
def ownedCapacity (s : Str) : Option Nat := capacityOf s.info

/-- The bytes in front of the first zero byte. -/
def visible (s : Str) : Bytes := Bytes.upToZero s.storage.toList

/-- The number of visible bytes. -/
def length (s : Str) : Nat := s.visible.length

/-- The capacity of an owned string, and the length of a foreign one. -/
def capacity (s : Str) : Nat := s.ownedCapacity.getD s.length

/-- The visible bytes with the zero byte behind them. -/
def terminated (s : Str) : Bytes := s.visible ++ [0]

/-- Nothing visible is a zero byte. -/
theorem zero_notMem_visible (s : Str) : (0 : UInt8) ∉ s.visible :=
  Bytes.zero_notMem_upToZero _

end Str

end CountedStrings
