import CountedStrings.Str.Basic

/-!
# Reading and writing single bytes

All access to the bytes of a string goes through `checkedIndex`, which accepts an index inside
`0..bound` and reports and refuses every other one.  What differs is the bound.

* A *buffer* has no header, so nothing but the size of the address space bounds its indices
  (`addressBound`); keeping them inside the buffer is the caller's promise.
* An *owned* string of capacity `c` can be read at `0..c` and written at `0..c-1`.  Index `c` holds
  the zero byte that ends the string.  Writing a zero there changes nothing and is allowed.
* A *foreign* string is treated as a buffer.

`readAt` and `writeAt` take a signed index, `byteAt` and `setByteAt` an unsigned one.  An unsigned
index that is too large for a signed one is taken to be the largest signed one, which no bound
accepts.
-/

namespace CountedStrings

/-- The exclusive bound of everything that is not bounded by a capacity, and the largest signed
index. -/
def addressBound : Nat := 9223372036854775807

/-- Accepts an index inside `0..bound`; reports and refuses any other. -/
def checkedIndex (index : Int) (bound : Nat) : Outcome Nat :=
  if 0 ≤ index ∧ index < bound then
    pure index.toNat
  else do
    Outcome.report (.indexOutOfBounds index bound)
    Outcome.fail (.invalidIndex index bound)

/-- An accepted index is passed on as it is, without a report. -/
theorem checkedIndex_of_mem {index : Int} {bound : Nat} (h : 0 ≤ index ∧ index < bound) :
    checkedIndex index bound = pure index.toNat := by
  rw [checkedIndex, if_pos h]

/-- A refused index is reported once. -/
theorem checkedIndex_of_notMem {index : Int} {bound : Nat} (h : ¬(0 ≤ index ∧ index < bound)) :
    checkedIndex index bound =
      ⟨.error (.invalidIndex index bound), [.indexOutOfBounds index bound]⟩ := by
  rw [checkedIndex, if_neg h]
  rfl

/-- The largest signed index stands for all unsigned ones that exceed it. -/
def clampIndex (index : Nat) : Int := min index addressBound

/-- Bytes at an address, without a header in front. -/
abbrev Buffer := Array UInt8

namespace Buffer

/-- The byte at an index, and zero where the buffer has ended. -/
def load (buffer : Buffer) (index : Nat) : UInt8 := buffer[index]?.getD 0

/-- The buffer with one byte replaced, if it has that byte. -/
def store (buffer : Buffer) (index : Nat) (value : UInt8) : Buffer :=
  buffer.setIfInBounds index value

@[simp] theorem size_store (buffer : Buffer) (i : Nat) (value : UInt8) :
    (buffer.store i value).size = buffer.size := by
  simp [store]

/-- Reads the byte at a signed index. -/
def readAt (buffer : Buffer) (index : Int) : Outcome UInt8 := do
  let i ← checkedIndex index addressBound
  return buffer.load i

/-- Writes a byte at a signed index. -/
def writeAt (buffer : Buffer) (index : Int) (value : UInt8) : Outcome Buffer := do
  let i ← checkedIndex index addressBound
  return buffer.store i value

end Buffer

namespace Str

/-- The string with other bytes behind the same header. -/
def withStorage (s : Str) (storage : Array UInt8) : Str := ⟨s.refcount, s.info, storage⟩

/-- The exclusive bound of the indices that can be read. -/
def readBound (s : Str) : Nat :=
  match s.ownedCapacity with
  | some capacity => capacity + 1
  | none => addressBound

/-- The exclusive bound of the indices at which a byte can be written. -/
def writeBound (s : Str) (value : UInt8) : Nat :=
  match s.ownedCapacity with
  | some capacity => if value = 0 then capacity + 1 else capacity
  | none => addressBound

/-- Reads the byte at a signed index. -/
def readAt (s : Str) (index : Int) : Outcome UInt8 := do
  let i ← checkedIndex index s.readBound
  return Buffer.load s.storage i

/-- Writes a byte at a signed index. -/
def writeAt (s : Str) (index : Int) (value : UInt8) : Outcome Str := do
  let i ← checkedIndex index (s.writeBound value)
  return s.withStorage (Buffer.store s.storage i value)

/-- Reads the byte at an unsigned index. -/
def byteAt (s : Str) (index : Nat) : Outcome UInt8 :=
  s.readAt (clampIndex index)

/-- Writes a byte at an unsigned index. -/
def setByteAt (s : Str) (index : Nat) (value : UInt8) : Outcome Str :=
  s.writeAt (clampIndex index) value

end Str

end CountedStrings
