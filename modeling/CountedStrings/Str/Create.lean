import CountedStrings.Str.Access

/-!
# Making strings

Every new string gets its block from `reserve`, which refuses a capacity that no header can
describe before it asks the allocator, and refuses a block that the allocator does not have.

An allocator is described by the size of the largest block that it can hand out, and by the bytes
that stand in a block before anything is written to it.  About these bytes nothing is known but how
many they are: they are whatever the memory held before.

A new string has the count 0, the info word of its capacity, and exactly one byte more than its
capacity; that byte is zero.  There are two ways to get there.  `allocate` asks for a block of
zeros and is done.  `ofBytes` asks for any block, copies the given bytes into it, zeros among them
included, and writes the zero byte behind them.  The other ways of making a string read
zero-terminated bytes first.
-/

namespace CountedStrings

/-- What hands out memory. -/
structure Allocator where
  /-- The size of the largest block that can be handed out. -/
  limit : Nat
  /-- The bytes in a new block of a given size that nobody has written to. -/
  leftover : Nat → Array UInt8
  size_leftover : ∀ size, (leftover size).size = size

/-- An allocator whose new blocks are full of one byte. -/
def Allocator.filledWith (byte : UInt8) (limit : Nat) : Allocator where
  limit := limit
  leftover size := Array.replicate size byte
  size_leftover size := by simp

/-- Obtains the block for a string of the given capacity. -/
def reserve (allocator : Allocator) (capacity : Nat) : Outcome Layout :=
  match layoutFor capacity with
  | none => do
    Outcome.report (.capacityTooLarge capacity)
    Outcome.fail (.allocationFailed capacity)
  | some block =>
    if allocator.limit < block.size then do
      Outcome.report (.allocationRefused capacity block.size)
      Outcome.fail (.allocationFailed capacity)
    else do
      Outcome.report (.allocated capacity)
      return block

/-- Copies bytes one after the other into a buffer, from an index on. -/
def Buffer.copyFrom (buffer : Buffer) (index : Nat) : Bytes → Buffer
  | [] => buffer
  | byte :: rest => copyFrom (buffer.store index byte) (index + 1) rest

namespace Str

/-- A string of zeros. -/
def allocate (allocator : Allocator) (capacity : Nat) : Outcome Str := do
  let block ← reserve allocator capacity
  return ⟨0, ownedInfo capacity, Array.replicate (block.size - headerSize) 0⟩

/-- A string of the given bytes. -/
def ofBytes (allocator : Allocator) (bytes : Bytes) : Outcome Str := do
  let block ← reserve allocator bytes.length
  let copied := Buffer.copyFrom (allocator.leftover (block.size - headerSize)) 0 bytes
  return ⟨0, ownedInfo bytes.length, Buffer.store copied bytes.length 0⟩

/-- A string of the bytes in front of the first zero byte. -/
def ofCString (allocator : Allocator) (bytes : Bytes) : Outcome Str :=
  ofBytes allocator bytes.upToZero

/-- A copy of what a host address points to, if it points to anything. -/
def ofHost? (allocator : Allocator) : Option Bytes → Outcome (Option Str)
  | none => pure none
  | some bytes => some <$> ofCString allocator bytes

end Str

end CountedStrings
