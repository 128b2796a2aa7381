import CountedStrings.Interface.Plain
import CountedStrings.Program.Reply

/-!
# Calls on one string

The calls that need nothing but a string, on both sides of the border.

* `StrCall` are the calls of the library itself: each has an outcome.
* `PointerCall` are the calls through the entry points, which take an absent address too.  There
  are two sets of entry points, `Counted` and `Plain`; the second has no calls for owners.

A call leaves the string behind as it is now, or nothing if it freed it.
-/

namespace CountedStrings

/-! ## Calls of the library -/

/-- A call of the library on a string. -/
inductive StrCall where
  | describe
  | equals (bytes : Bytes)
  | byteAt (index : Nat)
  | setByteAt (index : Nat) (value : UInt8)
  | readAt (index : Int)
  | writeAt (index : Int) (value : UInt8)
  | capacity
  | refcount
  | retain
  | release
  /-- Several threads retain and release at the same time. -/
  | share (threads retains releases : Nat)

/-- Whether an access without a header stays inside a buffer.  Only an index below zero is checked
before memory is touched. -/
def Buffer.vouchesFor (buffer : Buffer) (index : Int) : Bool := index < buffer.size

/-- Whether an access stays inside a string or is turned away by its capacity. -/
def Str.vouchesFor (s : Str) (index : Int) : Bool :=
  Buffer.vouchesFor s.storage index || s.ownedCapacity.any fun _ => s.readBound ≤ index

namespace StrCall

/-- Whether a call touches nothing but the string. -/
def staysInside (s : Str) : StrCall → Bool
  | .byteAt index | .setByteAt index _ => s.vouchesFor (clampIndex index)
  | .readAt index | .writeAt index _ => s.vouchesFor index
  | _ => true

/-- What a call leaves behind and tells its caller. -/
def run (s : Str) : StrCall → Outcome (Option Str × Reply)
  | .describe => pure (some s, .description s.description)
  | .equals bytes => pure (some s, .flag (s.visible = bytes))
  | .byteAt index => do
    let byte ← s.byteAt index
    return (some s, .number byte.toNat)
  | .setByteAt index value => do
    let s ← s.setByteAt index value
    return (some s, .done)
  | .readAt index => do
    let byte ← s.readAt index
    return (some s, .number byte.toNat)
  | .writeAt index value => do
    let s ← s.writeAt index value
    return (some s, .done)
  | .capacity => pure (some s, .capacity s.ownedCapacity)
  | .refcount => pure (some s, .number s.refcount.toInt)
  | .retain => do
    let s ← s.retain
    return (some s, .done)
  | .release => do
    let left ← s.release
    return (left.remaining, .released left.remaining.isNone)
  | .share threads retains releases => do
    let left ← Str.shareBetween threads retains releases s
    return (left.remaining, .done)

end StrCall

/-! ## Calls through the entry points -/

/-- A set of entry points. -/
inductive Interface where
  | counted
  | plain
  deriving DecidableEq

/-- A call through an entry point on an address, which may be absent. -/
inductive PointerCall where
  | setByte (index value : Int)
  | getByte (index : Int)
  /-- Writes one byte after the other from an index on. -/
  | fill (index : Int) (bytes : Bytes)
  /-- Reads a number of bytes from an index on. -/
  | scan (index : Int) (count : Nat)
  | retain
  | release
  | refcount

/-- Writes one byte after the other from an index on. -/
def fillWith {α : Type} (set : α → Int → Int → Recorded α) (a : α) (index : Int) :
    Bytes → Recorded α
  | [] => pure a
  | byte :: rest => do
    let a ← set a index byte.toNat
    fillWith set a (index + 1) rest

/-- Reads a number of bytes from an index on. -/
def scanWith (get : Int → Recorded Int) (index : Int) : Nat → Recorded (List Int)
  | 0 => pure []
  | count + 1 => do
    let byte ← get index
    let bytes ← scanWith get (index + 1) count
    return byte :: bytes

namespace PointerCall

/-- Whether a call touches nothing but indices that are vouched for. -/
def staysInside (vouched : Int → Bool) : PointerCall → Bool
  | .setByte index _ | .getByte index => vouched index
  | .fill index bytes => (List.range bytes.length).all fun i => vouched (index + (i : Int))
  | .scan index count => (List.range count).all fun i => vouched (index + (i : Int))
  | .retain | .release | .refcount => true

/-- A call through the entry points for strings with a header. -/
def runCounted (pointer : Option Str) : PointerCall → Recorded (Option Str × Reply)
  | .setByte index value => do
    let pointer ← Counted.setByte pointer index value
    return (pointer, .done)
  | .getByte index => do
    let byte ← Counted.getByte pointer index
    return (pointer, .number byte)
  | .fill index bytes => do
    let pointer ← fillWith Counted.setByte pointer index bytes
    return (pointer, .done)
  | .scan index count => do
    let bytes ← scanWith (Counted.getByte pointer) index count
    return (pointer, .signedBytes bytes)
  | .retain => do
    let pointer ← Counted.retain pointer
    return (pointer, .done)
  | .release => do
    match ← Counted.release pointer with
    | none => return (none, .released false)
    | some left => return (left.remaining, .released left.remaining.isNone)
  | .refcount => pure (pointer, .number (Counted.refcount pointer))

/-- A call through the entry points for bytes without a header, if there is such an entry point. -/
def runPlain (pointer : Option Buffer) : PointerCall → Option (Recorded (Option Buffer × Reply))
  | .setByte index value => some do
    let pointer ← Plain.setByte pointer index value
    return (pointer, .done)
  | .getByte index => some do
    let byte ← Plain.getByte pointer index
    return (pointer, .number byte)
  | .fill index bytes => some do
    let pointer ← fillWith Plain.setByte pointer index bytes
    return (pointer, .done)
  | .scan index count => some do
    let bytes ← scanWith (Plain.getByte pointer) index count
    return (pointer, .signedBytes bytes)
  | .retain | .release | .refcount => none

end PointerCall

end CountedStrings
