import CountedStrings.Host.Arguments
import CountedStrings.Host.Variables
import CountedStrings.Interface.Recorded
import CountedStrings.Str.Count

/-!
# Entry points for strings with a header

The entry points that compiled programs use.  Every one accepts an absent address and does nothing
with it, and every failure ends in a neutral value and a code in the slot.

Values of bytes cross the border as whole numbers.  On the way in only the low byte of a number
counts; on the way out a byte is a number from -128 to 127.
-/

namespace CountedStrings

/-- A byte as a number from -128 to 127. -/
def signedByte (b : UInt8) : Int := b.toInt8.toInt

namespace Counted

/-! ## Making strings -/

/-- Makes a copy of what a host address points to. -/
def ofHost (allocator : Allocator) (bytes : Option Bytes) : Recorded (Option Str) :=
  (Str.ofHost? allocator bytes).orRecord none

/-- Makes a string of zeros, unless the size is negative. -/
def allocateSigned (allocator : Allocator) (size : Int) : Outcome Str :=
  if size < 0 then do
    Outcome.report (.negativeSize size)
    Outcome.fail (.negativeSize size)
  else Str.allocate allocator size.toNat

/-- Makes a string of zeros. -/
def allocate (allocator : Allocator) (size : Int) : Recorded (Option Str) :=
  (some <$> allocateSigned allocator size).orRecord none

/-- Makes a copy of what the environment holds under a name, if there is a name. -/
def ofVariable (allocator : Allocator) (environment : Environment) :
    Option Bytes → Recorded (Option Str)
  | none => pure none
  | some name => (environment.copy allocator name).orRecord none

/-- Makes a copy of an entry of an argument vector. -/
def ofArgument (allocator : Allocator) (argv : ArgumentVector) (index : Int) :
    Recorded (Option Str) :=
  (argv.copy allocator index).orRecord none

/-! ## Bytes -/

/-- Writes the low byte of a number. -/
def setByte (pointer : Option Str) (index value : Int) : Recorded (Option Str) :=
  match pointer with
  | none => pure none
  | some s => (some <$> s.writeAt index (UInt8.ofInt value)).orRecord (some s)

/-- Reads a byte. -/
def getByte (pointer : Option Str) (index : Int) : Recorded Int :=
  match pointer with
  | none => pure 0
  | some s => signedByte <$> (s.readAt index).orRecord 0

/-! ## Owners -/

/-- Adds an owner. -/
def retain (pointer : Option Str) : Recorded (Option Str) :=
  match pointer with
  | none => pure none
  | some s => (some <$> s.retain).orRecord (some s)

/-- Takes an owner away; there is nothing to free at an absent address. -/
def release (pointer : Option Str) : Recorded (Option Release) :=
  match pointer with
  | none => pure none
  | some s => (some <$> s.release).orRecord none

/-- The count of a string. -/
def refcount (pointer : Option Str) : Int :=
  match pointer with
  | none => 0
  | some s => s.refcount.toInt

end Counted

end CountedStrings
