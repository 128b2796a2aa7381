import CountedStrings.Host.Arguments
import CountedStrings.Interface.Counted

/-!
# Entry points for bytes without a header

The entry points of a compiler that has no strings with a header yet.  They look at no header even
where there is one: only a negative index fails, and where the bytes end is the caller's business.
An argument is handed on as it is, not copied.
-/

namespace CountedStrings

namespace Plain

/-- The entry of an argument vector itself. -/
def argument (argv : ArgumentVector) (index : Int) : Recorded (Option HostString) :=
  (argv.get index).orRecord none

/-- Writes the low byte of a number. -/
def setByte (pointer : Option Buffer) (index value : Int) : Recorded (Option Buffer) :=
  match pointer with
  | none => pure none
  | some buffer => (some <$> buffer.writeAt index (UInt8.ofInt value)).orRecord (some buffer)

/-- Reads a byte, and reports what was read even if nothing was. -/
def getByte (pointer : Option Buffer) (index : Int) : Recorded Int :=
  match pointer with
  | none => pure 0
  | some buffer => do
    let byte ← (buffer.readAt index).orRecord 0
    Recorded.report (.plainByteRead index byte)
    return signedByte byte

end Plain

end CountedStrings
