import CountedStrings.Str.Basic
import CountedStrings.Text.Quoted

/-!
# Strings for human eyes

The text that shows a string to a programmer: its visible bytes spelled in printable ASCII and
quoted, its capacity and its count.
-/

namespace CountedStrings

namespace Str

/-- The text for a string with the given visible bytes, capacity and count. -/
def displayOf (visible : Bytes) (capacity : Nat) (refcount : Int) : List Char :=
  "ManagedString \x7b bytes: ".toList ++ Text.quote (Text.escapeBytes visible) ++
    ", capacity: ".toList ++ (toString capacity).toList ++
    ", refcount: ".toList ++ (toString refcount).toList ++ " \x7d".toList

/-- The text that shows a string. -/
def display (s : Str) : String :=
  String.ofList (displayOf s.visible s.capacity s.refcount.toInt)

end Str

end CountedStrings
