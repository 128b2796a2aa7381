import CountedStrings.Host.Environment
import CountedStrings.Str.Create

/-!
# Copies of variables

What the environment holds under a name, as a new string.  The look-up is reported before the
string is made, so it is reported even if there is no memory for the string.
-/

namespace CountedStrings

namespace Environment

/-- Copies the value found under a zero-terminated name into a new string. -/
def copy (e : Environment) (allocator : Allocator) (name : Bytes) : Outcome (Option Str) := do
  let value := e.lookup name.upToZero
  Outcome.report (.variableRead name.upToZero value.isSome)
  match value with
  | none => return none
  | some value => some <$> Str.ofBytes allocator value

end Environment

end CountedStrings
