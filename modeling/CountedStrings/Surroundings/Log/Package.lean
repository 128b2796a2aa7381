import CountedStrings.Log.Setup
import CountedStrings.Surroundings.Log.Filter
import CountedStrings.Surroundings.Log.Line

/-!
# One package that prints the log

A `LogPackage` whose filters are lists of directives and whose lines begin with a given moment.  It
reads a filter anew for each record.
-/

namespace CountedStrings

namespace LogPackage

/-- The package that filters by directives and prints one fixed moment on every line. -/
def directives (moment : String) : LogPackage where
  refusal? text :=
    match Filter.parse text with
    | .ok _ => none
    | .error reason => some reason.message
  admits text record :=
    match Filter.parse text with
    | .ok filter => filter.admits record
    | .error _ => false
  lines colours record := (Log.line colours moment record).splitOn "\n"

end LogPackage

end CountedStrings
