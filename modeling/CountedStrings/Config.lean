import CountedStrings.Host.Platform
import CountedStrings.Text.Blank
import CountedStrings.Text.Quoted

/-!
# Configuration

Two variables configure the library: one holds a log filter, the other says whether the log is
coloured.  White space at the ends of a value never counts.  A blank filter is no filter, and a
word that is neither a yes nor a no is no answer; in both cases the default stands.

`Config.ofLookup` is the whole rule.  It asks for the two variables and for nothing else.
-/

namespace CountedStrings

/-- What can be configured. -/
structure Config where
  platform : Platform
  /-- Which records are let through, as written. -/
  logFilter : String
  /-- Whether the log is coloured. -/
  logColours : Bool
  deriving DecidableEq

namespace Config

/-- The variable that holds the log filter. -/
def filterVariable : String := "WL_RUNTIME_LOG"

/-- The variable that says whether the log is coloured. -/
def coloursVariable : String := "WL_RUNTIME_LOG_ANSI"

/-- The variables that are asked for, in ascending order. -/
def variableNames : List String := [filterVariable, coloursVariable]

/-- The configuration of a process that configures nothing: warnings without colours. -/
def standard : Config := ⟨Platform.current, "warn", false⟩

/-- The filter in a value, unless it is blank. -/
def parseFilter? (value : String) : Option String :=
  let filter := Text.trim value
  if filter = "" then none else some filter

/-- The answer in a value, if it is one. -/
def parseFlag? (value : String) : Option Bool :=
  match Text.trim value with
  | "1" | "true" | "TRUE" | "yes" | "YES" => some true
  | "0" | "false" | "FALSE" | "no" | "NO" => some false
  | _ => none

/-- The configuration that the variables of a look-up give. -/
def ofLookup (lookup : String → Option String) : Config where
  platform := standard.platform
  logFilter := ((lookup filterVariable).bind parseFilter?).getD standard.logFilter
  logColours := ((lookup coloursVariable).bind parseFlag?).getD standard.logColours

/-- A truth value in words. -/
def printFlag : Bool → String
  | true => "true"
  | false => "false"

/-- The text that shows a configuration, for a filter in printable ASCII. -/
def display (c : Config) : String :=
  "RuntimeConfig \x7b platform: " ++ c.platform.name ++
    ", log_filter: " ++ String.ofList (Text.quote c.logFilter.toList) ++
    ", log_ansi: " ++ printFlag c.logColours ++ " \x7d"

end Config

end CountedStrings
