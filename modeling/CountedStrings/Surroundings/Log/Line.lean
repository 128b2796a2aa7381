import CountedStrings.Log.Record

/-!
# Lines of the log

One record is printed on one line: the moment, the level in five columns, the target, the message
and the values.  With colours, the moment and the punctuation are dim, the level has a colour of
its own, and the names of the values are slanted.
-/

namespace CountedStrings

namespace Log

/-- How a part of a line is set off on a terminal, by the number of its rendition. -/
inductive Rendition where
  | dim
  | slanted
  | red
  | green
  | yellow
  | blue
  | purple
  deriving DecidableEq

/-- The number of a rendition in a control sequence. -/
def Rendition.number : Rendition → Nat
  | .dim => 2
  | .slanted => 3
  | .red => 31
  | .green => 32
  | .yellow => 33
  | .blue => 34
  | .purple => 35

/-- A text set off from what surrounds it, where colours are wanted. -/
def setOff (colours : Bool) (rendition : Rendition) (text : String) : String :=
  if colours then s!"\x1b[{rendition.number}m{text}\x1b[0m" else text

/-- The colour of a level. -/
def levelRendition : Level → Rendition
  | .error => .red
  | .warn => .yellow
  | .info => .green
  | .debug => .blue
  | .trace => .purple

/-- The word for a level, pushed to the right of five columns. -/
def levelColumn (level : Level) : String :=
  if level.name.length < 5 then " " ++ level.name else level.name

/-- A named value. -/
def printField (colours : Bool) (name : String) (value : FieldValue) : String :=
  setOff colours .slanted name ++ setOff colours .dim "=" ++ value.print

/-- The line of a record at the given moment. -/
def line (colours : Bool) (moment : String) (record : Record) : String :=
  setOff colours .dim moment ++ " " ++
    setOff colours (levelRendition record.level) (levelColumn record.level) ++ " " ++
    setOff colours .dim record.target ++ setOff colours .dim ":" ++ " " ++
    " ".intercalate
      (record.message :: record.fields.map fun field => printField colours field.1 field.2)

end Log

end CountedStrings
