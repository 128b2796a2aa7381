import CountedStrings.Log.Event
import CountedStrings.Text.Quoted

/-!
# Records

A `Record` is an event put into words: its level, the part of the library it comes from (its
*target*), a message, and named values in a fixed order.  Byte strings of the host are quoted, so a
record never breaks the line it is printed on.
-/

namespace CountedStrings

/-- A value in a record. -/
inductive FieldValue where
  | number (n : Int)
  | flag (b : Bool)
  | text (t : String)
  deriving DecidableEq

/-- A value as it is printed. -/
def FieldValue.print : FieldValue → String
  | .number n => toString n
  | .flag true => "true"
  | .flag false => "false"
  | .text t => t

/-- An event in words. -/
structure Record where
  level : Level
  target : String
  message : String
  fields : List (String × FieldValue)
  deriving DecidableEq

namespace Event

/-- The part of the library that an event comes from. -/
def target : Event → String
  | .allocated _ | .capacityTooLarge _ | .allocationRefused _ _ | .retained _
  | .referenceReleased _ | .freed _ => "wl_core::managed"
  | .indexOutOfBounds _ _ => "wl_core::plain"
  | .negativeSize _ => "wl_runtime"
  | .plainByteRead _ _ => "wlc_helper"
  | .pathRemoved _ _ | .commandRun _ _ | .variableRead _ _ | .argumentRead _ _ => "wl_core::host"
  | .filterIgnored _ _ | .loggingInitialized _ _ => "wl_core::logging"

/-- What happened, in a few words. -/
def message : Event → String
  | .allocated _ => "allocated string"
  | .capacityTooLarge _ => "string capacity exceeds the header limit"
  | .allocationRefused _ _ => "string allocation failed"
  | .retained _ => "retained string"
  | .referenceReleased _ => "released string reference"
  | .freed _ => "freed string"
  | .indexOutOfBounds _ _ => "byte index out of bounds"
  | .negativeSize _ => "negative string size"
  | .plainByteRead _ _ => "plain byte read"
  | .pathRemoved _ _ => "remove"
  | .commandRun _ _ => "system"
  | .variableRead _ _ => "getenv"
  | .argumentRead _ _ => "argv"
  | .filterIgnored _ _ => "ignoring invalid log filter"
  | .loggingInitialized _ _ => "runtime logging initialized"

/-- A command as it is printed: quoted, or the absence of one. -/
def printCommand : Option Bytes → String
  | none => "None"
  | some command => "Some(" ++ Text.quoteBytes command ++ ")"

/-- The numbers and texts of an event, each with its name. -/
def fields : Event → List (String × FieldValue)
  | .allocated capacity | .capacityTooLarge capacity | .freed capacity =>
    [("capacity", .number capacity)]
  | .allocationRefused capacity size => [("capacity", .number capacity), ("size", .number size)]
  | .retained refcount | .referenceReleased refcount => [("refcount", .number refcount)]
  | .indexOutOfBounds index bound => [("index", .number index), ("bound", .number bound)]
  | .negativeSize size => [("size", .number size)]
  | .plainByteRead index byte => [("idx", .number index), ("byte", .number byte.toNat)]
  | .pathRemoved path status =>
    [("path", .text (Text.quoteBytes path)), ("status", .number status)]
  | .commandRun command status =>
    [("command", .text (printCommand command)), ("status", .number status)]
  | .variableRead name found => [("name", .text (Text.quoteBytes name)), ("found", .flag found)]
  | .argumentRead index present => [("index", .number index), ("present", .flag present)]
  | .filterIgnored reason filter => [("error", .text reason), ("filter", .text filter)]
  | .loggingInitialized installed platform =>
    [("installed", .flag installed), ("platform", .text platform.name)]

/-- The record of an event. -/
def record (event : Event) : Record :=
  ⟨event.level, event.target, event.message, event.fields⟩

end Event

end CountedStrings
