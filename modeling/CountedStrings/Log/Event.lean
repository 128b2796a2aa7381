import CountedStrings.Bytes
import CountedStrings.Host.Platform

/-!
# What happens, as the log sees it

An `Event` is a fact about one call, with the numbers and byte strings that belong to it.  How an
event is worded is the business of `CountedStrings.Log.Record`; here it only has a level, which is
all that laws about failures need: a call fails if and only if it reports a `warn` or an `error`.
-/

namespace CountedStrings

/-- How much an event matters, from the gravest to the least. -/
inductive Level where
  | error
  | warn
  | info
  | debug
  | trace
  deriving DecidableEq

namespace Level

/-- The number of a level: the larger it is, the more talkative the level. -/
def verbosity : Level → Nat
  | .error => 1
  | .warn => 2
  | .info => 3
  | .debug => 4
  | .trace => 5

/-- The word for a level. -/
def name : Level → String
  | .error => "ERROR"
  | .warn => "WARN"
  | .info => "INFO"
  | .debug => "DEBUG"
  | .trace => "TRACE"

end Level

/-- A fact that is worth a line of the log. -/
inductive Event where
  /-- A string of some capacity came into being. -/
  | allocated (capacity : Nat)
  /-- A string was asked for that no header can describe. -/
  | capacityTooLarge (capacity : Nat)
  /-- The allocator had no block of the given size. -/
  | allocationRefused (capacity size : Nat)
  /-- A string has one more owner, and the given count. -/
  | retained (refcount : Int)
  /-- A string has one owner less, and the given count. -/
  | referenceReleased (refcount : Int)
  /-- The last owner of a string gave it up. -/
  | freed (capacity : Nat)
  /-- A byte or an argument was asked for outside `0..bound`. -/
  | indexOutOfBounds (index : Int) (bound : Nat)
  /-- A string was asked for with a size below zero. -/
  | negativeSize (size : Int)
  /-- A byte was read without regard to a header. -/
  | plainByteRead (index : Int) (byte : UInt8)
  /-- A path was removed, or not, with the given status. -/
  | pathRemoved (path : Bytes) (status : Int)
  /-- A command ran and ended with the given status. -/
  | commandRun (command : Option Bytes) (status : Int)
  /-- A variable of the environment was looked up. -/
  | variableRead (name : Bytes) (found : Bool)
  /-- An argument was looked up. -/
  | argumentRead (index : Int) (present : Bool)
  /-- The filter asked for was no filter. -/
  | filterIgnored (reason filter : String)
  /-- Logging was set up for the first time. -/
  | loggingInitialized (installed : Bool) (platform : Platform)
  deriving DecidableEq

namespace Event

/-- The level of an event. -/
def level : Event → Level
  | .capacityTooLarge _ | .allocationRefused _ _ => .error
  | .indexOutOfBounds _ _ | .negativeSize _ | .filterIgnored _ _ => .warn
  | .pathRemoved _ _ | .commandRun _ _ | .variableRead _ _ | .argumentRead _ _
  | .loggingInitialized _ _ => .debug
  | .allocated _ | .retained _ | .referenceReleased _ | .freed _ | .plainByteRead _ _ => .trace

/-- Whether an event reports that something is wrong. -/
def isAlarm (event : Event) : Bool :=
  event.level.verbosity ≤ Level.warn.verbosity

end Event

end CountedStrings
