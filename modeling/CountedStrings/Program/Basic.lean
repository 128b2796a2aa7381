import CountedStrings.Host.Variables
import CountedStrings.Interface.Recorded
import CountedStrings.Log.Setup
import CountedStrings.Str.Access

/-!
# The state of a process

Everything that a call can depend on or change: the strings that compiled code holds, under the
names by which it knows them, the slots of the threads, what the process was handed at its start,
and the two decisions that are taken once, on the configuration and on the receiver of the log.

Three of the things it is handed are not this library's own, and nothing is built in about them:
the allocator, the environment and the package that prints the log.  They come in through
`Program.start`, so what holds of every process holds whatever they are.
-/

namespace CountedStrings

/-- What a name of compiled code stands for. -/
inductive Binding where
  /-- An absent address. -/
  | null
  /-- A string with a header. -/
  | counted (s : Str)
  /-- Bytes without a header. -/
  | plain (buffer : Buffer)
  deriving DecidableEq

/-- The state of a process. -/
structure Program where
  /-- What compiled code holds. -/
  strings : Table String Binding
  /-- The names of the strings that the library made. -/
  made : List String
  slots : Slots
  allocator : Allocator
  environment : Environment
  /-- The arguments that the process was started with. -/
  arguments : List Bytes
  /-- The configuration, once something needed it. -/
  config : Option Config
  logging : Logging
  /-- What filters and prints the log. -/
  package : LogPackage
  /-- Whether a recorder takes all events, so that none is printed. -/
  recorder : Bool

namespace Program

/-- A process that holds nothing and has done nothing. -/
def start (allocator : Allocator) (environment : Environment) (arguments : List Bytes)
    (package : LogPackage) (recorder : Bool) : Program where
  strings := ∅
  made := []
  slots := Slots.initial
  allocator := allocator
  environment := environment
  arguments := arguments
  config := none
  logging := Logging.initial
  package := package
  recorder := recorder

/-- What a name stands for. -/
def binding? (p : Program) (name : String) : Option Binding := p.strings.get? name

/-- Lets a name stand for something. -/
def bind (p : Program) (name : String) (b : Binding) : Program :=
  { p with strings := p.strings.insert name b }

/-- Lets a name stand for a string that the library made. -/
def bindMade (p : Program) (name : String) (s : Str) : Program :=
  { p with strings := p.strings.insert name (.counted s), made := name :: p.made }

/-- Forgets a name. -/
def unbind (p : Program) (name : String) : Program :=
  { p with strings := p.strings.erase name, made := p.made.filter (· ≠ name) }

/-- Whether a name is free to be bound: unbound, or bound to an absent address. -/
def isFree (p : Program) (name : String) : Bool :=
  match p.binding? name with
  | none | some .null => true
  | some _ => false

/-- Puts the code of a call into the slot of a thread, if the call left one. -/
def absorb (p : Program) (thread : Nat) (code : Option ErrorCode) : Program :=
  { p with slots := p.slots.absorb thread code }

/-- The configuration that the environment gives at this moment. -/
def configNow (p : Program) : Config := Config.ofLookup p.environment.lookupText

/-- The configuration in force: the one that the environment gave when it was first needed. -/
def configInForce (p : Program) : Config := p.config.getD p.configNow

/-- Needs the configuration, and so settles it. -/
def settleConfig (p : Program) : Program := { p with config := some p.configInForce }

/-- The lines that are printed for some events. -/
def printed (p : Program) (events : List Event) : List String :=
  if p.recorder then [] else events.flatMap (p.logging.printed p.package)

end Program

end CountedStrings
