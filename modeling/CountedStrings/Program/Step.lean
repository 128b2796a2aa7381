import CountedStrings.Program.Basic
import CountedStrings.Program.Call

/-!
# Steps of a process

A run is a list of steps, each taken by one thread while the others wait.  `Program.step` says what
a step answers and what state it leaves, and `Program.run` takes the steps of a list in turn.

The steps fall into groups: compiled code lays out memory by itself; strings are made and used,
through the library or through the entry points; failures are described, left in slots and read
back; configuration and logging are settled; the host is asked for something; and the environment
of the process changes.

What the host does when it is asked to remove a path or to run a command is its own business, and
all that comes back is a status.  The status is part of the step, and it may be any number of 32
bits.  A statement about all runs is therefore one about all hosts, whatever each of them answers.

A step whose strings are not of the kind that it needs is refused and changes nothing.
-/

namespace CountedStrings

/-- Where the library takes a new string from. -/
inductive Source where
  | zeros (capacity : Nat)
  | bytes (bytes : Bytes)
  | cString (bytes : Bytes)
  | host (bytes : Option Bytes)
  | variable (name : Bytes)
  | argument (index : Nat)
  | argumentOf (argv : ArgumentVector) (index : Int)

/-- Where the entry points take a new string from. -/
inductive CountedSource where
  | host (bytes : Option Bytes)
  | zeros (size : Int)
  | variable (name : Option Bytes)
  | argumentOf (argv : ArgumentVector) (index : Int)

/-- A step of a process. -/
inductive Step where
  /-- Compiled code lays out a string or a buffer. -/
  | place (name : String) (b : Binding)
  /-- Compiled code overwrites a count word. -/
  | poke (name : String) (refcount : Int32)
  | look (name : String)
  | make (name : String) (source : Source)
  | call (name : String) (c : StrCall)
  /-- Reads a byte without regard to a header. -/
  | readPlain (name : String) (index : Int)
  /-- Writes a byte without regard to a header. -/
  | writePlain (name : String) (index : Int) (value : UInt8)
  | makeThrough (name : String) (source : CountedSource)
  | callThrough (interface : Interface) (name : Option String) (c : PointerCall)
  /-- Reads an entry of an argument vector without copying it. -/
  | entry (argv : ArgumentVector) (index : Int)
  | entryThrough (argv : ArgumentVector) (index : Int)
  | wordError (error : StringError)
  | recordError (error : StringError)
  | orRecord (result : Except StringError Int) (neutral : Int)
  | readSlot
  | readSlotThrough
  | clearSlot
  /-- The configuration that given variables would give. -/
  | configOf (given : Table String String)
  | configNow
  | configStandard
  | configInForce
  | setUpLogging (filter : String) (colours : Bool)
  /-- Sets logging up with the configuration in force. -/
  | setUpProgram
  /-- The embedding program installs a receiver of its own. -/
  | embed
  | isWindowsHost
  | isWindowsThrough
  /-- The host removes a path and answers with a status. -/
  | remove (path : Bytes) (status : Int32)
  | removeThrough (path : Option Bytes) (status : Int32)
  /-- The host runs a command, or tells whether it can run any, and answers with a status. -/
  | runCommand (command : Option Bytes) (status : Int32)
  | setVariable (name value : Bytes)
  | unsetVariable (name : Bytes)

/-- The name that a step is about. -/
def Step.subject : Step → Option String
  | .place name _ | .poke name _ | .look name | .make name _ | .call name _ | .readPlain name _
  | .writePlain name _ _ | .makeThrough name _ => some name
  | .callThrough _ name _ => name
  | _ => none

/-- What a step does: its result, the state it leaves, and what it reports. -/
structure Effect where
  result : Except StringError Reply
  after : Program
  events : List Event

/-- What a step answers. -/
structure Answer where
  result : Except StringError Reply
  /-- The code in the slot of the thread after the step. -/
  last : ErrorCode
  events : List Event
  /-- What the name that the step is about stands for after the step. -/
  subject : Option Binding
  /-- The lines printed for the events. -/
  lines : List String

namespace Effect

/-- A reply, and nothing else happens. -/
def tell (p : Program) (reply : Reply) : Effect := ⟨.ok reply, p, []⟩

/-- The step makes no sense here. -/
def refuse (p : Program) : Effect := tell p (.refused .mismatch)

/-- The step would touch memory that nothing vouches for. -/
def refuseOutside (p : Program) : Effect := tell p (.refused .outsideStorage)

end Effect

namespace Program

/-! ## Making strings -/

/-- The string from a source of the library. -/
def build (p : Program) : Source → Outcome (Option Str)
  | .zeros capacity => some <$> Str.allocate p.allocator capacity
  | .bytes bytes => some <$> Str.ofBytes p.allocator bytes
  | .cString bytes => some <$> Str.ofCString p.allocator bytes
  | .host bytes => Str.ofHost? p.allocator bytes
  | .variable name => p.environment.copy p.allocator name
  | .argument index => copyArgument p.allocator p.arguments index
  | .argumentOf argv index => argv.copy p.allocator index

/-- The string from a source of the entry points. -/
def buildThrough (p : Program) : CountedSource → Recorded (Option Str)
  | .host bytes => Counted.ofHost p.allocator bytes
  | .zeros size => Counted.allocate p.allocator size
  | .variable name => Counted.ofVariable p.allocator p.environment name
  | .argumentOf argv index => Counted.ofArgument p.allocator argv index

/-- Lets a name stand for a new string, or for an absent address. -/
def bindNew (p : Program) (name : String) (s : Option Str) : Program :=
  s.elim (p.bind name .null) (p.bindMade name)

/-- Makes a string under a name that is free.  A failure leaves an absent address. -/
def make (p : Program) (name : String) (source : Source) : Effect :=
  if p.isFree name then
    let x := p.build source
    match x.result with
    | .ok s => ⟨.ok (.made s.isSome), p.bindNew name s, x.events⟩
    | .error error => ⟨.error error, p.bindNew name none, x.events⟩
  else .refuse p

/-- Makes a string under a name that is free, through an entry point. -/
def makeThrough (p : Program) (thread : Nat) (name : String) (source : CountedSource) : Effect :=
  if p.isFree name then
    let x := p.buildThrough source
    ⟨.ok (.made x.value.isSome), (p.bindNew name x.value).absorb thread x.code, x.events⟩
  else .refuse p

/-! ## Using strings -/

/-- Lets a name stand for what a call left of a string, or forgets it if nothing is left. -/
def leave (p : Program) (name : String) : Option Str → Program
  | none => p.unbind name
  | some s => p.bind name (.counted s)

/-- A call of the library on a string with a header. -/
def call (p : Program) (name : String) (c : StrCall) : Effect :=
  match p.binding? name with
  | some (.counted s) =>
    if c.staysInside s then
      let x := c.run s
      match x.result with
      | .ok (left, reply) => ⟨.ok reply, p.leave name left, x.events⟩
      | .error error => ⟨.error error, p, x.events⟩
    else .refuseOutside p
  | _ => .refuse p

/-- The bytes that a binding gives to a call without regard to a header. -/
def buffer? : Binding → Option Buffer
  | .null => none
  | .counted s => some s.storage
  | .plain buffer => some buffer

/-- A binding with other bytes. -/
def withBuffer (b : Binding) (buffer : Buffer) : Binding :=
  match b with
  | .null => .null
  | .counted s => .counted (s.withStorage buffer)
  | .plain _ => .plain buffer

/-- Reads a byte without regard to a header. -/
def readPlain (p : Program) (name : String) (index : Int) : Effect :=
  match (p.binding? name).bind buffer? with
  | none => .refuse p
  | some buffer =>
    if buffer.vouchesFor index then
      let x := buffer.readAt index
      ⟨x.result.map fun byte => .number byte.toNat, p, x.events⟩
    else .refuseOutside p

/-- Writes a byte without regard to a header. -/
def writePlain (p : Program) (name : String) (index : Int) (value : UInt8) : Effect :=
  match p.binding? name with
  | none => .refuse p
  | some b =>
    match buffer? b with
    | none => .refuse p
    | some buffer =>
      if buffer.vouchesFor index then
        let x := buffer.writeAt index value
        match x.result with
        | .ok buffer => ⟨.ok .done, p.bind name (withBuffer b buffer), x.events⟩
        | .error error => ⟨.error error, p, x.events⟩
      else .refuseOutside p

/-- The binding that a call through an entry point gets: an absent name is an absent address. -/
def pointee (p : Program) : Option String → Option Binding
  | none => some .null
  | some name => p.binding? name

/-- A call through the entry points for strings with a header. -/
def callCounted (p : Program) (thread : Nat) (name : Option String) (c : PointerCall) : Effect :=
  match p.pointee name, name with
  | some .null, _ =>
    let x := c.runCounted none
    ⟨.ok x.value.2, p.absorb thread x.code, x.events⟩
  | some (.counted s), some name =>
    if c.staysInside s.vouchesFor then
      let x := c.runCounted (some s)
      ⟨.ok x.value.2, (p.leave name x.value.1).absorb thread x.code, x.events⟩
    else .refuseOutside p
  | _, _ => .refuse p

/-- A call through the entry points for bytes without a header. -/
def callPlain (p : Program) (thread : Nat) (name : Option String) (c : PointerCall) : Effect :=
  match p.pointee name with
  | none => .refuse p
  | some b =>
    match c.runPlain (buffer? b), (buffer? b).all fun buffer => c.staysInside buffer.vouchesFor with
    | none, _ => .refuse p
    | some _, false => .refuseOutside p
    | some x, true =>
      let after :=
        match name, x.value.1 with
        | some name, some buffer => p.bind name (withBuffer b buffer)
        | _, _ => p
      ⟨.ok x.value.2, after.absorb thread x.code, x.events⟩

/-! ## Configuration and logging -/

/-- Sets logging up. -/
def setUpLogging (p : Program) (c : Config) : Program × Bool × List Event :=
  let (logging, answer, events) := p.logging.setUp p.package c
  ({ p with logging := logging }, answer, events)

/-! ## The host -/

/-- Removes a path and hands the status of the host on. -/
def remove (p : Program) (path : Bytes) (status : Int32) : Effect :=
  ⟨.ok (.number status.toInt), p, [.pathRemoved path.upToZero status.toInt]⟩

/-- Runs a command and hands the status of the host on.  Without a command, the status tells whether
the host can run commands. -/
def runCommand (p : Program) (command : Option Bytes) (status : Int32) : Effect :=
  let events := [.commandRun (command.map Bytes.upToZero) status.toInt]
  match command with
  | none => ⟨.ok (.flag (status ≠ 0)), p, events⟩
  | some _ => ⟨.ok (.number status.toInt), p, events⟩

/-! ## Steps -/

/-- What a step of a thread does. -/
def effect (p : Program) (thread : Nat) : Step → Effect
  | .place name b => if p.isFree name then .tell (p.bind name b) .done else .refuse p
  | .poke name refcount =>
    match p.binding? name with
    | some (.counted s) => .tell (p.bind name (.counted (s.withRefcount refcount))) .done
    | _ => .refuse p
  | .look _ => .tell p .done
  | .make name source => p.make name source
  | .call name c => p.call name c
  | .readPlain name index => p.readPlain name index
  | .writePlain name index value => p.writePlain name index value
  | .makeThrough name source => p.makeThrough thread name source
  | .callThrough .counted name c => p.callCounted thread name c
  | .callThrough .plain name c => p.callPlain thread name c
  | .entry argv index =>
    let x := argv.get index
    ⟨x.result.map .entry, p, x.events⟩
  | .entryThrough argv index =>
    let x := Plain.argument argv index
    ⟨.ok (.entry x.value), p.absorb thread x.code, x.events⟩
  | .wordError error => .tell p (.wording error.message error.detail error.code)
  | .recordError error => .tell (p.absorb thread error.code) .done
  | .orRecord result neutral =>
    let x := (Outcome.mk result []).orRecord neutral
    ⟨.ok (.number x.value), p.absorb thread x.code, x.events⟩
  | .readSlot => .tell p (.code (p.slots.read thread))
  | .readSlotThrough => .tell p (.number (p.slots.read thread).toInt)
  | .clearSlot => .tell (p.absorb thread (some .none)) .done
  | .configOf given => .tell p (.lookedUp (.ofLookup given.get?) Config.variableNames)
  | .configNow => .tell p (.config p.configNow)
  | .configStandard => .tell p (.standard Config.standard)
  | .configInForce => .tell p.settleConfig (.config p.configInForce)
  | .setUpLogging filter colours =>
    let (p, answer, events) := p.setUpLogging ⟨Platform.current, filter, colours⟩
    ⟨.ok (.flag answer), p, events⟩
  | .setUpProgram =>
    let (p, _, events) := p.settleConfig.setUpLogging p.configInForce
    ⟨.ok .done, p, events⟩
  | .embed =>
    let (logging, installed) := p.logging.subscribe .embedding
    .tell { p with logging := logging } (.flag installed)
  | .isWindowsHost => .tell p.settleConfig (.flag p.configInForce.platform.isWindows)
  | .isWindowsThrough =>
    .tell p.settleConfig (.number (if p.configInForce.platform.isWindows then 1 else 0))
  | .remove path status => p.remove path status
  | .removeThrough none _ => .tell p (.number (-1))
  | .removeThrough (some path) status => p.remove path status
  | .runCommand command status => p.runCommand command status
  | .setVariable name value =>
    .tell { p with environment := p.environment.set name value } .done
  | .unsetVariable name => .tell { p with environment := p.environment.unset name } .done

/-- What a step of a thread answers, and the state it leaves. -/
def step (p : Program) (thread : Nat) (s : Step) : Answer × Program :=
  let e := p.effect thread s
  (⟨e.result, e.after.slots.read thread, e.events, s.subject.bind e.after.binding?,
    e.after.printed e.events⟩, e.after)

/-- Takes the steps of a list in turn, each on its thread. -/
def run (p : Program) : List (Nat × Step) → List Answer × Program
  | [] => ([], p)
  | (thread, s) :: rest =>
    let (answer, p) := p.step thread s
    let (answers, p) := run p rest
    (answer :: answers, p)

/-! ## The end -/

/-- What the end of a process reports: each string of the library that a name still stands for is
freed, in the order of the names. -/
def closingEvents (p : Program) : List Event :=
  let made := p.strings.entries.filter fun entry => p.made.contains entry.1
  let byName := made.mergeSort (fun a b => decide (a.1 ≤ b.1))
  byName.filterMap fun entry =>
    match entry.2 with
    | .counted s => s.ownedCapacity.map Event.freed
    | _ => none

/-- The lines that are printed at the end of a process. -/
def closingLines (p : Program) : List String := p.printed p.closingEvents

end Program

end CountedStrings
