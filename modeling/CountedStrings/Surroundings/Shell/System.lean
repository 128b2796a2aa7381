import CountedStrings.Surroundings.Shell.Evaluation

/-!
# Commands of the host

`system` gives a text to a fresh command interpreter, with nothing to read and with its output lost,
and waits for it.  What the host answers is the *wait status*: 256 times the status with which the
interpreter exited, or the number of the signal that killed it.  Beside that, what the interpreter
said is kept.
-/

namespace CountedStrings.Shell

/-- The number of a fresh interpreter among all processes. -/
def firstNumber : Nat := 4242

/-- The variables in an environment as texts with one character per byte. -/
def environmentEntries (e : Environment) : List (String × String) :=
  e.vars.entries.map fun (name, value) => (Bytes.toByteText name, Bytes.toByteText value)

/-- The node that a fresh interpreter says things into, and a state with it that is the parent's. -/
def hostState (environment : Environment) (files : FileSystem) : State × Nat :=
  let (files, null) := files.addNode (.device .null)
  let (files, said) := files.addNode (files.pipeWith ByteArray.empty)
  let given := (environmentEntries environment).map fun (name, value) =>
    (name, Variable.mk (some value) true false)
  let state : State :=
    { files := files
      opened := #[⟨null, 0, false, true, true⟩, ⟨said, 0, true, false, true⟩]
      nextNumber := firstNumber + 1
      signals := []
      sleeping := []
      number := firstNumber
      original := firstNumber
      ancestors := [firstNumber - 1]
      descriptors := .ofList [(0, 0), (1, 0), (2, 1)]
      buffered := ByteArray.empty
      vars := .ofList given
      functions := ∅
      aliases := ∅
      documents := ∅
      nextDocument := 0
      arguments := []
      name := "sh"
      line := 1
      reached := 1
      command := none
      status := 0
      substituted := 0
      options := []
      tested := false
      isLast := false
      loops := 0
      calls := 0
      outer := []
      jobs := []
      started := none
      traps := ∅
      ignored := []
      interrupted := none
      directory := "/"
      found := ∅
      optionIndex := 1
      lettersRead := 0
      tracing := false
      niceness := 0
      deadlines := []
      softLimits := ∅
      hardLimits := ∅ }
  (state, said)

/-- What remains of a command that the host ran. -/
structure Aftermath where
  /-- The wait status. -/
  status : Int
  files : FileSystem
  /-- What the interpreter said. -/
  said : Bytes

/-- Runs a text in a fresh interpreter. -/
def system (environment : Environment) (files : FileSystem) (command : Bytes) : Aftermath :=
  let (state, said) := hostState environment files
  let run := interpret (Command.run nestingLimit) "sh" ["-c", Bytes.toByteText command]
  let (stop, after) : Option Stop × State :=
    match run.run state with
    | .ok _ after => (none, after)
    | .error stop after => (some stop, after)
  let status : Int := match stop with
    | some (.killed signal) => signal
    | _ => (after.status % 256 * 256 : Nat)
  { status := status
    files := { after.files with working := files.working, mask := files.mask }
    said := (after.files.contentOf said).toList }

end CountedStrings.Shell
