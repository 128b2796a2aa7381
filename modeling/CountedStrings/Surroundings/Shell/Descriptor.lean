import CountedStrings.Surroundings.Shell.State

/-!
# Descriptors

Reading and writing through descriptors, and what commands say.

## 1.  Open files

A path is opened for reading or writing under a new number.  A path that leads to a descriptor of
the process opens again what is behind that descriptor.

## 2.  Transfers

Writing puts bytes at the position of an open file, or at the end of the file.  A pipe has room for
`pipeRoom` bytes that nobody reads; a process that writes more is killed, because by then whoever
was to read has enough.

## 3.  What commands say

What a command prints is collected until the command is at its end (`print`, `flush`).  Complaints
do not wait (`complain`).
-/

namespace CountedStrings.Shell

/-- Why bytes were not transferred. -/
inductive TransferError where
  | badDescriptor
  | noSpace
  | isDirectory
  deriving DecidableEq

/-- Why bytes were not transferred, in words. -/
def TransferError.message : TransferError → String
  | .badDescriptor => "Bad file descriptor"
  | .noSpace => "No space left on device"
  | .isDirectory => "Is a directory"

/-! ## 1.  Open files -/

/-- The open file of a descriptor, with its number. -/
def openFile? (descriptor : Nat) : Run (Option (Nat × OpenFile)) := do
  let s ← get
  match s.descriptors.get? descriptor with
  | none => return none
  | some number => return (s.opened[number]?).map fun file => (number, file)

/-- Opens a node; gives the number of the open file. -/
def openNode (node : Nat) (append readable writable : Bool) : Run Nat := do
  let number := (← get).opened.size
  modify fun s => { s with opened := s.opened.push ⟨node, 0, append, readable, writable⟩ }
  return number

/-- Opens a path for reading. -/
def openForReading (path : String) : Run (Except FileError Nat) := do
  let s ← get
  match s.files.find (Bytes.ofByteText path) with
  | .error e => return .error e
  | .ok id =>
    match s.files.node? id with
    | some (.device (.descriptor n)) =>
      match ← openFile? n with
      | none => return .error .missing
      | some (_, file) => return .ok (← openNode file.node false true false)
    | _ => return .ok (← openNode id false true false)

/-- Opens a path for writing, and makes an empty file if there is none. -/
def openForWriting (path : String) (empties append readable : Bool) :
    Run (Except FileError Nat) := do
  match (← get).files.openOrCreate (Bytes.ofByteText path) with
  | .error e => return .error e
  | .ok (files, id) =>
    modify fun s => { s with files := files }
    match files.node? id with
    | some (.device (.descriptor n)) =>
      match ← openFile? n with
      | none => return .error .missing
      | some (_, file) =>
        if empties then changeFiles fun files => files.setContent file.node ByteArray.empty
        return .ok (← openNode file.node append readable true)
    | _ =>
      if empties then changeFiles fun files => files.setContent id ByteArray.empty
      return .ok (← openNode id append readable true)

/-- Lets a descriptor be an open file. -/
def setDescriptor (descriptor number : Nat) : Run Unit :=
  modify fun s => { s with descriptors := s.descriptors.insert descriptor number }

/-- Closes a descriptor. -/
def closeDescriptor (descriptor : Nat) : Run Unit :=
  modify fun s => { s with descriptors := s.descriptors.erase descriptor }

/-- Moves the position of an open file. -/
def setPosition (number position : Nat) : Run Unit :=
  modify fun s =>
    { s with opened := s.opened.modify number fun file => { file with position := position } }

/-! ## 2.  Transfers -/

/-- The bytes of a text with one character per byte. -/
def bytesOf (text : String) : ByteArray :=
  text.foldl (fun bytes c => bytes.push (UInt8.ofNat c.toNat)) ByteArray.empty

/-- The text with one character per byte. -/
def textOf (bytes : ByteArray) : String :=
  bytes.foldl (fun text b => text.push (Char.ofNat b.toNat)) ""

/-- A content with bytes written over it from a position on. -/
def splice (content : ByteArray) (position : Nat) (bytes : ByteArray) : ByteArray :=
  if position = content.size then content ++ bytes
  else if content.size < position then
    content ++ ⟨Array.replicate (position - content.size) 0⟩ ++ bytes
  else
    content.extract 0 position ++ bytes ++
      content.extract (position + bytes.size) content.size

/-- How many bytes a pipe has room for. -/
def pipeRoom : Nat := 2097152

/-- The signal that kills who writes into a full pipe. -/
def pipeSignal : Nat := 13

/-- Writes bytes through a descriptor. -/
def write (descriptor : Nat) (bytes : ByteArray) : Run (Option TransferError) := do
  if bytes.isEmpty then return none
  match ← openFile? descriptor with
  | none => return some .badDescriptor
  | some (number, file) =>
    if !file.writable then return some .badDescriptor
    match (← get).files.node? file.node with
    | some (.file content _) =>
      let position := if file.append then content.size else file.position
      changeFiles fun files =>
        let now := files.clock
        files.changeNode file.node fun
          | .file content attributes =>
            .file (splice content position bytes) { attributes with modified := now }
          | node => node
      setPosition number (position + bytes.size)
      return none
    | some (.pipe content taken _) =>
      if pipeRoom < content.size - taken then throw (.killed pipeSignal)
      changeFiles fun files => files.changeNode file.node fun
        | .pipe content taken attributes => .pipe (content ++ bytes) taken attributes
        | node => node
      return none
    | some (.device .full) => return some .noSpace
    | _ => return none

/-- What can be read through a descriptor: how many bytes at most, or all. -/
def read (descriptor : Nat) (most : Option Nat) : Run (Except TransferError ByteArray) := do
  match ← openFile? descriptor with
  | none => return .error .badDescriptor
  | some (number, file) =>
    if !file.readable then return .error .badDescriptor
    match (← get).files.node? file.node with
    | some (.file content _) =>
      let stop := (most.map (file.position + ·)).getD content.size
      let bytes := content.extract file.position stop
      setPosition number (file.position + bytes.size)
      return .ok bytes
    | some (.pipe content taken _) =>
      let stop := (most.map (taken + ·)).getD content.size
      let bytes := content.extract taken stop
      changeFiles fun files => files.changeNode file.node fun
        | .pipe content taken attributes => .pipe content (taken + bytes.size) attributes
        | node => node
      return .ok bytes
    | some (.directory _ _ _) => return .error .isDirectory
    | some (.device .zero) | some (.device .full) =>
      return .ok ⟨Array.replicate (most.getD pipeRoom) 0⟩
    | _ => return .ok ByteArray.empty

/-- Gives back bytes at the end of what was read, where that is possible. -/
def giveBack (descriptor count : Nat) : Run Unit := do
  match ← openFile? descriptor with
  | none => return
  | some (number, file) =>
    match (← get).files.node? file.node with
    | some (.file _ _) => setPosition number (file.position - count)
    | _ => return

/-! ## 3.  What commands say -/

/-- Prints bytes. -/
def printBytes (bytes : ByteArray) : Run Unit :=
  modify fun s => { s with buffered := s.buffered ++ bytes }

/-- Prints a text. -/
def print (text : String) : Run Unit := printBytes (bytesOf text)

/-- Sends what was printed through the descriptor 1. -/
def flush : Run (Option TransferError) := do
  let bytes := (← get).buffered
  modify fun s => { s with buffered := ByteArray.empty }
  write 1 bytes

/-- Says something through the descriptor 2. -/
def complain (text : String) : Run Unit := do
  discard (write 2 (bytesOf text))

/-- What a complaint of the interpreter begins with. -/
def complaintOrigin : Run String := do
  let s ← get
  let command := (s.command.map (· ++ ": ")).getD ""
  return s.name ++ ": " ++ toString s.line ++ ": " ++ command

/-- Complains in the name of the interpreter. -/
def warn (text : String) : Run Unit := do
  complain ((← complaintOrigin) ++ text ++ "\n")

/-- Complains in the name of the interpreter and stops. -/
def misuse {α : Type} (text : String) : Run α := do
  warn text
  setStatus 2
  throw .error

end CountedStrings.Shell
