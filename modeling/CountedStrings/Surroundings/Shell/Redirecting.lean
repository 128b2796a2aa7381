import CountedStrings.Surroundings.Shell.Expansion
import CountedStrings.Surroundings.Shell.Process

/-!
# Redirections

The words of all redirections of a command are expanded before the first of them is done
(`Destination`).  Then they are done in their order, up to the first that fails.

Behind the command the descriptors that were redirected are put back.
-/

namespace CountedStrings.Shell

/-- A redirection whose word was expanded. -/
inductive Destination where
  | file (descriptor : Nat) (mode : FileMode) (path : String)
  /-- The descriptor to copy from; none to close. -/
  | copy (descriptor : Nat) (source : Option Nat)
  | document (descriptor : Nat) (body : Word)

/-- The descriptor that a redirection changes. -/
def Destination.descriptor : Destination → Nat
  | .file descriptor _ _ | .copy descriptor _ | .document descriptor _ => descriptor

/-- The descriptor that a word behind `>&` names. -/
def descriptorNamed (text : String) : Run (Option Nat) := do
  match text.toList with
  | ['-'] => return none
  | [c] =>
    if c.isDigit then return some (c.toNat - '0'.toNat)
  | _ => pure ()
  modify fun s => { s with line := s.reached }
  misuse "Syntax error: Bad fd number"

/-- Expands the word of a redirection. -/
def Redirection.expand (capture : Capture) : Redirection → Run Destination
  | .file descriptor mode word => do return .file descriptor mode (← Word.expand capture .text word)
  | .copy descriptor (.descriptor n) => return .copy descriptor (some n)
  | .copy descriptor .closed => return .copy descriptor none
  | .copy descriptor (.word word) => do
    return .copy descriptor (← descriptorNamed (← Word.expand capture .text word))
  | .document descriptor number => do
    return .document descriptor (((← get).documents.get? number).getD [])

/-- Why a file cannot be opened, in the interpreter's words. -/
def openingError (makes : Bool) : FileError → String
  | .missing | .notDirectory => if makes then "Directory nonexistent" else "No such file"
  | e => e.message

/-- Whether a path leads to a file that must not be replaced. -/
def isProtected (path : String) : Run Bool := do
  let s ← get
  if !s.options.contains 'C' then return false
  match s.files.find (Bytes.ofByteText path) with
  | .error _ => return false
  | .ok id =>
    match s.files.node? id with
    | some (.file _ _) => return true
    | _ => return false

/-- Opens a file as a redirection says; gives the number of the open file. -/
def openTarget (mode : FileMode) (path : String) : Run Nat := do
  let creating (result : Except FileError Nat) : Run Nat :=
    match result with
    | .ok number => return number
    | .error e => misuse ("cannot create " ++ path ++ ": " ++ openingError true e)
  match mode with
  | .input =>
    match ← openForReading path with
    | .ok number => return number
    | .error e => misuse ("cannot open " ++ path ++ ": " ++ openingError false e)
  | .output =>
    if ← isProtected path then misuse ("cannot create " ++ path ++ ": " ++ FileError.taken.message)
    creating (← openForWriting path true false false)
  | .replace => creating (← openForWriting path true false false)
  | .append => creating (← openForWriting path false true false)
  | .readWrite => creating (← openForWriting path false false true)

/-- Does one redirection. -/
def Destination.apply (capture : Capture) : Destination → Run Unit
  | .file descriptor mode path => do setDescriptor descriptor (← openTarget mode path)
  | .copy descriptor none => closeDescriptor descriptor
  | .copy descriptor (some source) => do
    match (← get).descriptors.get? source with
    | some number => setDescriptor descriptor number
    | none =>
      if source ≠ descriptor then
        misuse (toString source ++ ": " ++ TransferError.badDescriptor.message)
  | .document descriptor body => do
    let text ← Word.expand capture .document body
    let pipe ← addPipe (bytesOf text)
    setDescriptor descriptor (← openNode pipe false true false)

/-- Puts descriptors back as they were. -/
def putBackDescriptors (before : Table Nat Nat) (changed : List Nat) : Run Unit :=
  modify fun s =>
    { s with
      descriptors := changed.foldl (fun table n =>
        match before.get? n with
        | some number => table.insert n number
        | none => table.erase n) s.descriptors }

/-- Does redirections; gives the status 2 if one of them fails, which is complained about. -/
def redirect (capture : Capture) (destinations : List Destination) : Run Nat := do
  match ← attempt (destinations.forM (Destination.apply capture)) with
  | none => return 0
  | some .error => return 2
  | some stop => throw stop

/-- Runs something behind redirections that are undone again, unless it says that they stay. -/
def redirecting (destinations : List Destination) (stays : Bool) (run : Run Unit) : Run Unit := do
  let before := (← get).descriptors
  behind run do
    if !stays then putBackDescriptors before (destinations.map (·.descriptor))

end CountedStrings.Shell
