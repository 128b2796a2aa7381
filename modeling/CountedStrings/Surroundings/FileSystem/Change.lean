import CountedStrings.Surroundings.FileSystem.Basic

/-!
# Changes to files

The operations that make, replace and remove names.  Each one either does what it says or leaves
everything as it was and gives the reason.

`remove` is the operation that the rest of the library needs: it takes away the name of anything
but a directory, and a directory if it is empty.  It never follows a link at the end of a path, so
what goes is the link and not what it leads to.
-/

namespace CountedStrings

namespace FileSystem

/-- Gives a name in a directory to a node. -/
def name (fs : FileSystem) (directory : Nat) (entry : Bytes) (id : Nat) : FileSystem :=
  fs.setEntries directory ((fs.entriesOf directory).insert entry id)

/-- Takes a name in a directory away. -/
def unname (fs : FileSystem) (directory : Nat) (entry : Bytes) : FileSystem :=
  fs.setEntries directory ((fs.entriesOf directory).erase entry)

/-- Makes a new node with a name in a directory. -/
def create (fs : FileSystem) (directory : Nat) (entry : Bytes) (node : Node) :
    FileSystem × Nat :=
  let (fs, id) := fs.addNode node
  (fs.name directory entry id, id)

/-- The file that a path leads to, made empty if there is none. -/
def openOrCreate (fs : FileSystem) (path : Bytes) : Except FileError (FileSystem × Nat) := do
  match ← fs.locate true path with
  | .node _ => throw .isDirectory
  | .entry directory entry none =>
    if endsInSlash path then throw .isDirectory
    return fs.create directory entry fs.emptyFile
  | .entry _ _ (some id) =>
    if fs.isDirectory id then throw .isDirectory
    if endsInSlash path then throw .notDirectory
    return (fs, id)

/-- Writes a file, in place of its old content if there is one. -/
def putFile (fs : FileSystem) (path content : Bytes) : Except FileError FileSystem := do
  let (fs, id) ← fs.openOrCreate path
  return fs.setContent id ⟨content.toArray⟩

/-- The content of a file. -/
def fileContent (fs : FileSystem) (path : Bytes) : Except FileError Bytes := do
  let id ← fs.find path
  if fs.isDirectory id then throw .isDirectory
  return (fs.contentOf id).toList

/-- Makes a directory. -/
def makeDirectory (fs : FileSystem) (path : Bytes) : Except FileError FileSystem := do
  match ← fs.locate false path with
  | .entry directory entry none =>
    return (fs.create directory entry (.directory directory ∅ (fs.newAttributes 0o777))).1
  | _ => throw .taken

/-- Makes a symbolic link. -/
def makeLink (fs : FileSystem) (path target : Bytes) : Except FileError FileSystem := do
  match ← fs.locate false path with
  | .entry directory entry none =>
    if endsInSlash path then throw .missing
    return (fs.create directory entry (.link target)).1
  | _ => throw .taken

/-- Gives a second name to what the first path leads to. -/
def makeName (fs : FileSystem) (old new : Bytes) : Except FileError FileSystem := do
  let id ← fs.findLink old
  match ← fs.locate false new with
  | .entry directory entry none =>
    if endsInSlash new then throw .missing
    if fs.isDirectory id then throw .forbidden
    return fs.name directory entry id
  | _ => throw .taken

/-- Takes away a name that is not that of a directory. -/
def unlink (fs : FileSystem) (path : Bytes) : Except FileError FileSystem := do
  match ← fs.locate false path with
  | .node _ => throw .isDirectory
  | .entry _ _ none => throw .missing
  | .entry directory entry (some id) =>
    if fs.isDirectory id then throw .isDirectory
    if endsInSlash path then throw .notDirectory
    return fs.unname directory entry

/-- Takes away an empty directory. -/
def removeDirectory (fs : FileSystem) (path : Bytes) : Except FileError FileSystem := do
  match ← fs.locate false path with
  | .node _ =>
    match (components path).getLast? with
    | none => throw .busy
    | some last => throw (if last = parentName then .notEmpty else .invalid)
  | .entry _ _ none => throw .missing
  | .entry directory entry (some id) =>
    if !fs.isDirectory id then throw .notDirectory
    if (fs.entriesOf id).entries ≠ [] then throw .notEmpty
    return fs.unname directory entry

/-- Takes away a name, or a directory if it is empty. -/
def remove (fs : FileSystem) (path : Bytes) : Except FileError FileSystem :=
  match fs.unlink path with
  | .error .isDirectory => fs.removeDirectory path
  | result => result

/-- Whether a directory is the other one or lies inside it, looking up at most `depth` steps. -/
def isInside (fs : FileSystem) (outer : Nat) : Nat → Nat → Bool
  | 0, _ => false
  | depth + 1, inner =>
    if inner = outer then true
    else
      match fs.node? inner with
      | some (.directory parent _ _) => parent ≠ inner && isInside fs outer depth parent
      | _ => false

/-- A directory with another parent.  Anything else has no parent to change. -/
def setParent (fs : FileSystem) (id parent : Nat) : FileSystem :=
  fs.changeNode id fun
    | .directory _ entries attributes => .directory parent entries attributes
    | node => node

/-- Takes away a name and gives another one in its place. -/
def rename (fs : FileSystem) (old new : Bytes) : Except FileError FileSystem := do
  match ← fs.locate false old, ← fs.locate false new with
  | .entry _ _ none, _ => throw .missing
  | .node _, _ | _, .node _ => throw .busy
  | .entry fromDirectory fromName (some id), .entry toDirectory toName target =>
    if fs.isDirectory id then
      if fs.isInside id fs.nodes.size toDirectory then throw .invalid
      match target with
      | none => pure ()
      | some other =>
        if !fs.isDirectory other then throw .notDirectory
        if other ≠ id ∧ (fs.entriesOf other).entries ≠ [] then throw .notEmpty
    else
      if endsInSlash old || endsInSlash new then throw .notDirectory
      if target.any fs.isDirectory then throw .isDirectory
    if target = some id then return fs
    return ((fs.unname fromDirectory fromName).name toDirectory toName id).setParent id toDirectory

/-- Names in ascending order of their bytes. -/
def sortNames (names : List Bytes) : List Bytes :=
  names.mergeSort fun a b => decide (a ≤ b)

/-- The names in a directory, in ascending order. -/
def listNames (fs : FileSystem) (id : Nat) : List Bytes :=
  sortNames (fs.entriesOf id).keys

end FileSystem

end CountedStrings
