import CountedStrings.Bytes
import CountedStrings.Table

/-!
# Files

A file system is an array of *nodes*, which are known by their places in it.  A directory gives
names to nodes, so one node can have several names, or none: a node without a name lives on for
whoever has it open.

## 1.  Nodes

A node is a file with its content, a directory, a symbolic link, a device, or a pipe, from which
nothing can be read twice.

## 2.  Paths

A path is a list of names with slashes between them.  `walk` follows it name by name from a
directory.  `.` stays and `..` goes to the parent.  A symbolic link on the way is replaced by its
target, at most forty times in all; a link at the end of the path is replaced only on request.
The walk ends at a *place*: a name in a directory, whether or not something has that name, or a
node that was reached without a name of its own.
-/

namespace CountedStrings

/-! ## 1.  Nodes -/

/-- A device. -/
inductive Device where
  /-- Swallows what is written to it and has nothing to read. -/
  | null
  /-- The same, with zero bytes to read for ever. -/
  | zero
  /-- Has zero bytes to read for ever and no room for anything. -/
  | full
  /-- Stands for what a process has behind one of its descriptors. -/
  | descriptor (number : Nat)
  deriving DecidableEq

/-- What is noted about a file or a directory beside its content. -/
structure Attributes where
  /-- The bits that say who may do what with it. -/
  mode : Nat
  /-- When it was last changed, in milliseconds. -/
  modified : Int
  /-- The number of the user whom it belongs to. -/
  user : Nat
  /-- The number of the group that it belongs to. -/
  group : Nat
  deriving DecidableEq

/-- Something that a name can stand for. -/
inductive Node where
  | file (content : ByteArray) (attributes : Attributes)
  | directory (parent : Nat) (entries : Table Bytes Nat) (attributes : Attributes)
  | link (target : Bytes)
  | device (d : Device)
  /-- Bytes on their way, and how many of them were already taken. -/
  | pipe (content : ByteArray) (taken : Nat) (attributes : Attributes)

instance : Inhabited Node := ⟨.link []⟩

/-- The bits that say who may do what with a node. -/
def Node.mode : Node → Nat
  | .file _ attributes | .directory _ _ attributes | .pipe _ _ attributes => attributes.mode
  | .link _ => 0o777
  | .device _ => 0o666

/-- The time at the start. -/
def FileSystem.startClock : Int := 1763500000000

/-- When a node was last changed; of links and devices it is not noted, and they are as old as the
first files. -/
def Node.modified : Node → Int
  | .file _ attributes | .directory _ _ attributes | .pipe _ _ attributes => attributes.modified
  | _ => FileSystem.startClock

/-- The user and the group that a node belongs to; of links and devices that is not noted. -/
def Node.owner : Node → Nat × Nat
  | .file _ attributes | .directory _ _ attributes | .pipe _ _ attributes =>
    (attributes.user, attributes.group)
  | _ => (0, 0)

/-- Why an operation on files cannot be done. -/
inductive FileError where
  /-- Nothing has that name. -/
  | missing
  /-- Something that is no directory is used like one. -/
  | notDirectory
  /-- A directory is used like a file. -/
  | isDirectory
  /-- The name is taken. -/
  | taken
  /-- The directory has entries. -/
  | notEmpty
  /-- The links lead in a circle, or are too many. -/
  | tooManyLinks
  /-- A name is longer than 255 bytes, or the path than 4095. -/
  | nameTooLong
  /-- The place is in use as it is. -/
  | busy
  /-- The operation makes no sense on this place. -/
  | invalid
  /-- The operation is not allowed on this kind of node. -/
  | forbidden
  deriving DecidableEq

/-- What the host says of an operation that cannot be done. -/
def FileError.message : FileError → String
  | .missing => "No such file or directory"
  | .notDirectory => "Not a directory"
  | .isDirectory => "Is a directory"
  | .taken => "File exists"
  | .notEmpty => "Directory not empty"
  | .tooManyLinks => "Too many levels of symbolic links"
  | .nameTooLong => "File name too long"
  | .busy => "Device or resource busy"
  | .invalid => "Invalid argument"
  | .forbidden => "Operation not permitted"

/-- Files, with a directory that paths start from. -/
structure FileSystem where
  nodes : Array Node
  /-- The directory that paths without a leading slash start from. -/
  working : Nat
  /-- The time, in milliseconds. -/
  clock : Int
  /-- The bits that new files and directories do not get. -/
  mask : Nat

namespace FileSystem

/-- The number of the directory at the top. -/
def root : Nat := 0

/-- The node of a number. -/
def node? (fs : FileSystem) (id : Nat) : Option Node := fs.nodes[id]?

/-- The file system with a node put under a number. -/
def setNode (fs : FileSystem) (id : Nat) (node : Node) : FileSystem :=
  { fs with nodes := fs.nodes.setIfInBounds id node }

/-- The file system with a change made to a node. -/
def changeNode (fs : FileSystem) (id : Nat) (change : Node → Node) : FileSystem :=
  { fs with nodes := fs.nodes.modify id change }

/-- The file system with a new node that has no name yet, and the number of the node. -/
def addNode (fs : FileSystem) (node : Node) : FileSystem × Nat :=
  ({ fs with nodes := fs.nodes.push node }, fs.nodes.size)

/-- What is noted about something new for which the given bits are asked. -/
def newAttributes (fs : FileSystem) (mode : Nat) : Attributes :=
  ⟨mode - (mode &&& fs.mask), fs.clock, 0, 0⟩

/-- A pipe without a name, with bytes in it. -/
def pipeWith (fs : FileSystem) (content : ByteArray) : Node := .pipe content 0 ⟨0o600, fs.clock, 0, 0⟩

/-- An empty file as it is made. -/
def emptyFile (fs : FileSystem) : Node := .file ByteArray.empty (fs.newAttributes 0o666)

/-- The names in a directory; in anything else there are none. -/
def entriesOf (fs : FileSystem) (id : Nat) : Table Bytes Nat :=
  match fs.node? id with
  | some (.directory _ entries _) => entries
  | _ => ∅

/-- Whether a number is that of a directory. -/
def isDirectory (fs : FileSystem) (id : Nat) : Bool :=
  match fs.node? id with
  | some (.directory _ _ _) => true
  | _ => false

/-- The bytes of a file, or what is left of those in a pipe; anything else has none to keep. -/
def contentOf (fs : FileSystem) (id : Nat) : ByteArray :=
  match fs.node? id with
  | some (.file content _) => content
  | some (.pipe content taken _) => content.extract taken content.size
  | _ => ByteArray.empty

/-- The file system with another content in a file.  Anything but a file is left alone. -/
def setContent (fs : FileSystem) (id : Nat) (content : ByteArray) : FileSystem :=
  let now := fs.clock
  fs.changeNode id fun
    | .file _ attributes => .file content { attributes with modified := now }
    | node => node

/-- The file system with other names in a directory.  Anything else is left alone. -/
def setEntries (fs : FileSystem) (id : Nat) (entries : Table Bytes Nat) : FileSystem :=
  let now := fs.clock
  fs.changeNode id fun
    | .directory parent _ attributes => .directory parent entries { attributes with modified := now }
    | node => node

/-! ## 2.  Paths -/

/-- Where a path ends. -/
inductive Place where
  /-- At a node that was reached without a name of its own. -/
  | node (id : Nat)
  /-- At a name in a directory, with the node of that name if there is one. -/
  | entry (directory : Nat) (name : Bytes) (id : Option Nat)

/-- The node at a place. -/
def Place.id? : Place → Option Nat
  | .node id => some id
  | .entry _ _ id => id

/-- The byte between the names of a path. -/
def slash : UInt8 := 0x2F

/-- The name of a directory in itself. -/
def selfName : Bytes := [0x2E]

/-- The name of the parent of a directory. -/
def parentName : Bytes := [0x2E, 0x2E]

/-- The names in a path. -/
def components (path : Bytes) : List Bytes :=
  (path.splitBy fun a b => a ≠ slash ∧ b ≠ slash).filter (· ≠ [slash])

/-- Whether a path starts at the top. -/
def isAbsolute (path : Bytes) : Bool := path.head? = some slash

/-- Whether a path ends in a slash, and so has to lead to a directory. -/
def endsInSlash (path : Bytes) : Bool := path.getLast? = some slash

/-- The directory that a path starts from when it is read in the given directory. -/
def startOf (path : Bytes) (directory : Nat) : Nat := if isAbsolute path then root else directory

/-- The names that the target of a symbolic link leads through.  Behind a slash at its end stands the
directory itself, so that such a link leads to a directory or nowhere. -/
def targetComponents (target : Bytes) : List Bytes :=
  components target ++ if endsInSlash target then [selfName] else []

/-- Follows names from a directory, replacing at most `links` symbolic links. -/
def walk (fs : FileSystem) (follow : Bool) (links directory : Nat) (names : List Bytes) :
    Except FileError Place :=
  match names with
  | [] => .ok (.node directory)
  | name :: rest =>
    match fs.node? directory with
    | some (.directory parent entries _) =>
      if 255 < name.length then .error .nameTooLong
      else if name = selfName then walk fs follow links directory rest
      else if name = parentName then walk fs follow links parent rest
      else
        match entries.get? name with
        | none => if rest = [] then .ok (.entry directory name none) else .error .missing
        | some id =>
          match fs.node? id with
          | some (.link target) =>
            if rest = [] ∧ follow = false then .ok (.entry directory name (some id))
            else
              match links with
              | 0 => .error .tooManyLinks
              | links + 1 =>
                walk fs follow links (startOf target directory) (targetComponents target ++ rest)
          | _ =>
            if rest = [] then .ok (.entry directory name (some id))
            else walk fs follow links id rest
    | _ => .error .notDirectory
termination_by (links, names.length)

/-- The place that a path leads to. -/
def locate (fs : FileSystem) (follow : Bool) (path : Bytes) : Except FileError Place :=
  if path = [] then .error .missing
  else if 4095 < path.length then .error .nameTooLong
  else walk fs follow 40 (startOf path fs.working) (components path)

/-- The node that a path leads to, links at its end included. -/
def find (fs : FileSystem) (path : Bytes) : Except FileError Nat := do
  match (← fs.locate true path).id? with
  | none => throw .missing
  | some id =>
    if endsInSlash path && !fs.isDirectory id then throw .notDirectory
    return id

/-- The node that a path leads to, without following a link at its end. -/
def findLink (fs : FileSystem) (path : Bytes) : Except FileError Nat := do
  match (← fs.locate (endsInSlash path) path).id? with
  | none => throw .missing
  | some id =>
    if endsInSlash path && !fs.isDirectory id then throw .notDirectory
    return id

end FileSystem

end CountedStrings
