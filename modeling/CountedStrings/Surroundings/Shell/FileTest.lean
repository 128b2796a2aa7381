import CountedStrings.Surroundings.Shell.Descriptor

/-!
# Tests of files

What can be asked about the file at a path: its kind, its bits, its size, and whether it is newer than
another one or the same.
-/

namespace CountedStrings.Shell

/-- The node that a path leads to, with the link at its end followed or not. -/
def nodeAt? (files : FileSystem) (follows : Bool) (path : String) : Option Node :=
  let path := Bytes.ofByteText path
  ((if follows then files.find path else files.findLink path).toOption).bind files.node?

/-- Whether a test about files holds of a node. -/
def nodeHolds (operator : String) (node : Node) : Bool :=
  match operator, node with
  | "-f", .file _ _ | "-d", .directory _ _ _ | "-c", .device _ | "-p", .pipe _ _ _ | "-h", .link _
  | "-L", .link _ => true
  | "-f", _ | "-d", _ | "-c", _ | "-p", _ | "-h", _ | "-L", _ | "-b", _ | "-S", _ => false
  | "-s", .file content _ => !content.isEmpty
  | "-s", .directory _ _ _ => true
  | "-s", _ => false
  | "-x", node => node.mode &&& 0o111 ≠ 0
  | "-u", node => node.mode &&& 0o4000 ≠ 0
  | "-g", node => node.mode &&& 0o2000 ≠ 0
  | "-k", node => node.mode &&& 0o1000 ≠ 0
  | "-O", node => node.owner.1 = 0
  | "-G", node => node.owner.2 = 0
  | _, _ => true

/-- The node that a path leads to, behind the descriptor that it may stand for. -/
def openNode? (path : String) : Run (Option Node) := do
  let s ← get
  match nodeAt? s.files true path with
  | some (.device (.descriptor n)) =>
    match ← openFile? n with
    | some (_, file) => return s.files.node? file.node
    | none => return none
  | node => return node

/-- Whether a file was changed later than another one; false unless both are there. -/
def isNewer (files : FileSystem) (a b : String) : Bool :=
  match nodeAt? files true a, nodeAt? files true b with
  | some x, some y => y.modified < x.modified
  | _, _ => false

/-- Whether two paths lead to the same file. -/
def isSameFile (files : FileSystem) (a b : String) : Bool :=
  match files.find (Bytes.ofByteText a), files.find (Bytes.ofByteText b) with
  | .ok x, .ok y => x = y
  | _, _ => false

end CountedStrings.Shell
