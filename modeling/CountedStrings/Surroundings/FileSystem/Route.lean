import CountedStrings.Surroundings.FileSystem.Basic

/-!
# Routes

The way from the top to a node: the path of a directory, and the path without links, `.` and `..`
that another path stands for.
-/

namespace CountedStrings

namespace FileSystem

/-- The name that a node has in a directory. -/
def nameIn (fs : FileSystem) (directory id : Nat) : Option Bytes :=
  ((fs.entriesOf directory).entries.find? fun (_, child) => child = id).map (·.1)

/-- The names on the way to a directory from the top, the last one first; at most `depth` of them. -/
def namesTo (fs : FileSystem) : Nat → Nat → List Bytes
  | 0, _ => []
  | depth + 1, id =>
    match fs.node? id with
    | some (.directory parent _ _) =>
      if parent = id then []
      else (fs.nameIn parent id).getD (Bytes.ofByteText "?") :: fs.namesTo depth parent
    | _ => []

/-- The path that leads through names from the top. -/
def pathOfNames (names : List Bytes) : String :=
  "/" ++ "/".intercalate (names.map Bytes.toByteText)

/-- The path of a directory without symbolic links. -/
def physicalPath (fs : FileSystem) (id : Nat) : String :=
  pathOfNames (fs.namesTo fs.nodes.size id).reverse

/-- What of a path may be missing. -/
inductive Missing where
  | nothing
  /-- The last name. -/
  | last
  | anything
  deriving DecidableEq

/-- Where a route has come to: the names so far, the last one first, and the directory there, if
there is one. -/
structure Route where
  names : List Bytes
  here : Option Nat

/-- One name up. -/
def Route.up (fs : FileSystem) (r : Route) : Route :=
  let names := r.names.tail
  match r.here with
  | some id =>
    match fs.node? id with
    | some (.directory parent _ _) => ⟨names, some parent⟩
    | _ => ⟨names, none⟩
  | none =>
    let path : Bytes := (names.reverse).flatMap fun name => slash :: name
    ⟨names, if names.isEmpty then some root
      else (fs.find path).toOption.filter fs.isDirectory⟩

/-- Follows names and gives the way without links, replacing at most `links` of them. -/
def route (fs : FileSystem) (missing : Missing) (links : Nat) (r : Route) (names : List Bytes) :
    Except FileError (List Bytes) :=
  match names with
  | [] => .ok r.names
  | name :: rest =>
    if name = selfName then route fs missing links r rest
    else if name = parentName then route fs missing links (r.up fs) rest
    else
      match r.here.bind fun id => (fs.entriesOf id).get? name with
      | none =>
        let mayMiss := missing = .anything || (missing = .last && rest = [])
        if mayMiss then route fs missing links ⟨name :: r.names, none⟩ rest
        else .error .missing
      | some id =>
        match fs.node? id with
        | some (.link target) =>
          match links with
          | 0 => .error .tooManyLinks
          | links + 1 =>
            let start := if isAbsolute target then ⟨[], some root⟩ else r
            route fs missing links start (components target ++ rest)
        | some (.directory _ _ _) => route fs missing links ⟨name :: r.names, some id⟩ rest
        | _ =>
          if rest = [] || missing = .anything then
            route fs missing links ⟨name :: r.names, none⟩ rest
          else .error .notDirectory
termination_by (links, names.length)

/-- The path without links that another path stands for. -/
def canonicalPath (fs : FileSystem) (missing : Missing) (path : Bytes) :
    Except FileError String := do
  if path = [] then throw .missing
  let start : Route :=
    if isAbsolute path then ⟨[], some root⟩
    else ⟨fs.namesTo fs.nodes.size fs.working, some fs.working⟩
  let names ← fs.route missing 40 start (components path)
  if endsInSlash path && missing ≠ .anything && (fs.find path).toOption.isNone then
    match fs.find path with
    | .error .missing => pure ()
    | .error e => throw e
    | .ok _ => pure ()
  return pathOfNames names.reverse

end FileSystem

end CountedStrings
