import CountedStrings.Surroundings.FileSystem.Change
import CountedStrings.Surroundings.FileSystem.Fresh
import CountedStrings.Surroundings.Shell.System

/-!
# One host

The steps of a process take the status of the host as they find it (`CountedStrings.Program.Step`).
This file is one host that statuses can come from: it has files, a command interpreter, and an
environment for the processes that it starts.

Nothing that is said about processes rests on it.
-/

namespace CountedStrings

namespace Environment

/-- The variables that the host gives to a process: where programs are, where the user is at home, and
that text is UTF-8. -/
def ofHost : Environment :=
  ⟨.ofList (([("PATH", "/usr/local/sbin:/usr/local/bin:/usr/sbin:/usr/bin:/sbin:/bin"),
      ("HOME", "/root"), ("LANG", "C.UTF-8")] : List (String × String)).map fun (name, value) =>
    (Bytes.ofText name, Bytes.ofText value))⟩

/-- The environment with several variables set, one after the other. -/
def setAll (e : Environment) (given : List (Bytes × Bytes)) : Environment :=
  given.foldl (fun e (name, value) => e.set name value) e

end Environment

namespace Host

/-- Removes a path.  A failure has the status -1 and leaves all files as they are. -/
def remove (files : FileSystem) (path : Bytes) : Shell.Aftermath :=
  match files.remove path.upToZero with
  | .ok after => ⟨0, after, []⟩
  | .error _ => ⟨-1, files, []⟩

/-- Runs a command.  Without one, the status 1 says that commands can be run. -/
def run (environment : Environment) (files : FileSystem) : Option Bytes → Shell.Aftermath
  | none => ⟨1, files, []⟩
  | some command => Shell.system environment files command.upToZero

end Host

end CountedStrings
