import CountedStrings.Str.Access
import CountedStrings.Str.Create

/-!
# Arguments

An argument vector is the address of a list of entries, each the address of a zero-terminated byte
string or absent; the address of the vector may be absent too.  An absent vector has no entry at any
index, so the index is not looked at.  In every other case the index is checked first, with the
address space as its only bound: that the vector has an entry there is the caller's promise.

An entry is handed on in one of two ways.  `get` gives the entry itself, the address that stands in
the vector; `copy` reads the bytes at that address into a new string.

The arguments that a process was started with are a list of known length, and past its end there is
simply no argument.
-/

namespace CountedStrings

/-- A byte string of the host: where it is, and the bytes that stand there. -/
structure HostString where
  address : Nat
  bytes : Bytes
  deriving DecidableEq

/-- The address of a list of entries, or no address. -/
abbrev ArgumentVector := Option (List (Option HostString))

namespace ArgumentVector

/-- Reads the entry at a signed index without copying it. -/
def get (argv : ArgumentVector) (index : Int) : Outcome (Option HostString) :=
  match argv with
  | none => pure none
  | some entries => do
    let i ← checkedIndex index addressBound
    return entries[i]?.getD none

/-- Copies the entry at a signed index into a new string. -/
def copy (allocator : Allocator) (argv : ArgumentVector) (index : Int) : Outcome (Option Str) := do
  let entry ← argv.get index
  Outcome.report (.argumentRead index entry.isSome)
  Str.ofHost? allocator (entry.map HostString.bytes)

end ArgumentVector

/-- Copies one of the arguments that a process was started with. -/
def copyArgument (allocator : Allocator) (arguments : List Bytes) (index : Nat) :
    Outcome (Option Str) :=
  match arguments[index]? with
  | none => pure none
  | some argument => some <$> Str.ofBytes allocator argument

end CountedStrings
