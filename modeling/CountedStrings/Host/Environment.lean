import CountedStrings.Bytes
import CountedStrings.Table
import CountedStrings.Text.Utf8

/-!
# The environment of a process

A process is handed its environment as a list of *entries*, byte strings of the form `name=value`.
A look-up goes through the entries and takes what stands behind `name=` in the first entry that
begins so.  It knows nothing of where the name in an entry ends: with `A` set to `b=c` the entry is
`A=b=c`, and the name `A=b` finds `c`.  The empty name finds nothing.

The entries are kept as a table from names to values, and setting a variable puts its new entry in
the place of its old one.
-/

namespace CountedStrings

/-- The variables of a process, in the order of their entries. -/
structure Environment where
  vars : Table Bytes Bytes

namespace Environment

/-- The byte between the name and the value in an entry. -/
def equalsSign : UInt8 := 0x3D

/-- The entry of a variable. -/
def entry (name value : Bytes) : Bytes := name ++ equalsSign :: value

/-- The environment as a process is handed it. -/
def entries (e : Environment) : List Bytes :=
  e.vars.entries.map fun (name, value) => entry name value

/-- What stands behind `name=` in an entry that begins so. -/
def valueIn? (name entry : Bytes) : Option Bytes :=
  if (name ++ [equalsSign]).isPrefixOf entry then some (entry.drop (name.length + 1)) else none

/-- The value found under a name. -/
def lookup (e : Environment) (name : Bytes) : Option Bytes :=
  if name = [] then none else e.entries.findSome? (valueIn? name)

/-- The value found under a name, if it is a text. -/
def lookupText (e : Environment) (name : String) : Option String :=
  (e.lookup (Bytes.ofText name)).bind Text.Utf8.decode

/-- The environment with one variable set. -/
def set (e : Environment) (name value : Bytes) : Environment :=
  ⟨e.vars.insert name value⟩

/-- The environment without one variable. -/
def unset (e : Environment) (name : Bytes) : Environment :=
  ⟨e.vars.erase name⟩

/-- The value behind the name of an entry is found under that name. -/
theorem valueIn?_entry (name value : Bytes) : valueIn? name (entry name value) = some value := by
  have h : (name ++ [equalsSign]).isPrefixOf (entry name value) = true := by
    rw [List.isPrefixOf_iff_prefix]
    exact ⟨value, by simp [entry]⟩
  rw [valueIn?, if_pos h]
  simp [entry, List.drop_append]

end Environment

end CountedStrings
