/-!
# The platform of a process

The operating system family a program was built for.  This library is built for the other family.
-/

namespace CountedStrings

/-- The families that programs are told apart by. -/
inductive Platform where
  | windows
  | other
  deriving DecidableEq

namespace Platform

/-- The family of this build. -/
def current : Platform := .other

/-- Whether the family is that of Windows. -/
def isWindows : Platform → Bool
  | .windows => true
  | .other => false

/-- The word for a family. -/
def name : Platform → String
  | .windows => "Windows"
  | .other => "Other"

end Platform

end CountedStrings
