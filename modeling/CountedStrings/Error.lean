/-!
# Failures and their codes

A call on a string fails for one of three causes.  `StringError` keeps the cause with its
numbers, `StringError.message` words it for a reader, and `StringError.code` is all that is left
of it when it crosses the border to compiled code, which can only ask for a number.

The number 0 is kept for "no failure yet" (`ErrorCode.none`), so the code of a failure is never 0
(`StringError.toInt_code_pos`).
-/

namespace CountedStrings

/-- What is left of a failure on the side of compiled code. -/
inductive ErrorCode where
  /-- Nothing failed since the start or since the code was last cleared. -/
  | none
  | allocationFailed
  | invalidIndex
  | negativeSize
  deriving DecidableEq

namespace ErrorCode

/-- The number that compiled code sees. -/
def toInt : ErrorCode → Int
  | .none => 0
  | .allocationFailed => 1
  | .invalidIndex => 2
  | .negativeSize => 3

/-- The word for a code. -/
def name : ErrorCode → String
  | .none => "None"
  | .allocationFailed => "AllocationFailed"
  | .invalidIndex => "InvalidIndex"
  | .negativeSize => "NegativeSize"

end ErrorCode

/-- Why a call on a string failed. -/
inductive StringError where
  /-- No memory for a payload of `requested` bytes, or more than a header can describe. -/
  | allocationFailed (requested : Nat)
  /-- A byte index outside `0..bound`. -/
  | invalidIndex (index : Int) (bound : Nat)
  /-- A string was asked for with a size below zero. -/
  | negativeSize (size : Int)
  deriving DecidableEq

namespace StringError

/-- The code of a failure. -/
def code : StringError → ErrorCode
  | .allocationFailed _ => .allocationFailed
  | .invalidIndex _ _ => .invalidIndex
  | .negativeSize _ => .negativeSize

/-- A failure worded as a sentence. -/
def message : StringError → String
  | .allocationFailed requested => s!"allocation of {requested} payload bytes failed"
  | .invalidIndex index bound =>
    s!"byte index {index} is out of bounds (valid range 0..{bound})"
  | .negativeSize size => s!"string size {size} is negative"

/-- A failure as the name of its cause with the names and values of its numbers. -/
def detail : StringError → String
  | .allocationFailed requested => s!"AllocationFailed \x7b requested: {requested} \x7d"
  | .invalidIndex index bound => s!"InvalidIndex \x7b index: {index}, bound: {bound} \x7d"
  | .negativeSize size => s!"NegativeSize \x7b size: {size} \x7d"

/-- The code of a failure is told apart from "no failure" by its number alone. -/
theorem toInt_code_pos (error : StringError) : 0 < error.code.toInt := by
  cases error <;> simp [code, ErrorCode.toInt]

end StringError

end CountedStrings
