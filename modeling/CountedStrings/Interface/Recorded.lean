import CountedStrings.Outcome
import CountedStrings.Table

/-!
# Failures on the side of compiled code

Compiled code calls through entry points that cannot return a failure.  A call that fails returns a
neutral value instead, and leaves the code of its failure in a *slot* that belongs to the calling
thread.  The code stays there until another failure replaces it or the thread clears it.

## 1.  Calls through an entry point

`Outcome.orRecord` turns an outcome into a `Recorded` value: the value or the neutral one, the code
to be left in the slot if there was a failure, and the events.  Several calls in a row leave the
code of the last one that failed.

## 2.  Slots

Each thread has one slot, and a slot that was never written holds `ErrorCode.none`.
-/

namespace CountedStrings

/-! ## 1.  Calls through an entry point -/

/-- What a call through an entry point returns, and what it leaves behind. -/
structure Recorded (α : Type) where
  /-- The returned value. -/
  value : α
  /-- The code to be left in the slot of the calling thread. -/
  code : Option ErrorCode
  /-- What was reported, oldest first. -/
  events : List Event

namespace Recorded

variable {α β : Type}

/-- One call after another. -/
def andThen (x : Recorded α) (f : α → Recorded β) : Recorded β :=
  let y := f x.value
  ⟨y.value, y.code.or x.code, x.events ++ y.events⟩

instance : Monad Recorded where
  pure a := ⟨a, none, []⟩
  bind := andThen

@[simp] theorem value_pure (a : α) : (pure a : Recorded α).value = a := rfl

@[simp] theorem code_pure (a : α) : (pure a : Recorded α).code = none := rfl

@[simp] theorem events_pure (a : α) : (pure a : Recorded α).events = [] := rfl

@[simp] theorem value_bind (x : Recorded α) (f : α → Recorded β) :
    (x >>= f).value = (f x.value).value := rfl

@[simp] theorem code_bind (x : Recorded α) (f : α → Recorded β) :
    (x >>= f).code = (f x.value).code.or x.code := rfl

@[simp] theorem events_bind (x : Recorded α) (f : α → Recorded β) :
    (x >>= f).events = x.events ++ (f x.value).events := rfl

/-- A report. -/
def report (event : Event) : Recorded Unit := ⟨(), none, [event]⟩

end Recorded

/-- The value of a call, or the neutral value with the code of the failure. -/
def Outcome.orRecord {α : Type} (x : Outcome α) (neutral : α) : Recorded α :=
  match x.result with
  | .ok a => ⟨a, none, x.events⟩
  | .error error => ⟨neutral, some error.code, x.events⟩

/-! ## 2.  Slots -/

/-- The code of the last failure of each thread. -/
structure Slots where
  codes : Table Nat ErrorCode

namespace Slots

/-- Nothing failed on any thread. -/
def initial : Slots := ⟨∅⟩

/-- The code in the slot of a thread. -/
def read (slots : Slots) (thread : Nat) : ErrorCode := (slots.codes.get? thread).getD .none

/-- Puts a code into the slot of a thread. -/
def write (slots : Slots) (thread : Nat) (code : ErrorCode) : Slots :=
  ⟨slots.codes.insert thread code⟩

/-- Puts the code of a call into the slot of a thread, if the call left one. -/
def absorb (slots : Slots) (thread : Nat) : Option ErrorCode → Slots
  | none => slots
  | some code => slots.write thread code

@[simp] theorem read_initial (thread : Nat) : initial.read thread = .none := rfl

/-- Writing changes the slot of one thread and of no other. -/
theorem read_write (slots : Slots) (thread thread' : Nat) (code : ErrorCode) :
    (slots.write thread code).read thread' = if thread = thread' then code
      else slots.read thread' := by
  unfold read write
  rw [Table.get?_insert]
  split <;> rfl

end Slots

end CountedStrings
