import CountedStrings.Error
import CountedStrings.Log.Event

/-!
# Calls that may fail and that are logged

An `Outcome` is what is seen of a call from outside: the value it returned or the cause of its
failure, and the events it reported, in order.  Outcomes form a monad: a failure ends the rest of
the computation but keeps the events reported so far (`bind_error`, `bind_ok`).
-/

namespace CountedStrings

/-- The result of a call with the events it reported. -/
structure Outcome (α : Type) where
  /-- The value, or why there is none. -/
  result : Except StringError α
  /-- What was reported, oldest first. -/
  events : List Event

namespace Outcome

variable {α β : Type}

/-- A value and nothing to report. -/
def ok (a : α) : Outcome α := ⟨.ok a, []⟩

/-- A failure that was reported before. -/
def fail (error : StringError) : Outcome α := ⟨.error error, []⟩

/-- A report and no value. -/
def report (event : Event) : Outcome Unit := ⟨.ok (), [event]⟩

/-- One call after another, unless the first fails. -/
def andThen (x : Outcome α) (f : α → Outcome β) : Outcome β :=
  match x.result with
  | .ok a => ⟨(f a).result, x.events ++ (f a).events⟩
  | .error error => ⟨.error error, x.events⟩

instance : Monad Outcome where
  pure := ok
  bind := andThen

@[simp] theorem result_pure (a : α) : (pure a : Outcome α).result = .ok a := rfl

@[simp] theorem events_pure (a : α) : (pure a : Outcome α).events = [] := rfl

/-- A call after a failed call does not take place. -/
theorem bind_error {x : Outcome α} {error : StringError} (h : x.result = .error error)
    (f : α → Outcome β) : x >>= f = ⟨.error error, x.events⟩ := by
  show andThen x f = _
  rw [andThen, h]

/-- A call after a successful call gets its value and reports behind it. -/
theorem bind_ok {x : Outcome α} {a : α} (h : x.result = .ok a) (f : α → Outcome β) :
    x >>= f = ⟨(f a).result, x.events ++ (f a).events⟩ := by
  show andThen x f = _
  rw [andThen, h]

/-- Nothing happens between a value and its use. -/
@[simp] theorem pure_bind (a : α) (f : α → Outcome β) : pure a >>= f = f a := rfl

/-- A report is put in front of what follows. -/
@[simp] theorem report_bind (event : Event) (f : Unit → Outcome β) :
    report event >>= f = ⟨(f ()).result, event :: (f ()).events⟩ := rfl

@[simp] theorem fail_bind (error : StringError) (f : α → Outcome β) :
    (fail error : Outcome α) >>= f = fail error := rfl

/-- Using a value as it is adds nothing. -/
theorem map_id (x : Outcome α) : id <$> x = x := by
  cases x with
  | mk result events =>
    cases result <;> simp [Functor.map, andThen, ok]

/-- Three calls in a row can be grouped either way. -/
theorem bind_assoc {γ : Type} (x : Outcome α) (f : α → Outcome β) (g : β → Outcome γ) :
    x >>= f >>= g = x >>= fun a => f a >>= g := by
  cases x with
  | mk result events =>
    cases result with
    | error e => rfl
    | ok a =>
      show andThen (andThen _ f) g = andThen _ _
      simp only [andThen]
      cases h : (f a).result <;> simp [bind, andThen, h]

instance : LawfulMonad Outcome :=
  LawfulMonad.mk' Outcome map_id pure_bind bind_assoc

end Outcome

end CountedStrings
