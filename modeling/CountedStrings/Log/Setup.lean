import CountedStrings.Config
import CountedStrings.Log.Record

/-!
# Who gets the records

At most one *subscriber* receives the records of a process, and whoever comes first stays.  The
library asks for the place when logging is first initialized, and never again: every later
initialization repeats the answer of the first.  A program that embeds the library may have taken
the place before.

The first initialization reports two things once its attempt is over: that the filter was ignored,
if it was no filter, and that logging is set up.

Filters and lines are not made here but in a `LogPackage`.  Which texts are filters, what a filter
lets through and how a record is printed is its business, and nothing is assumed about it; a filter
is handed to it as the text that it is.
-/

namespace CountedStrings

/-- What a process has from the package that filters and prints its records. -/
structure LogPackage where
  /-- Why a text is no filter, if it is none. -/
  refusal? : String → Option String
  /-- Whether a filter lets a record through. -/
  admits : String → Record → Bool
  /-- The lines of a record, in colours or not. -/
  lines : Bool → Record → List String

/-- A package that takes every text for a filter and prints nothing. -/
def LogPackage.silent : LogPackage where
  refusal? _ := none
  admits _ _ := false
  lines _ _ := []

/-- A receiver of records. -/
inductive Subscriber where
  /-- A receiver of the embedding program, which shows nothing. -/
  | embedding
  /-- The receiver of this library, which prints the records that its filter lets through. -/
  | printing (filter : String) (colours : Bool)
  deriving DecidableEq

/-- The state of logging in a process. -/
structure Logging where
  /-- The receiver, once there is one. -/
  subscriber : Option Subscriber
  /-- What the first initialization answered: whether the library is the receiver. -/
  answer : Option Bool
  deriving DecidableEq

namespace Logging

/-- No receiver, and nobody asked. -/
def initial : Logging := ⟨none, none⟩

/-- Takes the place of the receiver if it is free; tells whether it was. -/
def subscribe (l : Logging) (s : Subscriber) : Logging × Bool :=
  match l.subscriber with
  | none => ({ l with subscriber := some s }, true)
  | some _ => (l, false)

/-- The filter that stands in for a text that is none. -/
def fallbackFilter : String := "warn"

/-- The filter of a configuration, with the report that it had to be ignored. -/
def filterOf (package : LogPackage) (c : Config) : String × List Event :=
  match package.refusal? c.logFilter with
  | none => (c.logFilter, [])
  | some reason => (fallbackFilter, [.filterIgnored reason c.logFilter])

/-- Sets logging up as configured, unless that was done before. -/
def setUp (l : Logging) (package : LogPackage) (c : Config) : Logging × Bool × List Event :=
  match l.answer with
  | some answer => (l, answer, [])
  | none =>
    let (filter, ignored) := filterOf package c
    let (l, installed) := l.subscribe (.printing filter c.logColours)
    ({ l with answer := some installed }, installed,
      ignored ++ [.loggingInitialized installed c.platform])

/-- The lines that the receiver prints for an event. -/
def printed (l : Logging) (package : LogPackage) (event : Event) : List String :=
  match l.subscriber with
  | some (.printing filter colours) =>
    if package.admits filter event.record then package.lines colours event.record else []
  | _ => []

/-- An initialization after the first gives the answer of the first and changes nothing. -/
theorem setUp_of_answer {l : Logging} {answer : Bool} (h : l.answer = some answer)
    (package : LogPackage) (c : Config) : l.setUp package c = (l, answer, []) := by
  unfold setUp
  rw [h]

end Logging

end CountedStrings
