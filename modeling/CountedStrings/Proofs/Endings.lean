import CountedStrings.Proofs.Effects
import CountedStrings.Proofs.Slots

/-!
# How making a string ends

There are eleven ways of making a string: seven through the library and four through the entry
points.  They check different things in different orders: whether there is anything to make a string
of, the sign of a size, the sign of an index, the limit of the header, and what the allocator has.
This file proves that each of them ends in exactly one of six endings, and says for each ending
exactly when that happens.

## 1.  Demands

A `Demand` is what a way of making a string comes down to once its source has been read: nothing, a
size or an index that cannot be, or a string of given bytes.  `Making.demand` reads it off the
source, and `Making.outcome_eq` says that nothing else about the source matters, apart from the
notes that are taken while it is read.

## 2.  Endings

`Ending` lists the endings, each with the one report that belongs to it, and `Demand.ending` says
which demand leads to which ending.  `Program.EndsAs` says what is seen of an ending: what the
caller is told, what the slot of the thread holds, what the name stands for, and what is reported.
`endsAs_iff`: what is seen is the ending of the demand, and no other one.

## 3.  Exactly when

The conditions for the endings, in terms of the source: `demand_eq_nothing_iff`,
`demand_eq_negative_iff` and `demand_eq_outside_iff`.  `every_making_has_one_ending` puts them
together.
-/

namespace CountedStrings

/-! ## 1.  Demands -/

/-- A way of making a string. -/
inductive Making where
  | library (source : Source)
  | entryPoint (source : CountedSource)

/-- What a way of making a string comes down to. -/
inductive Demand where
  /-- There is nothing to make a string of. -/
  | nothing
  /-- A size below zero is asked for. -/
  | negative (size : Int)
  /-- An argument at an index outside the address space is asked for. -/
  | outside (index : Int)
  /-- A string of these bytes is asked for, with a zero byte behind them. -/
  | string (payload : Bytes)

namespace Demand

/-- A string of bytes that may not be there. -/
def ofOption : Option Bytes → Demand
  | none => .nothing
  | some payload => .string payload

/-- The entry of an argument vector at an index. -/
def ofEntry : ArgumentVector → Int → Demand
  | none, _ => .nothing
  | some entries, index =>
    if 0 ≤ index ∧ index < addressBound then
      ofOption (((entries[index.toNat]?.getD none).map HostString.bytes).map Bytes.upToZero)
    else .outside index

/-- The size of the string that is asked for. -/
def size? : Demand → Option Nat
  | .string payload => some payload.length
  | _ => none

/-- What comes of a demand. -/
def outcome (allocator : Allocator) : Demand → Outcome (Option Str)
  | .nothing => pure none
  | .negative size => ⟨.error (.negativeSize size), [.negativeSize size]⟩
  | .outside index => refusal index addressBound
  | .string payload => some <$> Str.ofBytes allocator payload

end Demand

namespace Making

/-- The step that makes a string under a name. -/
def step (name : String) : Making → Step
  | .library source => .make name source
  | .entryPoint source => .makeThrough name source

/-- The outcome of a way of making a string, behind the entry point if it is one. -/
def outcome (p : Program) : Making → Outcome (Option Str)
  | .library source => p.build source
  | .entryPoint source => p.outcomeBehind source

/-- What a way of making a string comes down to: what is read from the host ends at its first zero
byte, and what is given as bytes does not. -/
def demand (p : Program) : Making → Demand
  | .library (.zeros capacity) => .string (List.replicate capacity 0)
  | .library (.bytes bytes) => .string bytes
  | .library (.cString bytes) => .string bytes.upToZero
  | .library (.host bytes) | .entryPoint (.host bytes) => .ofOption (bytes.map Bytes.upToZero)
  | .library (.variable name) => .ofOption (p.environment.lookup name.upToZero)
  | .library (.argument index) => .ofOption p.arguments[index]?
  | .library (.argumentOf argv index) | .entryPoint (.argumentOf argv index) =>
    .ofEntry argv index
  | .entryPoint (.zeros size) =>
    if size < 0 then .negative size else .string (List.replicate size.toNat 0)
  | .entryPoint (.variable name) =>
    .ofOption (name.bind fun name => p.environment.lookup name.upToZero)

end Making

/-- Whether an outcome is another one with notes in front of its report. -/
def Outcome.Notes (x y : Outcome (Option Str)) : Prop :=
  ∃ notes : List Event, (∀ e ∈ notes, e.isNote = true) ∧ x = ⟨y.result, notes ++ y.events⟩

theorem Outcome.Notes.refl (x : Outcome (Option Str)) : x.Notes x := ⟨[], by simp, rfl⟩

theorem Outcome.notes_report {event : Event} (h : event.isNote = true) (x : Outcome (Option Str)) :
    (Outcome.report event >>= fun _ => x).Notes x :=
  ⟨[event], by simpa using h, rfl⟩

/-- A string of zeros is a string of given bytes. -/
theorem Str.allocate_eq_ofBytes (allocator : Allocator) (capacity : Nat) :
    allocate allocator capacity = ofBytes allocator (List.replicate capacity 0) := by
  rw [allocate_eq, ofBytes_eq, List.length_replicate, List.toArray_replicate]

theorem Str.ofHost?_eq_outcome (allocator : Allocator) (bytes : Option Bytes) :
    ofHost? allocator bytes = (Demand.ofOption (bytes.map Bytes.upToZero)).outcome allocator := by
  cases bytes <;> rfl

theorem Environment.copy_notes (e : Environment) (allocator : Allocator) (name : Bytes) :
    (e.copy allocator name).Notes
      ((Demand.ofOption (e.lookup name.upToZero)).outcome allocator) := by
  have hcopy : e.copy allocator name =
      (Outcome.report (.variableRead name.upToZero (e.lookup name.upToZero).isSome) >>= fun _ =>
        (Demand.ofOption (e.lookup name.upToZero)).outcome allocator) := by
    rw [copy]
    cases e.lookup name.upToZero <;> rfl
  rw [hcopy]
  exact Outcome.notes_report rfl _

theorem copyArgument_eq_outcome (allocator : Allocator) (arguments : List Bytes) (index : Nat) :
    copyArgument allocator arguments index =
      (Demand.ofOption arguments[index]?).outcome allocator := by
  rw [copyArgument]
  cases arguments[index]? <;> rfl

theorem ArgumentVector.copy_notes (allocator : Allocator) (argv : ArgumentVector) (index : Int) :
    (argv.copy allocator index).Notes ((Demand.ofEntry argv index).outcome allocator) := by
  cases argv with
  | none => exact @Outcome.notes_report (.argumentRead index false) rfl (pure none)
  | some entries =>
    rw [copy, get, Outcome.bind_assoc, Demand.ofEntry]
    by_cases h : 0 ≤ index ∧ index < addressBound
    · rw [checkedIndex_of_mem h, if_pos h, ← Str.ofHost?_eq_outcome]
      generalize hentry : entries[index.toNat]?.getD none = entry
      rw [Outcome.pure_bind, hentry]
      exact @Outcome.notes_report (.argumentRead index entry.isSome) rfl
        (Str.ofHost? allocator (entry.map HostString.bytes))
    · rw [checkedIndex_of_notMem h, if_neg h]
      exact Outcome.Notes.refl _

/-- **Nothing matters but the demand**, apart from the notes that are taken while the source is
read. -/
theorem Making.outcome_notes (p : Program) (m : Making) :
    (m.outcome p).Notes ((m.demand p).outcome p.allocator) := by
  cases m with
  | library source =>
    cases source with
    | zeros capacity =>
      rw [outcome, Program.build, Str.allocate_eq_ofBytes]
      exact Outcome.Notes.refl _
    | bytes bytes => exact Outcome.Notes.refl _
    | cString bytes => exact Outcome.Notes.refl _
    | host bytes =>
      rw [outcome, Program.build, Str.ofHost?_eq_outcome]
      exact Outcome.Notes.refl _
    | «variable» name => exact p.environment.copy_notes p.allocator name
    | argument index =>
      rw [outcome, Program.build, copyArgument_eq_outcome]
      exact Outcome.Notes.refl _
    | argumentOf argv index => exact ArgumentVector.copy_notes p.allocator argv index
  | entryPoint source =>
    cases source with
    | host bytes =>
      rw [outcome, Program.outcomeBehind, Str.ofHost?_eq_outcome]
      exact Outcome.Notes.refl _
    | zeros size =>
      rw [outcome, Program.outcomeBehind, Counted.allocateSigned, demand]
      by_cases h : size < 0
      · rw [if_pos h, if_pos h]
        exact Outcome.Notes.refl _
      · rw [if_neg h, if_neg h, Str.allocate_eq_ofBytes]
        exact Outcome.Notes.refl _
    | «variable» name =>
      cases name with
      | none => exact Outcome.Notes.refl _
      | some name => exact p.environment.copy_notes p.allocator name
    | argumentOf argv index => exact ArgumentVector.copy_notes p.allocator argv index

/-! ## 2.  Endings -/

/-- How making a string ends. -/
inductive Ending where
  /-- There was nothing to make a string of. -/
  | absent
  | negativeSize (size : Int)
  | invalidIndex (index : Int)
  /-- No header can hold the capacity. -/
  | tooLarge (capacity : Nat)
  /-- The allocator does not have the block. -/
  | refused (capacity : Nat)
  /-- There is a new string of this capacity. -/
  | made (capacity : Nat)
  deriving DecidableEq

namespace Ending

/-- The failure that an ending is. -/
def error? : Ending → Option StringError
  | .absent | .made _ => none
  | .negativeSize size => some (.negativeSize size)
  | .invalidIndex index => some (.invalidIndex index addressBound)
  | .tooLarge capacity | .refused capacity => some (.allocationFailed capacity)

/-- A value, unless the ending is a failure. -/
def verdict {α : Type} (ending : Ending) (a : α) : Except StringError α :=
  match ending.error? with
  | some error => .error error
  | none => .ok a

/-- Whether there is a new string. -/
def isMade : Ending → Bool
  | .made _ => true
  | _ => false

/-- The size that was asked for, if the ending is about one that can be. -/
def size? : Ending → Option Nat
  | .tooLarge capacity | .refused capacity | .made capacity => some capacity
  | _ => none

/-- What is reported of an ending. -/
def report : Ending → List Event
  | .absent => []
  | .negativeSize size => [.negativeSize size]
  | .invalidIndex index => [.indexOutOfBounds index addressBound]
  | .tooLarge capacity => [.capacityTooLarge capacity]
  | .refused capacity => [.allocationRefused capacity (capacity + 9)]
  | .made capacity => [.allocated capacity]

/-- What the name stands for after an ending: a new string that nobody but its first owner holds, or
an absent address. -/
def Leaves (b : Option Binding) : Ending → Prop
  | .made capacity => ∃ s, b = some (.counted s) ∧ s.refcount = 0 ∧ s.ownedCapacity = some capacity
  | _ => b = some .null

/-- The ending of asking for a string of a size: the header is asked before the allocator. -/
def ofSize (allocator : Allocator) (size : Nat) : Ending :=
  if maxCapacity < size then .tooLarge size
  else if allocator.limit < size + 9 then .refused size
  else .made size

section OfSize

variable {allocator : Allocator} {size n : Nat}

theorem ofSize_cases (allocator : Allocator) (size : Nat) :
    (maxCapacity < size ∧ ofSize allocator size = .tooLarge size) ∨
      (size ≤ maxCapacity ∧ allocator.limit < size + 9 ∧ ofSize allocator size = .refused size) ∨
      (size ≤ maxCapacity ∧ size + 9 ≤ allocator.limit ∧ ofSize allocator size = .made size) := by
  rw [ofSize]
  by_cases hheader : maxCapacity < size
  · exact Or.inl ⟨hheader, if_pos hheader⟩
  · rw [if_neg hheader]
    by_cases hblock : allocator.limit < size + 9
    · exact Or.inr (Or.inl ⟨by omega, hblock, if_pos hblock⟩)
    · exact Or.inr (Or.inr ⟨by omega, Nat.le_of_not_lt hblock, if_neg hblock⟩)

/-- Asking for a size ends in one of the three endings that tell it. -/
theorem ofSize_ne {ending : Ending} (h : ending.size? = none) : ofSize allocator size ≠ ending := by
  rintro rfl
  rcases ofSize_cases allocator size with ⟨-, heq⟩ | ⟨-, -, heq⟩ | ⟨-, -, heq⟩
  all_goals
    rw [heq] at h
    cases h

theorem ofSize_eq_tooLarge_iff :
    ofSize allocator size = .tooLarge n ↔ size = n ∧ maxCapacity < size := by
  rcases ofSize_cases allocator size with ⟨h, heq⟩ | ⟨h, -, heq⟩ | ⟨h, -, heq⟩
  · rw [heq, Ending.tooLarge.injEq, and_iff_left h]
  · rw [heq]
    exact iff_of_false (by simp) (by omega)
  · rw [heq]
    exact iff_of_false (by simp) (by omega)

theorem ofSize_eq_refused_iff :
    ofSize allocator size = .refused n ↔
      size = n ∧ size ≤ maxCapacity ∧ allocator.limit < size + 9 := by
  rcases ofSize_cases allocator size with ⟨h, heq⟩ | ⟨h, h', heq⟩ | ⟨-, h', heq⟩
  · rw [heq]
    exact iff_of_false (by simp) (by omega)
  · rw [heq, Ending.refused.injEq, and_iff_left ⟨h, h'⟩]
  · rw [heq]
    exact iff_of_false (by simp) fun hrefused => Nat.not_lt_of_le h' hrefused.2.2

theorem ofSize_eq_made_iff :
    ofSize allocator size = .made n ↔
      size = n ∧ size ≤ maxCapacity ∧ size + 9 ≤ allocator.limit := by
  rcases ofSize_cases allocator size with ⟨h, heq⟩ | ⟨-, h', heq⟩ | ⟨h, h', heq⟩
  · rw [heq]
    exact iff_of_false (by simp) (by omega)
  · rw [heq]
    exact iff_of_false (by simp) fun hmade => Nat.not_le_of_lt h' hmade.2.2
  · rw [heq, Ending.made.injEq, and_iff_left ⟨h, h'⟩]

/-- Asking for a size is asking the allocator, if the header can hold it. -/
theorem reserve_eq_ofSize (allocator : Allocator) (size : Nat) :
    (∃ block, reserve allocator size = ⟨.ok block, (ofSize allocator size).report⟩ ∧
        ofSize allocator size = .made size) ∨
      reserve allocator size =
          ⟨.error (.allocationFailed size), (ofSize allocator size).report⟩ ∧
        (ofSize allocator size).error? = some (.allocationFailed size) := by
  rw [reserve_eq, ofSize]
  split
  · exact Or.inr ⟨rfl, rfl⟩
  · split
    · exact Or.inr ⟨rfl, rfl⟩
    · exact Or.inl ⟨_, rfl, rfl⟩

end OfSize

/-- A failure makes no string. -/
theorem isMade_of_error {ending : Ending} {error : StringError} (h : ending.error? = some error) :
    ending.isMade = false := by
  cases ending with
  | made => cases h
  | _ => rfl

/-- No report of an ending is a note. -/
theorem isNote_of_mem_report {ending : Ending} {e : Event} (h : e ∈ ending.report) :
    e.isNote = false := by
  cases ending with
  | absent => cases h
  | _ =>
    rw [List.mem_singleton.mp h]
    rfl

/-- Each ending has a report of its own. -/
theorem eq_of_report {x y : Ending} (h : x.report = y.report) : x = y := by
  cases x <;> cases y <;> simp_all [report]

/-- **What is reported tells the ending**, whatever notes were taken before. -/
theorem eq_of_events {x y : Ending} {notes notes' : List Event}
    (hn : ∀ e ∈ notes, e.isNote = true) (hn' : ∀ e ∈ notes', e.isNote = true)
    (h : notes ++ x.report = notes' ++ y.report) : x = y := by
  have halarms : ∀ (ns : List Event) (z : Ending), (∀ e ∈ ns, e.isNote = true) →
      (ns ++ z.report).filter (fun e => !e.isNote) = z.report := by
    intro ns z hns
    have hnone : ns.filter (fun e => !e.isNote) = [] :=
      List.filter_eq_nil_iff.mpr fun e he => by simp [hns e he]
    rw [List.filter_append, hnone, List.nil_append]
    exact List.filter_eq_self.mpr fun e he => by simp [isNote_of_mem_report he]
  refine eq_of_report ?_
  rw [← halarms notes x hn, ← halarms notes' y hn', h]

end Ending

namespace Demand

/-- The ending that a demand leads to. -/
def ending (allocator : Allocator) : Demand → Ending
  | .nothing => .absent
  | .negative size => .negativeSize size
  | .outside index => .invalidIndex index
  | .string payload => .ofSize allocator payload.length

/-- The string that a demand leads to, if it is made. -/
def made? (allocator : Allocator) (d : Demand) : Option Str :=
  match d with
  | .string payload =>
    if (d.ending allocator).isMade then some (Str.ofPayload payload.toArray) else none
  | _ => none

variable {allocator : Allocator} {d : Demand} {n : Nat}

/-- The outcome of a demand is that of its ending. -/
theorem outcome_eq (allocator : Allocator) (d : Demand) :
    d.outcome allocator =
      ⟨(d.ending allocator).verdict (d.made? allocator), (d.ending allocator).report⟩ := by
  cases d with
  | nothing => rfl
  | negative size => rfl
  | outside index => rfl
  | string payload =>
    rw [outcome, Str.ofBytes_eq, made?, ending]
    rcases Ending.reserve_eq_ofSize allocator payload.length with
      ⟨block, hrun, hmade⟩ | ⟨hrun, herror⟩
    · rw [hrun, hmade]
      rfl
    · rw [hrun, Ending.verdict, herror]
      rfl

/-- There is a string exactly if it is made. -/
theorem isSome_made? (allocator : Allocator) (d : Demand) :
    (d.made? allocator).isSome = (d.ending allocator).isMade := by
  cases d with
  | string payload =>
    rw [made?, ending]
    cases (Ending.ofSize allocator payload.length).isMade <;> rfl
  | _ => rfl

/-- A failure leaves no string. -/
theorem made?_of_error {error : StringError} (h : (d.ending allocator).error? = some error) :
    d.made? allocator = none := by
  rw [← Option.not_isSome_iff_eq_none, isSome_made?, Ending.isMade_of_error h]
  exact Bool.false_ne_true

/-! ### Which demand leads to which ending -/

theorem ending_eq_absent_iff : d.ending allocator = .absent ↔ d = .nothing := by
  cases d with
  | string payload => exact iff_of_false (Ending.ofSize_ne rfl) (by simp)
  | _ => simp [ending]

theorem ending_eq_negativeSize_iff {size : Int} :
    d.ending allocator = .negativeSize size ↔ d = .negative size := by
  cases d with
  | string payload => exact iff_of_false (Ending.ofSize_ne rfl) (by simp)
  | _ => simp [ending]

theorem ending_eq_invalidIndex_iff {index : Int} :
    d.ending allocator = .invalidIndex index ↔ d = .outside index := by
  cases d with
  | string payload => exact iff_of_false (Ending.ofSize_ne rfl) (by simp)
  | _ => simp [ending]

theorem ending_eq_tooLarge_iff :
    d.ending allocator = .tooLarge n ↔ d.size? = some n ∧ maxCapacity < n := by
  cases d with
  | string payload =>
    rw [ending, Ending.ofSize_eq_tooLarge_iff, size?, Option.some.injEq]
    exact and_congr_right fun h => by rw [h]
  | _ => simp [ending, size?]

theorem ending_eq_refused_iff :
    d.ending allocator = .refused n ↔
      d.size? = some n ∧ n ≤ maxCapacity ∧ allocator.limit < n + 9 := by
  cases d with
  | string payload =>
    rw [ending, Ending.ofSize_eq_refused_iff, size?, Option.some.injEq]
    exact and_congr_right fun h => by rw [h]
  | _ => simp [ending, size?]

theorem ending_eq_made_iff :
    d.ending allocator = .made n ↔
      d.size? = some n ∧ n ≤ maxCapacity ∧ n + 9 ≤ allocator.limit := by
  cases d with
  | string payload =>
    rw [ending, Ending.ofSize_eq_made_iff, size?, Option.some.injEq]
    exact and_congr_right fun h => by rw [h]
  | _ => simp [ending, size?]

end Demand

/-! ### What is seen of an ending -/

namespace Making

/-- What the caller is told of an ending: the library returns a failure, an entry point does not. -/
def result (ending : Ending) : Making → Except StringError Reply
  | .library _ => ending.verdict (.made ending.isMade)
  | .entryPoint _ => .ok (.made ending.isMade)

/-- The code that an ending leaves: an entry point records a failure, the library does not. -/
def code? (ending : Ending) : Making → Option ErrorCode
  | .library _ => none
  | .entryPoint _ => ending.error?.map StringError.code

end Making

namespace Program

/-- What is seen of an ending: what is told, what the slot of the thread holds, what the name stands
for, and what is reported, apart from notes. -/
structure EndsAs (p : Program) (thread : Nat) (name : String) (m : Making) (ending : Ending) :
    Prop where
  result_eq : (p.step thread (m.step name)).1.result = m.result ending
  slot_eq : (p.step thread (m.step name)).2.slots.read thread =
    (m.code? ending).getD (p.slots.read thread)
  leaves : ending.Leaves ((p.step thread (m.step name)).2.binding? name)
  events_eq : ∃ notes, (∀ e ∈ notes, e.isNote = true) ∧
    (p.step thread (m.step name)).1.events = notes ++ ending.report

variable {p : Program} {name : String} {m : Making}

/-- **What making a string under a free name does**, in terms of the demand. -/
theorem effect_of_making (hfree : p.isFree name = true) (thread : Nat) (m : Making) :
    ∃ notes, (∀ e ∈ notes, e.isNote = true) ∧
      p.effect thread (m.step name) =
        ⟨m.result ((m.demand p).ending p.allocator),
          (p.bindNew name ((m.demand p).made? p.allocator)).absorb thread
            (m.code? ((m.demand p).ending p.allocator)),
          notes ++ ((m.demand p).ending p.allocator).report⟩ := by
  obtain ⟨notes, hnotes, houtcome⟩ := m.outcome_notes p
  refine ⟨notes, hnotes, ?_⟩
  have hmade := (m.demand p).isSome_made? p.allocator
  have hnone : ∀ error, ((m.demand p).ending p.allocator).error? = some error → _ :=
    fun error => Demand.made?_of_error
  rw [Demand.outcome_eq] at houtcome
  generalize (m.demand p).ending p.allocator = ending at *
  generalize (m.demand p).made? p.allocator = left at *
  cases m with
  | library source =>
    rw [Making.outcome] at houtcome
    rw [Making.step, effect, make, if_pos hfree, houtcome, Making.result, Making.code?]
    cases herror : ending.error? with
    | none =>
      simp only [Ending.verdict, herror, hmade]
      rfl
    | some error =>
      simp only [Ending.verdict, herror, hnone error herror]
      rfl
  | entryPoint source =>
    rw [Making.outcome] at houtcome
    rw [Making.step, effect, makeThrough, if_pos hfree, buildThrough_eq, houtcome, Making.result,
      Making.code?, Outcome.orRecord]
    cases herror : ending.error? with
    | none =>
      simp only [Ending.verdict, herror, hmade]
      rfl
    | some error =>
      simp only [Ending.verdict, herror, hnone error herror, Ending.isMade_of_error herror]
      rfl

/-- A new string has the capacity that was asked for, and no owner but the first. -/
theorem leaves_made? (d : Demand) (p : Program) (name : String) :
    (d.ending p.allocator).Leaves ((p.bindNew name (d.made? p.allocator)).binding? name) := by
  have hnull : (p.bindNew name none).binding? name = some .null :=
    binding?_of_cell (p.cell_bind name .null)
  cases d with
  | string payload =>
    rw [Demand.made?, Demand.ending]
    rcases Ending.ofSize_cases p.allocator payload.length with ⟨-, heq⟩ | ⟨-, -, heq⟩ | ⟨h, -, heq⟩
    · rw [heq]
      exact hnull
    · rw [heq]
      exact hnull
    · rw [heq]
      exact ⟨_, binding?_of_cell (p.cell_bindMade name _), rfl, capacityOf_ownedInfo h⟩
  | _ => exact hnull

/-- **What is seen is the ending of the demand**, and no other one. -/
theorem endsAs_iff (hfree : p.isFree name = true) (thread : Nat) (m : Making) (ending : Ending) :
    p.EndsAs thread name m ending ↔ (m.demand p).ending p.allocator = ending := by
  obtain ⟨notes, hnotes, heffect⟩ := p.effect_of_making hfree thread m
  constructor
  · intro h
    obtain ⟨notes', hnotes', hevents⟩ := h.events_eq
    exact Ending.eq_of_events hnotes hnotes' ((congrArg Effect.events heffect).symm.trans hevents)
  · rintro rfl
    refine ⟨congrArg Effect.result heffect, ?_, ?_, notes, hnotes, congrArg Effect.events heffect⟩
    · show (p.effect thread (m.step name)).after.slots.read thread = _
      rw [heffect]
      show ((p.bindNew name _).slots.absorb thread _).read thread = _
      rw [Slots.read_absorb, if_pos rfl, (p.rebinds_bindNew name _).slots_eq]
    · show Ending.Leaves ((p.effect thread (m.step name)).after.binding? name) _
      rw [heffect]
      exact leaves_made? _ p name

end Program

/-! ## 3.  Exactly when -/

/-- What the caller of an argument vector promises: its memory holds an entry at the index.  No
memory has room for more entries than there are indices. -/
def ArgumentVector.Holds (argv : ArgumentVector) (index : Int) : Prop :=
  ∀ entries ∈ argv, index < entries.length ∧ entries.length ≤ addressBound

namespace Making

/-- The argument vector and the index in it that are asked for. -/
def vector? : Making → Option (ArgumentVector × Int)
  | .library (.argumentOf argv index) | .entryPoint (.argumentOf argv index) => some (argv, index)
  | _ => none

/-- Whether the caller keeps the promise about an argument vector, if there is one. -/
def KeepsPromise (m : Making) : Prop := ∀ x ∈ m.vector?, x.1.Holds x.2

/-- Whether the source of a string is absent: a null pointer or name, a variable that is not set, an
argument past the end, a null argument vector, or a null entry. -/
def IsAbsent (p : Program) : Making → Prop
  | .library (.host bytes) | .entryPoint (.host bytes) => bytes = none
  | .library (.variable name) => p.environment.lookup name.upToZero = none
  | .entryPoint (.variable name) => ∀ n ∈ name, p.environment.lookup n.upToZero = none
  | .library (.argument index) => p.arguments.length ≤ index
  | .library (.argumentOf argv index) | .entryPoint (.argumentOf argv index) =>
    ∀ entries ∈ argv, 0 ≤ index ∧ entries[index.toNat]? = some none
  | _ => False

/-- The size of the string that is asked for. -/
def size? (p : Program) (m : Making) : Option Nat := (m.demand p).size?

end Making

namespace Demand

theorem ofOption_eq_nothing_iff (payload : Option Bytes) :
    ofOption payload = .nothing ↔ payload = none := by
  cases payload <;> simp [ofOption]

/-- An entry is absent if there is no vector, or a null pointer in it. -/
theorem ofEntry_eq_nothing_iff {argv : ArgumentVector} {index : Int} (h : argv.Holds index) :
    ofEntry argv index = .nothing ↔
      ∀ entries ∈ argv, 0 ≤ index ∧ entries[index.toNat]? = some none := by
  cases argv with
  | none => simp [ofEntry]
  | some entries =>
    obtain ⟨hlt, hle⟩ := h entries rfl
    by_cases hneg : 0 ≤ index
    · obtain ⟨i, rfl⟩ := Int.eq_ofNat_of_zero_le hneg
      have hi : i < entries.length := by omega
      rw [ofEntry, if_pos ⟨hneg, by omega⟩, ofOption_eq_nothing_iff, Option.map_eq_none_iff,
        Option.map_eq_none_iff, Int.toNat_natCast, List.getElem?_eq_getElem hi]
      simp [List.getElem?_eq_getElem hi]
    · rw [ofEntry, if_neg fun hmem => hneg hmem.1]
      simp [hneg]

/-- An index is turned away if it is below zero. -/
theorem ofEntry_eq_outside_iff {argv : ArgumentVector} {index i : Int} (h : argv.Holds index) :
    ofEntry argv index = .outside i ↔ index = i ∧ i < 0 ∧ argv ≠ none := by
  cases argv with
  | none => simp [ofEntry]
  | some entries =>
    obtain ⟨hlt, hle⟩ := h entries rfl
    rw [ofEntry]
    split
    · next hmem =>
      refine iff_of_false ?_ (by omega)
      generalize ((entries[index.toNat]?.getD none).map HostString.bytes).map Bytes.upToZero = text
      cases text <;> simp [ofOption]
    · next hnot =>
      rw [Demand.outside.injEq]
      simp only [ne_eq, reduceCtorEq, not_false_eq_true, and_true]
      omega

theorem ofOption_ne_negative (payload : Option Bytes) (size : Int) :
    ofOption payload ≠ .negative size := by
  cases payload <;> simp [ofOption]

theorem ofOption_ne_outside (payload : Option Bytes) (index : Int) :
    ofOption payload ≠ .outside index := by
  cases payload <;> simp [ofOption]

theorem ofEntry_ne_negative (argv : ArgumentVector) (index size : Int) :
    ofEntry argv index ≠ .negative size := by
  cases argv with
  | none => simp [ofEntry]
  | some entries =>
    rw [ofEntry]
    split
    · exact ofOption_ne_negative _ _
    · simp

end Demand

namespace Making

variable {p : Program} {m : Making}

/-- **There is nothing to make a string of exactly if the source is absent.** -/
theorem demand_eq_nothing_iff (h : m.KeepsPromise) : m.demand p = .nothing ↔ m.IsAbsent p := by
  cases m with
  | library source =>
    cases source with
    | zeros capacity => simp [demand, IsAbsent]
    | bytes bytes => simp [demand, IsAbsent]
    | cString bytes => simp [demand, IsAbsent]
    | host bytes =>
      rw [demand, Demand.ofOption_eq_nothing_iff, Option.map_eq_none_iff, IsAbsent]
    | «variable» name => rw [demand, Demand.ofOption_eq_nothing_iff, IsAbsent]
    | argument index =>
      rw [demand, Demand.ofOption_eq_nothing_iff, List.getElem?_eq_none_iff, IsAbsent]
    | argumentOf argv index => exact Demand.ofEntry_eq_nothing_iff (h _ rfl)
  | entryPoint source =>
    cases source with
    | host bytes =>
      rw [demand, Demand.ofOption_eq_nothing_iff, Option.map_eq_none_iff, IsAbsent]
    | zeros size =>
      refine iff_of_false ?_ id
      rw [demand]
      split <;> simp
    | «variable» name =>
      rw [demand, Demand.ofOption_eq_nothing_iff, Option.bind_eq_none_iff, IsAbsent]
      rfl
    | argumentOf argv index => exact Demand.ofEntry_eq_nothing_iff (h _ rfl)

/-- A size below zero can be asked for in one way only. -/
theorem demand_eq_negative_iff {size : Int} :
    m.demand p = .negative size ↔ m = .entryPoint (.zeros size) ∧ size < 0 := by
  cases m with
  | library source =>
    refine iff_of_false ?_ (by simp)
    cases source with
    | argumentOf argv index => exact Demand.ofEntry_ne_negative argv index size
    | zeros | bytes | cString => simp [demand]
    | _ => exact Demand.ofOption_ne_negative _ size
  | entryPoint source =>
    cases source with
    | zeros size' =>
      rw [demand]
      split
      · next hneg =>
        simp only [Demand.negative.injEq, entryPoint.injEq, CountedSource.zeros.injEq]
        exact ⟨fun heq => ⟨heq, heq ▸ hneg⟩, fun hboth => hboth.1⟩
      · next hnonneg =>
        simp only [reduceCtorEq, entryPoint.injEq, CountedSource.zeros.injEq, false_iff]
        rintro ⟨rfl, hneg⟩
        exact hnonneg hneg
    | host bytes => exact iff_of_false (Demand.ofOption_ne_negative _ size) (by simp)
    | «variable» name => exact iff_of_false (Demand.ofOption_ne_negative _ size) (by simp)
    | argumentOf argv index =>
      exact iff_of_false (Demand.ofEntry_ne_negative argv index size) (by simp)

/-- An index is turned away exactly if it is below zero and the vector is there. -/
theorem demand_eq_outside_iff (h : m.KeepsPromise) {index : Int} :
    m.demand p = .outside index ↔
      index < 0 ∧ ∃ entries, m.vector? = some (some entries, index) := by
  have hvector : ∀ {argv : ArgumentVector} {i : Int}, m.vector? = some (argv, i) →
      (Demand.ofEntry argv i = .outside index ↔
        index < 0 ∧ ∃ entries, m.vector? = some (some entries, index)) := by
    intro argv i hm
    rw [Demand.ofEntry_eq_outside_iff (h _ hm), hm]
    cases argv with
    | none => simp
    | some entries => simp [and_comm]
  cases m with
  | library source =>
    cases source with
    | argumentOf argv i => exact hvector rfl
    | zeros | bytes | cString => exact iff_of_false (by simp [demand]) (by simp [vector?])
    | _ => exact iff_of_false (Demand.ofOption_ne_outside _ index) (by simp [vector?])
  | entryPoint source =>
    cases source with
    | argumentOf argv i => exact hvector rfl
    | zeros size =>
      refine iff_of_false ?_ (by simp [vector?])
      rw [demand]
      split <;> simp
    | _ => exact iff_of_false (Demand.ofOption_ne_outside _ index) (by simp [vector?])

end Making

namespace Program

variable {p : Program} {name : String} {m : Making}

/-- **Making a string ends in exactly one way, and it is known in which.**  Take any way of making a
string, under a name that is free, whatever the allocator has.  If it takes the string from an
argument vector, let the caller have promised that there is an entry at the index.

* It ends in exactly one ending, as is seen by what is told, by the slot of the thread, by what the
  name stands for, and by what is reported.
* Nothing is made, without a failure, exactly if the source is absent.
* A negative size fails exactly if the entry point for sizes is given one, and with that size.
* An index fails exactly if it is negative and the argument vector is there, and with that index.
* Where a string of `n` bytes is asked for, there is no other failure than that of the allocation,
  and it is of size `n`: exactly if `n` exceeds what a header can hold, in which case the allocator
  is not asked, or if it does not, and the allocator does not have a block of `n + 9` bytes.
* Otherwise, and only then, there is a new string of capacity `n`, and its count is 0.
* So whenever a string is made, every way of making one that asks for no more bytes makes one. -/
theorem every_making_has_one_ending (hfree : p.isFree name = true) (thread : Nat)
    (hpromise : m.KeepsPromise) :
    (∃ ending, p.EndsAs thread name m ending ∧
      ∀ other, p.EndsAs thread name m other → other = ending) ∧
    (p.EndsAs thread name m .absent ↔ m.IsAbsent p) ∧
    (∀ size, p.EndsAs thread name m (.negativeSize size) ↔
      m = .entryPoint (.zeros size) ∧ size < 0) ∧
    (∀ index, p.EndsAs thread name m (.invalidIndex index) ↔
      index < 0 ∧ ∃ entries, m.vector? = some (some entries, index)) ∧
    (∀ n, p.EndsAs thread name m (.tooLarge n) ↔ m.size? p = some n ∧ 2147483647 < n) ∧
    (∀ n, p.EndsAs thread name m (.refused n) ↔
      m.size? p = some n ∧ n ≤ 2147483647 ∧ p.allocator.limit < n + 9) ∧
    (∀ n, p.EndsAs thread name m (.made n) ↔
      m.size? p = some n ∧ n ≤ 2147483647 ∧ n + 9 ≤ p.allocator.limit) ∧
    ∀ n, p.EndsAs thread name m (.made n) → ∀ m' name' thread' n', p.isFree name' = true →
      m'.size? p = some n' → n' ≤ n → p.EndsAs thread' name' m' (.made n') := by
  have hiff := fun ending => endsAs_iff hfree thread m ending
  refine ⟨⟨_, (hiff _).mpr rfl, fun other h => ((hiff other).mp h).symm⟩, ?_, fun size => ?_,
    fun index => ?_, fun n => ?_, fun n => ?_, fun n => ?_, fun n h m' name' thread' n' hfree' hsize
      hle => ?_⟩
  · rw [hiff, Demand.ending_eq_absent_iff, Making.demand_eq_nothing_iff hpromise]
  · rw [hiff, Demand.ending_eq_negativeSize_iff, Making.demand_eq_negative_iff]
  · rw [hiff, Demand.ending_eq_invalidIndex_iff, Making.demand_eq_outside_iff hpromise]
  · rw [hiff, Demand.ending_eq_tooLarge_iff]
    rfl
  · rw [hiff, Demand.ending_eq_refused_iff]
    rfl
  · rw [hiff, Demand.ending_eq_made_iff]
    rfl
  · rw [hiff, Demand.ending_eq_made_iff] at h
    rw [endsAs_iff hfree', Demand.ending_eq_made_iff]
    exact ⟨hsize, Nat.le_trans hle h.2.1, Nat.le_trans (Nat.add_le_add_right hle 9) h.2.2⟩

/-- With an allocator that has blocks of 20 bytes and no larger ones, every ending is reached. -/
theorem six_endings :
    let p : Program := start (.filledWith 7 20) ⟨∅⟩ [] .silent true
    let argv : ArgumentVector := some [some ⟨4096, [104, 105, 0, 106]⟩, none]
    (p.EndsAs 0 "abc" (.entryPoint (.argumentOf argv 0)) (.made 2) ∧
      p.EndsAs 0 "abc" (.entryPoint (.argumentOf argv 1)) .absent ∧
      p.EndsAs 0 "abc" (.library (.argumentOf argv (-1))) (.invalidIndex (-1))) ∧
    (p.EndsAs 0 "abc" (.entryPoint (.zeros (-1))) (.negativeSize (-1)) ∧
      p.EndsAs 0 "abc" (.library (.zeros 2147483648)) (.tooLarge 2147483648) ∧
      p.EndsAs 0 "abc" (.library (.zeros 12)) (.refused 12)) ∧
    p.EndsAs 1 "other" (.library (.bytes [0])) (.made 1) := by
  intro p argv
  have hfree : ∀ name, p.isFree name = true := fun _ => rfl
  have hargv : ∀ m : Making, ∀ i, m.vector? = some (argv, i) → i ≤ 1 → m.KeepsPromise := by
    intro m i hm hi x hx
    cases hm.symm.trans hx
    intro entries hentries
    cases hentries
    exact ⟨by simpa using Int.lt_add_one_of_le hi, by decide⟩
  have hzeros : ∀ m : Making, m.vector? = none → m.KeepsPromise := by
    intro m hm x hx
    cases hm.symm.trans hx
  have hsize : ∀ n, Making.size? p (.library (.zeros n)) = some n :=
    fun n => congrArg some List.length_replicate
  obtain ⟨-, -, -, -, -, -, hmade, hsmaller⟩ := every_making_has_one_ending (hfree "abc") 0
    (hargv (.entryPoint (.argumentOf argv 0)) 0 rfl (by decide))
  obtain ⟨-, habsent, -⟩ := every_making_has_one_ending (hfree "abc") 0
    (hargv (.entryPoint (.argumentOf argv 1)) 1 rfl (by decide))
  obtain ⟨-, -, -, hindex, -⟩ := every_making_has_one_ending (hfree "abc") 0
    (hargv (.library (.argumentOf argv (-1))) (-1) rfl (by decide))
  obtain ⟨-, -, hnegative, -⟩ :=
    every_making_has_one_ending (hfree "abc") 0 (hzeros (.entryPoint (.zeros (-1))) rfl)
  obtain ⟨-, -, -, -, hlarge, -⟩ :=
    every_making_has_one_ending (hfree "abc") 0 (hzeros (.library (.zeros 2147483648)) rfl)
  obtain ⟨-, -, -, -, -, hrefused, -⟩ :=
    every_making_has_one_ending (hfree "abc") 0 (hzeros (.library (.zeros 12)) rfl)
  have htwo := (hmade 2).mpr (by decide)
  refine ⟨⟨htwo, habsent.mpr ?_, (hindex (-1)).mpr ⟨by decide, _, rfl⟩⟩,
    ⟨(hnegative (-1)).mpr ⟨rfl, by decide⟩, (hlarge _).mpr ⟨?_, by decide⟩,
      (hrefused 12).mpr (by decide)⟩, ?_⟩
  · intro entries hentries
    rw [← Option.some.inj hentries]
    decide
  · exact hsize 2147483648
  · exact hsmaller 2 htwo (.library (.bytes [0])) "other" 1 1 (hfree "other") rfl (by decide)

end Program

end CountedStrings
