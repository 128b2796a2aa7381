import CountedStrings.Program.Step

/-!
# How strings come to be

Strings are made from sizes, bytes, variables and arguments, through the library and through the
entry points.  All these ways end alike: there was nothing to make a string of; or there is a new
string, and its allocation is the last thing that was reported; or the call failed, and what is
reported last is the alarm of that failure.

## 1.  Events by their use

`Event.isOwnership` singles out the events that speak of blocks and owners, `Event.isBlock` those of
them that speak of blocks, and `Event.isNote` those that neither do that nor raise an alarm.
`Event.failure?` is the failure that an event tells of, with the same numbers; such an event is an
alarm (`Event.isAlarm_of_failure?`) of the level of that failure (`Event.level_of_failure?`).

## 2.  Births

`reserve_eq` is the one place where blocks are obtained.  What a block holds once a string is made
in it is `Str.ofPayload`, whether the block was asked for full of zeros (`Str.allocate_eq`) or the
bytes were copied over whatever it held (`Str.ofBytes_eq`): the copy and the zero byte behind it
leave nothing of that (`Buffer.store_copyFrom`).

`Birth` is the relation.  `build_birth` says that all sources of the library are of that form.  An
entry point makes what the outcome behind it makes (`buildThrough_eq`), and that is of the form, too
(`outcomeBehind_birth`).
-/

namespace CountedStrings

/-! ## 1.  Events by their use -/

/-- The level at which a failure is reported: a lack of memory is graver than a wrong number. -/
def StringError.level : StringError → Level
  | .allocationFailed _ => .error
  | .invalidIndex _ _ | .negativeSize _ => .warn

namespace Event

/-- Whether an event speaks of the block or of the owners of a string. -/
def isOwnership : Event → Bool
  | .allocated _ | .retained _ | .referenceReleased _ | .freed _ => true
  | _ => false

/-- Whether an event tells of a block that comes or goes. -/
def isBlock : Event → Bool
  | .allocated _ | .freed _ => true
  | _ => false

/-- Whether an event is neither an alarm nor about a block or an owner. -/
def isNote (event : Event) : Bool := !event.isOwnership && !event.isAlarm

/-- The failure that an event tells of, with its numbers. -/
def failure? : Event → Option StringError
  | .capacityTooLarge capacity | .allocationRefused capacity _ => some (.allocationFailed capacity)
  | .indexOutOfBounds index bound => some (.invalidIndex index bound)
  | .negativeSize size => some (.negativeSize size)
  | _ => none

/-- The report of a failure is an alarm. -/
theorem isAlarm_of_failure? {event : Event} {error : StringError}
    (h : event.failure? = some error) : event.isAlarm = true := by
  cases event <;> cases h <;> rfl

/-- The report of a failure does not speak of owners. -/
theorem isOwnership_of_failure? {event : Event} {error : StringError}
    (h : event.failure? = some error) : event.isOwnership = false := by
  cases event <;> cases h <;> rfl

theorem isBlock_of_isOwnership {event : Event} (h : event.isOwnership = false) :
    event.isBlock = false := by
  cases event <;> simp_all only [isOwnership, isBlock]

theorem isOwnership_of_isNote {event : Event} (h : event.isNote = true) :
    event.isOwnership = false := by
  rw [isNote, Bool.and_eq_true, Bool.not_eq_true'] at h
  exact h.1

theorem isAlarm_of_isNote {event : Event} (h : event.isNote = true) : event.isAlarm = false := by
  rw [isNote, Bool.and_eq_true, Bool.not_eq_true', Bool.not_eq_true'] at h
  exact h.2

end Event

/-! ## 2.  Births -/

/-- A block is refused by the header, refused by the allocator, or handed out. -/
theorem reserve_eq (allocator : Allocator) (capacity : Nat) :
    reserve allocator capacity =
      if maxCapacity < capacity then
        ⟨.error (.allocationFailed capacity), [.capacityTooLarge capacity]⟩
      else if allocator.limit < capacity + 9 then
        ⟨.error (.allocationFailed capacity), [.allocationRefused capacity (capacity + 9)]⟩
      else ⟨.ok ⟨capacity + 9, 8⟩, [.allocated capacity]⟩ := by
  by_cases h : maxCapacity < capacity
  · rw [if_pos h, reserve, layoutFor_of_lt h]
    rfl
  · rw [if_neg h, reserve, layoutFor_of_le (by omega)]
    show (if allocator.limit < capacity + 9 then _ else _) = _
    by_cases h' : allocator.limit < capacity + 9
    · rw [if_pos h', if_pos h']
      rfl
    · rw [if_neg h', if_neg h']
      rfl

/-- What is done with a block depends on its size only, and that is known beforehand. -/
theorem reserve_bind_congr {α : Type} (allocator : Allocator) (capacity : Nat)
    {f g : Layout → Outcome α} (h : ∀ block, block.size = capacity + 9 → f block = g block) :
    reserve allocator capacity >>= f = reserve allocator capacity >>= g := by
  rw [reserve_eq]
  split
  · rfl
  · split
    · rfl
    · show (⟨(f _).result, _ ++ (f _).events⟩ : Outcome α) = ⟨(g _).result, _ ++ (g _).events⟩
      rw [h ⟨capacity + 9, 8⟩ rfl]

/-- Copying replaces as many bytes as it copies, and none in front of them or behind them. -/
theorem Buffer.copyFrom_append (bytes : Bytes) {front rest : Bytes}
    (h : bytes.length ≤ rest.length) :
    copyFrom (front ++ rest).toArray front.length bytes =
      (front ++ bytes ++ rest.drop bytes.length).toArray := by
  induction bytes generalizing front rest with
  | nil => simp [copyFrom]
  | cons byte bytes ih =>
    obtain ⟨old, rest, rfl⟩ := List.exists_cons_of_length_pos (Nat.zero_lt_of_lt h)
    have hstore : store (front ++ old :: rest).toArray front.length byte =
        ((front ++ [byte]) ++ rest).toArray := by
      simp [store]
    have hnext : front.length + 1 = (front ++ [byte]).length := by simp
    rw [copyFrom, hstore, hnext, ih (Nat.le_of_succ_le_succ h)]
    simp

/-- Once the bytes are copied and the zero byte stands behind them, nothing is left of what the
buffer held. -/
theorem Buffer.store_copyFrom {buffer : Buffer} {bytes : Bytes}
    (h : buffer.size = bytes.length + 1) :
    store (copyFrom buffer 0 bytes) bytes.length 0 = bytes.toArray.push 0 := by
  have hlength : buffer.toList.length = bytes.length + 1 := h
  obtain ⟨last, hlast⟩ : ∃ last, buffer.toList.drop bytes.length = [last] := by
    rw [← List.length_eq_one_iff, List.length_drop, hlength]
    exact Nat.add_sub_cancel_left bytes.length 1
  have hcopied := @copyFrom_append bytes [] buffer.toList (by omega)
  rw [List.nil_append, Array.toArray_toList, hlast] at hcopied
  show store (copyFrom buffer ([] : Bytes).length bytes) bytes.length 0 = _
  rw [hcopied]
  simp [store]

namespace Str

/-- The string that a new block holds in the end: the given bytes and a zero byte. -/
def ofPayload (payload : Array UInt8) : Str :=
  ⟨0, ownedInfo payload.size, payload.push 0⟩

/-- A string of zeros is the block of zeros. -/
theorem allocate_eq (allocator : Allocator) (capacity : Nat) :
    allocate allocator capacity =
      reserve allocator capacity >>= fun _ => pure (ofPayload (Array.replicate capacity 0)) := by
  refine reserve_bind_congr allocator capacity fun block hsize => ?_
  have hpayload : block.size - headerSize = capacity + 1 := by
    rw [hsize]
    exact Nat.add_sub_cancel capacity.succ 8
  rw [hpayload, ofPayload, Array.size_replicate, Array.replicate_succ]

/-- A string of given bytes holds these bytes, whatever the block held before. -/
theorem ofBytes_eq (allocator : Allocator) (bytes : Bytes) :
    ofBytes allocator bytes =
      reserve allocator bytes.length >>= fun _ => pure (ofPayload bytes.toArray) := by
  refine reserve_bind_congr allocator bytes.length fun block hsize => ?_
  have hpayload : block.size - headerSize = bytes.length + 1 := by
    rw [hsize]
    exact Nat.add_sub_cancel bytes.length.succ 8
  have hleft := (allocator.size_leftover (block.size - headerSize)).trans hpayload
  show pure (Str.mk 0 (ownedInfo bytes.length) (Buffer.store _ bytes.length 0)) = _
  rw [Buffer.store_copyFrom hleft, ofPayload, List.size_toArray]

end Str

/-- A way of making a string: nothing to make it of, a new string, or a failure. -/
inductive Birth : Outcome (Option Str) → Prop
  | absent {notes : List Event} (h : ∀ e ∈ notes, e.isNote = true) : Birth ⟨.ok none, notes⟩
  | fresh {notes : List Event} {payload : Array UInt8} (h : ∀ e ∈ notes, e.isNote = true)
      (hc : payload.size ≤ maxCapacity) :
      Birth ⟨.ok (some (Str.ofPayload payload)), notes ++ [.allocated payload.size]⟩
  | failed {notes : List Event} {error : StringError} {alarm : Event}
      (h : ∀ e ∈ notes, e.isNote = true) (ha : alarm.failure? = some error) :
      Birth ⟨.error error, notes ++ [alarm]⟩

/-- Filling a block that was obtained is a birth. -/
theorem birth_of_reserve (allocator : Allocator) (payload : Array UInt8) :
    Birth (some <$>
      (reserve allocator payload.size >>= fun _ => pure (Str.ofPayload payload))) := by
  have hnil : ∀ e ∈ ([] : List Event), e.isNote = true := by simp
  rw [reserve_eq]
  by_cases h : maxCapacity < payload.size
  · rw [if_pos h]
    exact @Birth.failed [] _ (.capacityTooLarge payload.size) hnil rfl
  · rw [if_neg h]
    by_cases h' : allocator.limit < payload.size + 9
    · rw [if_pos h']
      exact @Birth.failed [] _ (.allocationRefused payload.size (payload.size + 9)) hnil rfl
    · rw [if_neg h']
      exact Birth.fresh hnil (by omega)

/-- A note in front of a birth. -/
theorem Birth.after_note {x : Outcome (Option Str)} (h : Birth x) {event : Event}
    (he : event.isNote = true) : Birth (Outcome.report event >>= fun _ => x) := by
  have hcons : ∀ {notes : List Event}, (∀ e ∈ notes, e.isNote = true) →
      ∀ e ∈ event :: notes, e.isNote = true := by
    intro notes hn e hmem
    rcases List.mem_cons.mp hmem with rfl | hmem
    · exact he
    · exact hn e hmem
  cases h with
  | absent hn => exact Birth.absent (hcons hn)
  | fresh hn hc => exact Birth.fresh (hcons hn) hc
  | failed hn ha => exact Birth.failed (hcons hn) ha

namespace Str

theorem birth_allocate (allocator : Allocator) (capacity : Nat) :
    Birth (some <$> allocate allocator capacity) := by
  have h := birth_of_reserve allocator (Array.replicate capacity 0)
  rw [Array.size_replicate, ← allocate_eq] at h
  exact h

theorem birth_ofBytes (allocator : Allocator) (bytes : Bytes) :
    Birth (some <$> ofBytes allocator bytes) := by
  rw [ofBytes_eq]
  exact birth_of_reserve allocator bytes.toArray

theorem birth_ofHost? (allocator : Allocator) (bytes : Option Bytes) :
    Birth (ofHost? allocator bytes) := by
  cases bytes with
  | none => exact Birth.absent (by simp)
  | some bytes => exact birth_ofBytes allocator bytes.upToZero

end Str

theorem Environment.birth_copy (e : Environment) (allocator : Allocator) (name : Bytes) :
    Birth (e.copy allocator name) := by
  refine Birth.after_note ?_ rfl
  cases e.lookup name.upToZero with
  | none => exact Birth.absent (by simp)
  | some value => exact Str.birth_ofBytes allocator value

theorem ArgumentVector.birth_copy (allocator : Allocator) (argv : ArgumentVector) (index : Int) :
    Birth (argv.copy allocator index) := by
  have hnote : ∀ entry : Option HostString,
      Birth (Outcome.report (.argumentRead index entry.isSome) >>= fun _ =>
        Str.ofHost? allocator (entry.map HostString.bytes)) :=
    fun entry => Birth.after_note (Str.birth_ofHost? allocator _) rfl
  cases argv with
  | none => exact hnote none
  | some entries =>
    rw [copy, get, Outcome.bind_assoc]
    by_cases h : 0 ≤ index ∧ index < addressBound
    · rw [checkedIndex_of_mem h]
      exact hnote _
    · rw [checkedIndex_of_notMem h]
      exact @Birth.failed [] _ _ (by simp) rfl

theorem birth_copyArgument (allocator : Allocator) (arguments : List Bytes) (index : Nat) :
    Birth (copyArgument allocator arguments index) := by
  rw [copyArgument]
  cases arguments[index]? with
  | none => exact Birth.absent (by simp)
  | some argument => exact Str.birth_ofBytes allocator argument

theorem Counted.birth_allocateSigned (allocator : Allocator) (size : Int) :
    Birth (some <$> allocateSigned allocator size) := by
  rw [allocateSigned]
  by_cases h : size < 0
  · rw [if_pos h]
    exact @Birth.failed [] _ (.negativeSize size) (by simp) rfl
  · rw [if_neg h]
    exact Str.birth_allocate allocator size.toNat

namespace Program

/-- **Every source of the library is a way of making a string.** -/
theorem build_birth (p : Program) (source : Source) : Birth (p.build source) := by
  cases source with
  | zeros capacity => exact Str.birth_allocate p.allocator capacity
  | bytes bytes => exact Str.birth_ofBytes p.allocator bytes
  | cString bytes => exact Str.birth_ofBytes p.allocator bytes.upToZero
  | host bytes => exact Str.birth_ofHost? p.allocator bytes
  | «variable» name => exact p.environment.birth_copy p.allocator name
  | argument index => exact birth_copyArgument p.allocator p.arguments index
  | argumentOf argv index => exact ArgumentVector.birth_copy p.allocator argv index

/-- The outcome behind an entry point that makes a string: nothing happens where there is no
name to look up, and the sign of a size is checked first. -/
def outcomeBehind (p : Program) : CountedSource → Outcome (Option Str)
  | .host bytes => Str.ofHost? p.allocator bytes
  | .zeros size => some <$> Counted.allocateSigned p.allocator size
  | .variable none => pure none
  | .variable (some name) => p.environment.copy p.allocator name
  | .argumentOf argv index => argv.copy p.allocator index

/-- An entry point makes what the outcome behind it makes, and records its failure. -/
theorem buildThrough_eq (p : Program) (source : CountedSource) :
    p.buildThrough source = (p.outcomeBehind source).orRecord none := by
  cases source with
  | host bytes => rfl
  | zeros size => rfl
  | «variable» name => cases name <;> rfl
  | argumentOf argv index => rfl

/-- **Every source of the entry points is a way of making a string.** -/
theorem outcomeBehind_birth (p : Program) (source : CountedSource) :
    Birth (p.outcomeBehind source) := by
  cases source with
  | host bytes => exact Str.birth_ofHost? p.allocator bytes
  | zeros size => exact Counted.birth_allocateSigned p.allocator size
  | «variable» name =>
    cases name with
    | none => exact Birth.absent (by simp)
    | some name => exact p.environment.birth_copy p.allocator name
  | argumentOf argv index => exact ArgumentVector.birth_copy p.allocator argv index

end Program

end CountedStrings
