import CountedStrings.Proofs.Changes

/-!
# A slot holds the last failure

Compiled code cannot tell a failed call from one that returned a neutral value, except by the slot
of its thread.  So it clears the slot, calls, and reads the slot.  That works only if nothing but
failures of its own calls ever gets into the slot, and if nothing but the thread itself takes them
out.

## 1.  What is recorded

A step leaves the last of the failures that it records to its thread (`slots_effect`).
`Program.IsSilent` lists steps that have nothing to record, and `recorded_of_isSilent` says so.

## 2.  Slots after a step

`read_step`: a slot that holds the last of the failures recorded so far does so after one step more.
The steps of other threads do not matter to it (`read_step_of_ne`).

## 3.  Slots after a run

`Program.errorsSinceClear` collects what was recorded on a thread since it last cleared its slot.
`slot_holds_last_error`: the slot holds the code of the last of these, whatever the threads do and
in whatever order; and a thread that clears its slot, calls and reads gets a number other than zero
exactly if that call failed.
-/

namespace CountedStrings

namespace Slots

/-- Putting a code into one slot leaves the others as they are. -/
theorem read_absorb (slots : Slots) (thread thread' : Nat) (code : Option ErrorCode) :
    (slots.absorb thread code).read thread' =
      if thread = thread' then code.getD (slots.read thread') else slots.read thread' := by
  cases code with
  | none => exact (ite_self _).symm
  | some code => exact slots.read_write thread thread' code

end Slots

/-! ## 1.  What is recorded -/

/-- The code of the last of some failures, or the code for none. -/
def lastCode (errors : List StringError) : ErrorCode := (lastCode? errors).getD .none

theorem lastCode_append (first second : List StringError) :
    lastCode (first ++ second) = (lastCode? second).getD (lastCode first) := by
  rw [lastCode, lastCode?_append, Option.getD_or]
  rfl

/-- The number of the last failure tells whether there was one. -/
theorem toInt_lastCode_ne_zero (errors : List StringError) :
    (lastCode errors).toInt ≠ 0 ↔ errors ≠ [] := by
  cases h : errors.getLast? with
  | none =>
    rw [List.getLast?_eq_none_iff] at h
    simp [h, lastCode, lastCode?, ErrorCode.toInt]
  | some error =>
    have hne : errors ≠ [] := by
      rintro rfl
      cases h
    have hcode : lastCode errors = error.code := by rw [lastCode, lastCode?, h]; rfl
    have hpos := error.toInt_code_pos
    rw [hcode]
    exact ⟨fun _ => hne, fun _ => by omega⟩

namespace Program

/-- Steps that have nothing to record: those that call the library itself, those that read a slot,
those that hand something on to the host, and those at an absent address. -/
def IsSilent (p : Program) : Step → Prop
  | .make _ _ | .call _ _ | .readPlain _ _ | .writePlain _ _ _ | .entry _ _ => True
  | .readSlot | .readSlotThrough => True
  | .remove _ _ | .removeThrough _ _ | .runCommand _ _ => True
  | .callThrough _ name _ => p.pointee name = some .null
  | .makeThrough _ (.host none) | .makeThrough _ (.variable none)
  | .makeThrough _ (.argumentOf none _) => True
  | .entryThrough none _ => True
  | _ => False

theorem recorded_makeThrough {p : Program} {name : String} {source : CountedSource}
    (h : (p.outcomeBehind source).failures = []) : p.recorded (.makeThrough name source) = [] := by
  show (if p.isFree name = true then _ else _) = _
  rw [h, ite_self]

/-- Silent steps record nothing. -/
theorem recorded_of_isSilent {p : Program} {s : Step} (h : p.IsSilent s) : p.recorded s = [] := by
  cases s with
  | callThrough interface name c =>
    cases name with
    | none => cases interface <;> rfl
    | some name =>
      have hb : p.binding? name = some .null := h
      cases interface <;> simp [recorded, failuresBehind, hb, buffer?]
  | makeThrough name source =>
    cases source with
    | host bytes =>
      cases bytes with
      | none => exact recorded_makeThrough rfl
      | some bytes => exact h.elim
    | zeros size => exact h.elim
    | «variable» name' =>
      cases name' with
      | none => exact recorded_makeThrough rfl
      | some name' => exact h.elim
    | argumentOf argv index =>
      cases argv with
      | none => exact recorded_makeThrough rfl
      | some entries => exact h.elim
  | entryThrough argv index =>
    cases argv with
    | none => rfl
    | some entries => exact h.elim
  | recordError error => exact h.elim
  | orRecord result neutral => exact h.elim
  | _ => rfl

/-! ## 2.  Slots after a step -/

/-- A step with nothing to record leaves all slots as they are. -/
theorem slots_step_of_recorded {p : Program} (thread : Nat) {s : Step} (hs : s.clears = false)
    (h : p.recorded s = []) : (p.step thread s).2.slots = p.slots := by
  have hslots : (p.step thread s).2.slots = _ := p.slots_effect thread s
  rw [hslots, codeLeft, hs, h]
  rfl

/-- The failures recorded on a thread since it last cleared its slot, after one step more. -/
def errorsAfter (p : Program) (thread : Nat) (errors : List StringError) (actor : Nat) (s : Step) :
    List StringError :=
  if actor = thread then if s.clears then [] else errors ++ p.recorded s else errors

/-- A step keeps a slot at the last failure. -/
theorem read_step {p : Program} {thread : Nat} {errors : List StringError}
    (h : p.slots.read thread = lastCode errors) (actor : Nat) (s : Step) :
    (p.step actor s).2.slots.read thread = lastCode (p.errorsAfter thread errors actor s) := by
  have hslots : (p.step actor s).2.slots = _ := p.slots_effect actor s
  rw [hslots, Slots.read_absorb, errorsAfter, h]
  split
  · rw [codeLeft]
    split
    · rfl
    · exact (lastCode_append errors (p.recorded s)).symm
  · rfl

/-- A step of one thread leaves the slots of the others as they are. -/
theorem read_step_of_ne (p : Program) {actor thread : Nat} (hne : actor ≠ thread) (s : Step) :
    (p.step actor s).2.slots.read thread = p.slots.read thread := by
  have hslots : (p.step actor s).2.slots = _ := p.slots_effect actor s
  rw [hslots, Slots.read_absorb, if_neg hne]

/-! ## 3.  Slots after a run -/

/-- The failures recorded on a thread along a run since it last cleared its slot, oldest first.
Some may have been recorded before the run. -/
def errorsSinceClear (thread : Nat) (p : Program) (errors : List StringError) :
    List (Nat × Step) → List StringError
  | [] => errors
  | (actor, s) :: rest =>
    (p.step actor s).2.errorsSinceClear thread (p.errorsAfter thread errors actor s) rest

/-- A run keeps a slot at the last failure. -/
theorem read_after {p : Program} {thread : Nat} {errors : List StringError}
    (h : p.slots.read thread = lastCode errors) (steps : List (Nat × Step)) :
    (p.after steps).slots.read thread = lastCode (p.errorsSinceClear thread errors steps) := by
  induction steps generalizing p errors with
  | nil => exact h
  | cons x rest ih => exact ih (read_step h x.1 x.2)

/-- Steps of other threads leave the slot of a thread as it is. -/
theorem read_after_of_ne (p : Program) {thread : Nat} {steps : List (Nat × Step)}
    (h : ∀ x ∈ steps, x.1 ≠ thread) : (p.after steps).slots.read thread = p.slots.read thread := by
  induction steps generalizing p with
  | nil => rfl
  | cons x rest ih =>
    obtain ⟨hx, hrest⟩ := List.forall_mem_cons.mp h
    exact (ih (p.step x.1 x.2).2 hrest).trans (p.read_step_of_ne hx x.2)

/-- What a thread reads that clears its slot, calls and reads: the last failure of its call. -/
theorem read_clear_call (p : Program) {thread : Nat} {before behind : List (Nat × Step)}
    (hbefore : ∀ x ∈ before, x.1 ≠ thread) (hbehind : ∀ x ∈ behind, x.1 ≠ thread) {s : Step}
    (hs : s.clears = false) :
    ((((p.step thread .clearSlot).2.after before).step thread s).2.after behind).slots.read thread =
      lastCode (((p.step thread .clearSlot).2.after before).recorded s) := by
  have hclear : (p.step thread .clearSlot).2.slots.read thread = lastCode [] := by
    show (p.slots.absorb thread (some .none)).read thread = _
    rw [Slots.read_absorb, if_pos rfl]
    rfl
  have hcalled := (read_after_of_ne (p.step thread .clearSlot).2 hbefore).trans hclear
  rw [read_after_of_ne _ hbehind, read_step hcalled thread s, errorsAfter, if_pos rfl, hs]
  rfl

/-- **A slot holds the last failure.**  Let a process start with empty slots and take any steps on
any threads.

* The slot of each thread holds the code of the last failure that was recorded on the thread since
  it last cleared its slot, and the code for none if there was no such failure.
* In every state, a step that records nothing changes no slot, except if it clears one.  In
  particular that is so for calls of the library itself, for reads of a slot, for what is handed on
  to the host, and for calls at an absent address.
* In every state, the steps of a thread change no slot but its own.
* In every state, if a thread clears its slot, calls, and reads its slot, then it reads a number
  other than zero exactly if that call failed, whatever other threads do in between. -/
theorem slot_holds_last_error {p : Program} (hp : p.slots = Slots.initial)
    (steps : List (Nat × Step)) :
    (∀ thread, (p.after steps).slots.read thread =
      lastCode (p.errorsSinceClear thread [] steps)) ∧
    (∀ (q : Program) (thread : Nat) (s : Step), s.clears = false → q.recorded s = [] →
      (q.step thread s).2.slots = q.slots) ∧
    (∀ (q : Program) (s : Step), q.IsSilent s → s.clears = false ∧ q.recorded s = []) ∧
    (∀ (q : Program) (actor thread : Nat) (s : Step), actor ≠ thread →
      (q.step actor s).2.slots.read thread = q.slots.read thread) ∧
    ∀ (q : Program) (thread : Nat) (before behind : List (Nat × Step)) (s : Step),
      (∀ x ∈ before, x.1 ≠ thread) → (∀ x ∈ behind, x.1 ≠ thread) → s.clears = false →
        let called := (q.step thread .clearSlot).2.after before
        ∃ code, (((called.step thread s).2.after behind).step thread .readSlotThrough).1.result =
            .ok (.number code) ∧
          (code ≠ 0 ↔ called.recorded s ≠ []) := by
  refine ⟨fun thread => ?_, fun q thread s hs h => slots_step_of_recorded thread hs h,
    fun q s h => ⟨?_, recorded_of_isSilent h⟩, fun q actor thread s hne => q.read_step_of_ne hne s,
    ?_⟩
  · refine read_after ?_ steps
    rw [hp]
    rfl
  · cases s with
    | clearSlot => exact h.elim
    | _ => rfl
  · intro q thread before behind s hbefore hbehind hs called
    refine ⟨_, rfl, ?_⟩
    rw [q.read_clear_call hbefore hbehind hs]
    exact toInt_lastCode_ne_zero _

/-- Two threads call in turn: each finds the last failure of its own calls, neither that of the
other one, nor one from before it cleared its slot, nor a success in its place. -/
theorem slots_of_two_threads :
    let p : Program := start (.filledWith 7 20) ⟨∅⟩ [] .silent true
    let steps : List (Nat × Step) :=
      [(0, .makeThrough "abc" (.zeros 3)), (1, .makeThrough "other" (.zeros 100)),
        (0, .makeThrough "other" (.zeros (-1))), (0, .clearSlot),
        (0, .callThrough .counted (some "abc") (.getByte 9)),
        (1, .callThrough .counted none (.getByte 9)), (1, .call "abc" (.readAt 9)),
        (0, .callThrough .counted (some "abc") (.fill 0 [104, 105]))]
    p.slots = Slots.initial ∧ (p.after steps).slots.read 0 = .invalidIndex ∧
      (p.after steps).slots.read 1 = .allocationFailed := by
  intro p steps
  have hlast := (slot_holds_last_error (p := p) rfl steps).1
  exact ⟨rfl, (hlast 0).trans (by decide), (hlast 1).trans (by decide)⟩

end Program

end CountedStrings
