import CountedStrings.Proofs.Effects
import CountedStrings.Proofs.Lives

/-!
# What a step does to a name

A *cell* is all that a process knows about one name: what the name stands for, and whether that is a
string of the library.  A step about the name may do one of few things to its cell, its *turn*.

## 1.  Cells

`Program.cell`, with the cell after each way of changing a process.  `Program.Rebinds` collects the
ways that leave everything but one cell as it was.

## 2.  Access without regard to a header

Such access reports nothing about owners (`isOwnership_of_mem_runPlain`), and a read leaves the
bytes as they are (`value_runPlain`).

## 3.  Turns

`Turn` lists what can happen.  `effect_turn`: a step about a name takes a turn with exactly the
events that it reports.
-/

namespace CountedStrings

/-! ## 1.  Cells -/

/-- What a process knows about a name. -/
structure Cell where
  /-- What the name stands for. -/
  binding : Option Binding
  /-- Whether it stands for a string of the library. -/
  made : Bool

/-- Whether a name can be given to something new. -/
def Cell.IsFree (c : Cell) : Prop := c.binding = none ∨ c.binding = some .null

/-- The name of a string is taken. -/
theorem Cell.not_isFree_counted {s : Str} {made : Bool} : ¬ IsFree ⟨some (.counted s), made⟩ := by
  rintro (h | h) <;> cases h

namespace Program

/-- What a process knows about a name. -/
def cell (p : Program) (name : String) : Cell := ⟨p.binding? name, decide (name ∈ p.made)⟩

@[simp] theorem binding_cell (p : Program) (name : String) :
    (p.cell name).binding = p.binding? name := rfl

/-- A name that is free has a free cell. -/
theorem isFree_iff (p : Program) (name : String) : p.isFree name = true ↔ (p.cell name).IsFree := by
  rw [isFree, Cell.IsFree, binding_cell]
  cases p.binding? name with
  | none => simp
  | some b => cases b <;> simp

@[simp] theorem cell_absorb (p : Program) (thread : Nat) (code : Option ErrorCode)
    (name : String) : (p.absorb thread code).cell name = p.cell name := rfl

theorem cell_bind (p : Program) (name : String) (b : Binding) :
    (p.bind name b).cell name = ⟨some b, (p.cell name).made⟩ := by
  rw [cell, binding?, bind, Table.get?_insert_self]
  rfl

theorem cell_bind_of_ne (p : Program) {name name' : String} (h : name' ≠ name) (b : Binding) :
    (p.bind name' b).cell name = p.cell name := by
  rw [cell, binding?, bind, Table.get?_insert_of_ne _ h]
  rfl

theorem cell_bindMade (p : Program) (name : String) (s : Str) :
    (p.bindMade name s).cell name = ⟨some (.counted s), true⟩ := by
  rw [cell, binding?, bindMade, Table.get?_insert_self]
  simp

theorem cell_bindMade_of_ne (p : Program) {name name' : String} (h : name' ≠ name) (s : Str) :
    (p.bindMade name' s).cell name = p.cell name := by
  rw [cell, binding?, bindMade, Table.get?_insert_of_ne _ h]
  simp [cell, binding?, h.symm]

theorem cell_unbind (p : Program) (name : String) : (p.unbind name).cell name = ⟨none, false⟩ := by
  rw [cell, binding?, unbind, Table.get?_erase_self]
  simp

theorem cell_unbind_of_ne (p : Program) {name name' : String} (h : name' ≠ name) :
    (p.unbind name').cell name = p.cell name := by
  rw [cell, binding?, unbind, Table.get?_erase_of_ne _ h]
  simp [cell, binding?, h.symm]

/-- Two states that differ in nothing but what a name stands for, and maybe not even in that. -/
inductive Rebinds (p : Program) : Option String → Program → Prop
  | same {subject : Option String} : Rebinds p subject p
  | bind (name : String) (b : Binding) : Rebinds p (some name) (p.bind name b)
  | bindMade (name : String) (s : Str) : Rebinds p (some name) (p.bindMade name s)
  | unbind (name : String) : Rebinds p (some name) (p.unbind name)

theorem rebinds_bindNew (p : Program) (name : String) (s : Option Str) :
    p.Rebinds (some name) (p.bindNew name s) := by
  cases s with
  | none => exact .bind name .null
  | some s => exact .bindMade name s

theorem rebinds_leave (p : Program) (name : String) (left : Option Str) :
    p.Rebinds (some name) (p.leave name left) := by
  cases left with
  | none => exact .unbind name
  | some s => exact .bind name (.counted s)

/-- Other names stand for what they stood for. -/
theorem Rebinds.cell_eq {p q : Program} {subject : Option String} (h : p.Rebinds subject q)
    {name : String} (hne : subject ≠ some name) : q.cell name = p.cell name := by
  cases h with
  | same => rfl
  | bind name' b => exact p.cell_bind_of_ne (fun hn => hne (congrArg some hn)) b
  | bindMade name' s => exact p.cell_bindMade_of_ne (fun hn => hne (congrArg some hn)) s
  | unbind name' => exact p.cell_unbind_of_ne fun hn => hne (congrArg some hn)

theorem Rebinds.slots_eq {p q : Program} {subject : Option String} (h : p.Rebinds subject q) :
    q.slots = p.slots := by
  cases h <;> rfl

end Program

/-! ## 2.  Access without regard to a header -/

/-- What every write of a row of writes reports is all that the row reports. -/
theorem fillWith_events {α : Type} {set : α → Int → Int → Recorded α} {P : Event → Prop}
    (h : ∀ a index value, ∀ e ∈ (set a index value).events, P e) (a : α) (index : Int)
    (bytes : Bytes) : ∀ e ∈ (fillWith set a index bytes).events, P e := by
  induction bytes generalizing a index with
  | nil => simp [fillWith]
  | cons byte rest ih =>
    intro e he
    rw [fillWith, Recorded.events_bind, List.mem_append] at he
    rcases he with he | he
    · exact h _ _ _ e he
    · exact ih _ _ e he

/-- What every read of a row of reads reports is all that the row reports. -/
theorem scanWith_events {get : Int → Recorded Int} {P : Event → Prop}
    (h : ∀ index, ∀ e ∈ (get index).events, P e) (index : Int) (count : Nat) :
    ∀ e ∈ (scanWith get index count).events, P e := by
  induction count generalizing index with
  | zero => simp [scanWith]
  | succ count ih =>
    intro e he
    rw [scanWith, Recorded.events_bind, Recorded.events_bind, Recorded.events_pure,
      List.append_nil, List.mem_append] at he
    rcases he with he | he
    · exact h _ e he
    · exact ih _ e he

namespace Buffer

/-- Access to a buffer reports nothing about owners. -/
theorem isOwnership_of_mem_readAt {buffer : Buffer} {index : Int} {e : Event}
    (h : e ∈ (buffer.readAt index).events) : e.isOwnership = false := by
  rw [readAt_eq] at h
  split at h
  · simp at h
  · rw [List.mem_singleton.mp h]
    rfl

theorem isOwnership_of_mem_writeAt {buffer : Buffer} {index : Int} {value : UInt8} {e : Event}
    (h : e ∈ (buffer.writeAt index value).events) : e.isOwnership = false := by
  rw [writeAt_eq] at h
  split at h
  · simp at h
  · rw [List.mem_singleton.mp h]
    rfl

end Buffer

namespace Plain

theorem isOwnership_of_mem_setByte (pointer : Option Buffer) (index value : Int) :
    ∀ e ∈ (setByte pointer index value).events, e.isOwnership = false := by
  intro e he
  cases pointer with
  | none => simp [setByte] at he
  | some buffer =>
    rw [setByte, Outcome.events_orRecord, Outcome.events_map] at he
    exact Buffer.isOwnership_of_mem_writeAt he

theorem isOwnership_of_mem_getByte (pointer : Option Buffer) (index : Int) :
    ∀ e ∈ (getByte pointer index).events, e.isOwnership = false := by
  intro e he
  cases pointer with
  | none => simp [getByte] at he
  | some buffer =>
    rw [getByte, Recorded.events_bind, Outcome.events_orRecord, List.mem_append] at he
    rcases he with he | he
    · exact Buffer.isOwnership_of_mem_readAt he
    · rw [Recorded.events_bind, Recorded.events_pure, List.append_nil] at he
      rw [List.mem_singleton.mp he]
      rfl

end Plain

namespace PointerCall

/-- Whether a call writes bytes. -/
def writes : PointerCall → Bool
  | .setByte _ _ | .fill _ _ => true
  | _ => false

/-- Access without regard to a header reports nothing about owners. -/
theorem isOwnership_of_mem_runPlain {pointer : Option Buffer} {c : PointerCall}
    {x : Recorded (Option Buffer × Reply)} (h : c.runPlain pointer = some x) :
    ∀ e ∈ x.events, e.isOwnership = false := by
  cases c with
  | setByte index value =>
    rw [runPlain, Recorded.bind_pure_eq] at h
    rw [← Option.some.inj h]
    exact Plain.isOwnership_of_mem_setByte pointer index value
  | getByte index =>
    rw [runPlain, Recorded.bind_pure_eq] at h
    rw [← Option.some.inj h]
    exact Plain.isOwnership_of_mem_getByte pointer index
  | fill index bytes =>
    rw [runPlain, Recorded.bind_pure_eq] at h
    rw [← Option.some.inj h]
    exact fillWith_events Plain.isOwnership_of_mem_setByte pointer index bytes
  | scan index count =>
    rw [runPlain, Recorded.bind_pure_eq] at h
    rw [← Option.some.inj h]
    exact scanWith_events (Plain.isOwnership_of_mem_getByte pointer) index count
  | retain => cases h
  | release => cases h
  | refcount => cases h

/-- Without a write the bytes stay as they are. -/
theorem value_runPlain {pointer : Option Buffer} {c : PointerCall}
    {x : Recorded (Option Buffer × Reply)} (h : c.runPlain pointer = some x)
    (hc : c.writes = false) : x.value.1 = pointer := by
  cases c with
  | setByte index value => cases hc
  | getByte index =>
    rw [runPlain, Recorded.bind_pure_eq] at h
    rw [← Option.some.inj h]
  | fill index bytes => cases hc
  | scan index count =>
    rw [runPlain, Recorded.bind_pure_eq] at h
    rw [← Option.some.inj h]
  | retain => cases h
  | release => cases h
  | refcount => cases h

end PointerCall

/-! ## 3.  Turns -/

/-- Whether a step writes bytes without regard to a header. -/
def Step.writesPlain : Step → Bool
  | .writePlain _ _ _ => true
  | .callThrough .plain _ c => c.writes
  | _ => false

/-- What a step about a name may do to its cell, with what it reports. -/
inductive Turn (name : String) : Step → Cell → List Event → Cell → Prop
  /-- Nothing. -/
  | idle {s : Step} {c : Cell} {es : List Event} (h : ∀ e ∈ es, e.isOwnership = false) :
      Turn name s c es c
  /-- Compiled code lays something out. -/
  | place {c : Cell} {b : Binding} (hfree : c.IsFree) :
      Turn name (.place name b) c [] ⟨some b, c.made⟩
  /-- Nothing was made: there was nothing to make a string of, or the call failed. -/
  | absent {s : Step} {c : Cell} {es : List Event} (hfree : c.IsFree)
      (h : ∀ e ∈ es, e.isOwnership = false) : Turn name s c es ⟨some .null, c.made⟩
  /-- A string was made. -/
  | born {s : Step} {c : Cell} {notes : List Event} {payload : Array UInt8} (hfree : c.IsFree)
      (h : ∀ e ∈ notes, e.isNote = true) (hc : payload.size ≤ maxCapacity) :
      Turn name s c (notes ++ [.allocated payload.size])
        ⟨some (.counted (Str.ofPayload payload)), true⟩
  /-- A string lives on. -/
  | lives {s : Step} {str t : Str} {made : Bool} {es : List Event}
      (h : Str.Leaves str es (some t)) :
      Turn name s ⟨some (.counted str), made⟩ es ⟨some (.counted t), made⟩
  /-- A string ends. -/
  | ends {s : Step} {str : Str} {made : Bool} {es : List Event} (h : Str.Leaves str es none) :
      Turn name s ⟨some (.counted str), made⟩ es ⟨none, false⟩
  /-- Compiled code overwrites a count word. -/
  | poke {str : Str} {refcount : Int32} {made : Bool} :
      Turn name (.poke name refcount) ⟨some (.counted str), made⟩ []
        ⟨some (.counted (str.withRefcount refcount)), made⟩
  /-- Bytes are written without regard to a header. -/
  | overwrite {s : Step} {b : Binding} {buffer : Buffer} {made : Bool} {es : List Event}
      (hs : s.writesPlain = true) (h : ∀ e ∈ es, e.isOwnership = false) :
      Turn name s ⟨some b, made⟩ es ⟨some (Program.withBuffer b buffer), made⟩

namespace Program

theorem cell_eq {p : Program} {name : String} {b : Option Binding} (h : p.binding? name = b) :
    p.cell name = ⟨b, (p.cell name).made⟩ := by
  rw [← h]
  rfl

theorem binding?_of_cell {p : Program} {name : String} {b : Option Binding} {made : Bool}
    (h : p.cell name = ⟨b, made⟩) : p.binding? name = b :=
  congrArg Cell.binding h

theorem mem_made_of_cell {p : Program} {name : String} {b : Option Binding}
    (h : p.cell name = ⟨b, true⟩) : name ∈ p.made :=
  of_decide_eq_true (congrArg Cell.made h)

/-- A call that leaves something of a string, or nothing, is a turn. -/
theorem turn_leave {p : Program} {name : String} {str : Str} (s : Step)
    (hb : p.binding? name = some (.counted str)) {es : List Event} {left : Option Str}
    (h : Str.Leaves str es left) :
    Turn name s (p.cell name) es ((p.leave name left).cell name) := by
  rw [cell_eq hb]
  cases left with
  | none =>
    rw [leave, cell_unbind]
    exact Turn.ends h
  | some t =>
    rw [leave, cell_bind]
    exact Turn.lives h

/-- The end of a way of making a string is a turn of the name it was made for. -/
theorem turn_bindNew {p : Program} {name : String} (s : Step) (hfree : (p.cell name).IsFree)
    {x : Outcome (Option Str)} (h : Birth x) :
    Turn name s (p.cell name) x.events
      ((p.bindNew name (x.orRecord none).value).cell name) := by
  cases h with
  | absent hn =>
    show Turn name s _ _ ((p.bind name .null).cell name)
    rw [cell_bind]
    exact Turn.absent hfree fun e he => Event.isOwnership_of_isNote (hn e he)
  | fresh hn hc =>
    show Turn name s _ _ ((p.bindMade name _).cell name)
    rw [cell_bindMade]
    exact Turn.born hfree hn hc
  | failed hn ha =>
    show Turn name s _ _ ((p.bind name .null).cell name)
    rw [cell_bind]
    refine Turn.absent hfree fun e he => ?_
    rcases List.mem_append.mp he with he | he
    · exact Event.isOwnership_of_isNote (hn e he)
    · rw [List.mem_singleton.mp he]
      exact Event.isOwnership_of_failure? ha

/-- A step that only tells something is an idle turn. -/
theorem turn_tell (p : Program) (name : String) (s : Step) (reply : Reply) :
    Turn name s (p.cell name) (Effect.tell p reply).events
      ((Effect.tell p reply).after.cell name) :=
  Turn.idle (by simp [Effect.tell])

theorem turn_make (p : Program) (name : String) (source : Source) :
    Turn name (.make name source) (p.cell name) (p.make name source).events
      ((p.make name source).after.cell name) := by
  rcases p.make_cases name source with ⟨reply, hx⟩ | ⟨hfree, hx⟩
  · rw [hx]
    exact p.turn_tell name _ reply
  · have hturn := turn_bindNew (.make name source) ((p.isFree_iff name).mp hfree)
      (p.build_birth source)
    rcases hx with ⟨s, hs, hx⟩ | ⟨error, he, hx⟩
    · rw [Outcome.orRecord_ok hs] at hturn
      rw [hx]
      exact hturn
    · rw [Outcome.orRecord_error he] at hturn
      rw [hx]
      exact hturn

theorem turn_makeThrough (p : Program) (thread : Nat) (name : String) (source : CountedSource) :
    Turn name (.makeThrough name source) (p.cell name) (p.makeThrough thread name source).events
      ((p.makeThrough thread name source).after.cell name) := by
  rcases p.makeThrough_cases thread name source with ⟨reply, hx, -⟩ | ⟨hfree, hx⟩
  · rw [hx]
    exact p.turn_tell name _ reply
  · have hturn := turn_bindNew (.makeThrough name source) ((p.isFree_iff name).mp hfree)
      (p.outcomeBehind_birth source)
    rcases hx with ⟨s, hs, hx⟩ | ⟨error, he, hx⟩
    · rw [Outcome.orRecord_ok hs] at hturn
      rw [hx]
      exact hturn
    · rw [Outcome.orRecord_error he] at hturn
      rw [hx]
      exact hturn

theorem turn_call (p : Program) (name : String) (c : StrCall) :
    Turn name (.call name c) (p.cell name) (p.call name c).events
      ((p.call name c).after.cell name) := by
  rcases p.call_cases name c with ⟨reply, hx⟩ | ⟨s, hs, hx⟩
  · rw [hx]
    exact p.turn_tell name _ reply
  · have hlife := c.run_leaves s
    rcases hx with ⟨left, reply, hr, hx⟩ | ⟨error, he, hx⟩
    · rw [hr] at hlife
      rw [hx]
      exact turn_leave _ hs hlife
    · rw [he] at hlife
      rw [hx]
      show Turn name _ (p.cell name) _ (p.cell name)
      rw [cell_eq hs]
      exact Turn.lives (Str.Leaves.stays hlife)

theorem turn_readPlain (p : Program) (name : String) (index : Int) :
    Turn name (.readPlain name index) (p.cell name) (p.readPlain name index).events
      ((p.readPlain name index).after.cell name) := by
  rcases p.readPlain_cases name index with ⟨reply, hx⟩ | ⟨buffer, hx⟩
  · rw [hx]
    exact p.turn_tell name _ reply
  · rw [hx]
    exact Turn.idle fun e he => Buffer.isOwnership_of_mem_readAt he

theorem turn_writePlain (p : Program) (name : String) (index : Int) (value : UInt8) :
    Turn name (.writePlain name index value) (p.cell name) (p.writePlain name index value).events
      ((p.writePlain name index value).after.cell name) := by
  rcases p.writePlain_cases name index value with ⟨reply, hx⟩ | ⟨b, buffer, hb, -, hx⟩
  · rw [hx]
    exact p.turn_tell name _ reply
  · have hquiet : ∀ e ∈ (buffer.writeAt index value).events, e.isOwnership = false :=
      fun e he => Buffer.isOwnership_of_mem_writeAt he
    rcases hx with ⟨written, -, hx⟩ | ⟨error, -, hx⟩
    · rw [hx, cell_eq hb]
      show Turn name _ _ _ ((p.bind name (withBuffer b written)).cell name)
      rw [cell_bind]
      exact Turn.overwrite rfl hquiet
    · rw [hx]
      exact Turn.idle hquiet

theorem turn_callCounted (p : Program) (thread : Nat) (name : String) (c : PointerCall) :
    Turn name (.callThrough .counted (some name) c) (p.cell name)
      (p.callCounted thread (some name) c).events
      ((p.callCounted thread (some name) c).after.cell name) := by
  rcases p.callCounted_cases thread (some name) c with ⟨reply, hx, -⟩ | ⟨n, s, hn, hs, -, hx⟩
  · rw [hx]
    exact p.turn_tell name _ reply
  · cases hn
    rw [hx]
    exact turn_leave _ hs (c.runCounted_leaves s)

/-- Putting the bytes back that a binding has changes nothing. -/
theorem withBuffer_buffer {b : Binding} {buffer : Buffer} (h : buffer? b = some buffer) :
    withBuffer b buffer = b := by
  cases b with
  | null => rfl
  | counted s =>
    rw [← Option.some.inj h]
    rfl
  | plain buffer' =>
    rw [← Option.some.inj h]
    rfl

theorem turn_callPlain (p : Program) (thread : Nat) (name : String) (c : PointerCall) :
    Turn name (.callThrough .plain (some name) c) (p.cell name)
      (p.callPlain thread (some name) c).events
      ((p.callPlain thread (some name) c).after.cell name) := by
  rcases p.callPlain_cases thread (some name) c with
    ⟨reply, hx, -⟩ | ⟨n, b, buffer, x, left, hn, hb, hbuffer, hrun, hleft, -, hx⟩
  · rw [hx]
    exact p.turn_tell name _ reply
  · cases hn
    have hquiet := PointerCall.isOwnership_of_mem_runPlain hrun
    rw [hx]
    show Turn name _ _ _ ((p.bind name (withBuffer b left)).cell name)
    rw [cell_bind, cell_eq hb]
    cases hw : c.writes with
    | true => exact Turn.overwrite hw hquiet
    | false =>
      have hsame : some left = some buffer :=
        hleft.symm.trans (PointerCall.value_runPlain hrun hw)
      cases hsame
      rw [withBuffer_buffer hbuffer]
      exact Turn.idle hquiet

/-- **What a step about a name does to it.** -/
theorem effect_turn (p : Program) (thread : Nat) {s : Step} {name : String}
    (h : s.subject = some name) :
    Turn name s (p.cell name) (p.effect thread s).events
      ((p.effect thread s).after.cell name) := by
  cases s with
  | place name' b =>
    cases Option.some.inj h
    rw [effect]
    split
    · next hfree =>
      show Turn name _ _ [] ((p.bind name b).cell name)
      rw [cell_bind]
      exact Turn.place ((p.isFree_iff name).mp hfree)
    · exact p.turn_tell name _ _
  | poke name' refcount =>
    cases Option.some.inj h
    rw [effect]
    split
    · next s hs =>
      show Turn name _ _ [] ((p.bind name _).cell name)
      rw [cell_bind, cell_eq hs]
      exact Turn.poke
    · exact p.turn_tell name _ _
  | look name' =>
    cases Option.some.inj h
    exact p.turn_tell name _ _
  | make name' source =>
    cases Option.some.inj h
    exact p.turn_make name source
  | call name' c =>
    cases Option.some.inj h
    exact p.turn_call name c
  | readPlain name' index =>
    cases Option.some.inj h
    exact p.turn_readPlain name index
  | writePlain name' index value =>
    cases Option.some.inj h
    exact p.turn_writePlain name index value
  | makeThrough name' source =>
    cases Option.some.inj h
    exact p.turn_makeThrough thread name source
  | callThrough interface name' c =>
    obtain rfl : name' = some name := h
    cases interface with
    | counted => exact p.turn_callCounted thread name c
    | plain => exact p.turn_callPlain thread name c
  | _ => cases h

end Program

end CountedStrings
