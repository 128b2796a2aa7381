import CountedStrings.Proofs.Writes

/-!
# Which indices are accepted

Every access to a byte checks its index against a bound before it touches anything.  What differs
from access to access is the bound, and whether the index comes with a sign.  This file says which
indices each access accepts, and that a failure tells the truth about that.

## 1.  Checked functions

`IsChecked access bound` says that a function of a signed index accepts exactly the indices in
`0..bound`, and refuses every other one with that bound.  All four ways of getting at a byte are of
this kind: reading and writing with regard to a header (`Str.isChecked_readAt`,
`Str.isChecked_writeAt`) and without (`Buffer.isChecked_readAt`, `Buffer.isChecked_writeAt`).

## 2.  Unsigned indices

An unsigned index is clamped to the largest signed one before it is checked.  No bound exceeds that
index, so a clamped index is inside a bound only if the index itself is (`clampIndex_mem_iff`), and
clamping never leads to a byte that was not asked for.  `Str.byteAt_eq` and `Str.setByteAt_eq` say
what an access does, without the clamp; `Str.HasByte` and `Str.TakesByte` say which bytes there are,
without the bounds; and `unsigned_access_is_exact` puts the two together.

What memory grants is assumed, as `Str.IsHeld`: an owned string has all bytes up to its capacity,
and no string is larger than the address space.

## 3.  Reported ranges

`Binding.Access` lists the ways of getting at a byte of what a name stands for, each with the step
that takes it.  `reported_range_is_accepted_range` relates the range in one failure to what the same
access accepts at every index.
-/

namespace CountedStrings

/-! ## 1.  Checked functions -/

/-- Whether a function of an index accepts the indices in `0..bound`, and refuses every other one
with that bound. -/
structure IsChecked {α : Type} (access : Int → Outcome α) (bound : Nat) : Prop where
  accepts : ∀ {index : Int}, 0 ≤ index ∧ index < bound → ∃ a, access index = pure a
  refuses : ∀ {index : Int}, ¬(0 ≤ index ∧ index < bound) → access index = refusal index bound

namespace IsChecked

variable {α : Type} {access : Int → Outcome α} {bound : Nat}

/-- A function that checks its index first is checked. -/
theorem of_eq {f : Int → α}
    (h : ∀ index, access index =
      if 0 ≤ index ∧ index < bound then pure (f index) else refusal index bound) :
    IsChecked access bound where
  accepts := fun hmem => ⟨_, (h _).trans (if_pos hmem)⟩
  refuses := fun hnot => (h _).trans (if_neg hnot)

/-- It succeeds exactly inside the bound. -/
theorem result_eq_ok_iff (h : IsChecked access bound) (index : Int) :
    (∃ a, (access index).result = .ok a) ↔ 0 ≤ index ∧ index < bound := by
  constructor
  · rintro ⟨a, ha⟩
    refine Decidable.byContradiction fun hnot => ?_
    rw [h.refuses hnot] at ha
    cases ha
  · intro hmem
    obtain ⟨a, ha⟩ := h.accepts hmem
    exact ⟨a, congrArg Outcome.result ha⟩

/-- It fails exactly outside the bound, and says so. -/
theorem result_eq_error_iff (h : IsChecked access bound) (index : Int) (error : StringError) :
    (access index).result = .error error ↔
      ¬(0 ≤ index ∧ index < bound) ∧ error = .invalidIndex index bound := by
  constructor
  · intro herror
    have hnot : ¬(0 ≤ index ∧ index < bound) := by
      rw [← h.result_eq_ok_iff]
      rintro ⟨a, ha⟩
      cases ha.symm.trans herror
    rw [h.refuses hnot] at herror
    exact ⟨hnot, (Except.error.inj herror).symm⟩
  · rintro ⟨hnot, rfl⟩
    rw [h.refuses hnot]
    rfl

end IsChecked

/-- An access that is refused unless a condition holds succeeds exactly if it holds. -/
theorem exists_ok_iff {α : Type} {c : Prop} [Decidable c] (a : α) (index : Int) (bound : Nat) :
    (∃ b, (if c then pure a else refusal index bound : Outcome α).result = .ok b) ↔ c := by
  by_cases h : c
  · rw [if_pos h]
    exact iff_of_true ⟨a, rfl⟩ h
  · rw [if_neg h]
    refine iff_of_false ?_ h
    rintro ⟨b, hb⟩
    cases hb

namespace Buffer

theorem isChecked_readAt (buffer : Buffer) : IsChecked buffer.readAt addressBound :=
  .of_eq buffer.readAt_eq

theorem isChecked_writeAt (buffer : Buffer) (value : UInt8) :
    IsChecked (fun index => buffer.writeAt index value) addressBound :=
  .of_eq fun index => buffer.writeAt_eq index value

end Buffer

namespace Str

theorem isChecked_readAt (s : Str) : IsChecked s.readAt s.readBound :=
  .of_eq s.readAt_eq

theorem isChecked_writeAt (s : Str) (value : UInt8) :
    IsChecked (fun index => s.writeAt index value) (s.writeBound value) :=
  .of_eq fun index => s.writeAt_eq index value

/-- A zero can be written wherever a byte can be read. -/
theorem writeBound_zero (s : Str) : s.writeBound 0 = s.readBound := by
  rw [writeBound, readBound]
  cases s.ownedCapacity <;> rfl

/-- At the end of an owned string there is room for a zero only. -/
theorem readBound_eq_writeBound_add_one {s : Str} {capacity : Nat}
    (ho : s.ownedCapacity = some capacity) {value : UInt8} (hvalue : value ≠ 0) :
    s.readBound = s.writeBound value + 1 := by
  rw [readBound_of_owned ho, writeBound_of_owned ho, if_neg hvalue]

theorem readBound_le_addressBound (s : Str) : s.readBound ≤ addressBound := by
  rw [← writeBound_zero]
  exact s.writeBound_le_addressBound 0

end Str

/-! ## 2.  Unsigned indices -/

/-- A clamped index keeps its value as long as there is a signed index of that value. -/
theorem clampIndex_of_le {index : Nat} (h : index ≤ addressBound) : clampIndex index = index := by
  rw [clampIndex]
  omega

/-- All other indices become the largest signed one. -/
theorem clampIndex_of_lt {index : Nat} (h : addressBound < index) :
    clampIndex index = addressBound := by
  rw [clampIndex]
  omega

/-- **Clamping brings no index inside a bound**, because no bound exceeds the largest signed index
and all bounds are exclusive. -/
theorem clampIndex_mem_iff {bound : Nat} (h : bound ≤ addressBound) (index : Nat) :
    (0 ≤ clampIndex index ∧ clampIndex index < bound) ↔ index < bound := by
  rcases Nat.lt_or_ge addressBound index with hlarge | hsmall
  · rw [clampIndex_of_lt hlarge]
    omega
  · rw [clampIndex_of_le hsmall]
    omega

namespace Str

variable {s : Str} {index : Nat} {value : UInt8}

/-- What reading at an unsigned index gives. -/
theorem byteAt_eq (s : Str) (index : Nat) :
    s.byteAt index =
      if index < s.readBound then pure (Buffer.load s.storage index)
      else refusal (clampIndex index) s.readBound := by
  have hmem := clampIndex_mem_iff s.readBound_le_addressBound index
  rw [byteAt, readAt_eq]
  by_cases h : index < s.readBound
  · have hle : index ≤ addressBound := by
      have hbound := s.readBound_le_addressBound
      omega
    rw [if_pos (hmem.mpr h), if_pos h, clampIndex_of_le hle, Int.toNat_natCast]
  · rw [if_neg (hmem.not.mpr h), if_neg h]

/-- What writing at an unsigned index gives. -/
theorem setByteAt_eq (s : Str) (index : Nat) (value : UInt8) :
    s.setByteAt index value =
      if index < s.writeBound value then pure (s.withStorage (Buffer.store s.storage index value))
      else refusal (clampIndex index) (s.writeBound value) := by
  have hmem := clampIndex_mem_iff (s.writeBound_le_addressBound value) index
  rw [setByteAt, writeAt_eq]
  by_cases h : index < s.writeBound value
  · have hle : index ≤ addressBound := by
      have hbound := s.writeBound_le_addressBound value
      omega
    rw [if_pos (hmem.mpr h), if_pos h, clampIndex_of_le hle, Int.toNat_natCast]
  · rw [if_neg (hmem.not.mpr h), if_neg h]

/-! ### Which bytes there are -/

/-- What memory grants to a string: an owned one has all bytes up to its capacity, and none is
larger than the address space. -/
structure IsHeld (s : Str) : Prop where
  size_le : s.storage.size ≤ addressBound
  capacity_lt : ∀ {capacity : Nat}, s.ownedCapacity = some capacity → capacity < s.storage.size

/-- Whether a string has a byte at an index: an owned one up to its capacity, a foreign one inside
its storage. -/
def HasByte (s : Str) (index : Nat) : Prop :=
  match s.ownedCapacity with
  | some capacity => index ≤ capacity
  | none => index < s.storage.size

/-- Whether a string has room for a value at an index: an owned one below its capacity, and at its
capacity for a zero; a foreign one inside its storage. -/
def TakesByte (s : Str) (index : Nat) (value : UInt8) : Prop :=
  match s.ownedCapacity with
  | some capacity => index < capacity ∨ index = capacity ∧ value = 0
  | none => index < s.storage.size

instance (s : Str) (index : Nat) : Decidable (s.HasByte index) :=
  match h : s.ownedCapacity with
  | some capacity => decidable_of_iff (index ≤ capacity) (by rw [HasByte, h])
  | none => decidable_of_iff (index < s.storage.size) (by rw [HasByte, h])

instance (s : Str) (index : Nat) (value : UInt8) : Decidable (s.TakesByte index value) :=
  match h : s.ownedCapacity with
  | some capacity =>
    decidable_of_iff (index < capacity ∨ index = capacity ∧ value = 0) (by rw [TakesByte, h])
  | none => decidable_of_iff (index < s.storage.size) (by rw [TakesByte, h])

/-- Whether an index is one that compiled code may use: any index of an owned string, and of a
foreign one those inside its storage and those that no storage reaches. -/
def MayAsk (s : Str) (index : Nat) : Prop :=
  s.ownedCapacity = none → index < s.storage.size ∨ addressBound ≤ index

/-- The bound for reading is where the bytes end, as far as an index may be used. -/
theorem hasByte_iff (hs : s.IsHeld) (hindex : s.MayAsk index) :
    s.HasByte index ↔ index < s.readBound := by
  rw [HasByte, readBound]
  cases ho : s.ownedCapacity with
  | some capacity => exact Nat.lt_succ_iff.symm
  | none =>
    have hsize := hs.size_le
    constructor
    · intro hin
      exact Nat.lt_of_lt_of_le hin hsize
    · intro hin
      rcases hindex ho with hlt | hge
      · exact hlt
      · exact absurd hin (Nat.not_lt.mpr hge)

/-- The bound for writing a value is where the room for it ends, as far as an index may be used. -/
theorem takesByte_iff (hs : s.IsHeld) (hindex : s.MayAsk index) :
    s.TakesByte index value ↔ index < s.writeBound value := by
  cases ho : s.ownedCapacity with
  | some capacity =>
    rw [TakesByte, ho, writeBound_of_owned ho]
    by_cases hzero : value = 0
    · simp only [hzero, and_true, if_true]
      omega
    · simp only [hzero, and_false, or_false, if_false]
  | none =>
    have hread := hasByte_iff hs hindex
    rw [HasByte, readBound_of_foreign ho, ho] at hread
    rw [TakesByte, writeBound_of_foreign ho, ho]
    exact hread

/-- There is memory behind every byte that a string has. -/
theorem HasByte.lt_size (h : s.HasByte index) (hs : s.IsHeld) : index < s.storage.size := by
  rw [HasByte] at h
  cases ho : s.ownedCapacity with
  | some capacity =>
    rw [ho] at h
    exact Nat.lt_of_le_of_lt h (hs.capacity_lt ho)
  | none =>
    rw [ho] at h
    exact h

theorem TakesByte.hasByte (h : s.TakesByte index value) : s.HasByte index := by
  rw [TakesByte] at h
  rw [HasByte]
  cases ho : s.ownedCapacity with
  | some capacity =>
    rw [ho] at h
    dsimp only at h ⊢
    omega
  | none =>
    rw [ho] at h
    exact h

/-- What a write leaves of a string: the value at the index, and all else as it was. -/
structure IsWritten (s : Str) (index : Nat) (value : UInt8) (t : Str) : Prop where
  refcount_eq : t.refcount = s.refcount
  info_eq : t.info = s.info
  size_eq : t.storage.size = s.storage.size
  getElem?_eq : ∀ j, t.storage[j]? = if j = index then some value else s.storage[j]?

/-- Storing a byte inside the storage writes it. -/
theorem isWritten_store (hlt : index < s.storage.size) :
    s.IsWritten index value (s.withStorage (Buffer.store s.storage index value)) := by
  refine ⟨rfl, rfl, Buffer.size_store _ _ _, fun j => ?_⟩
  rw [storage_withStorage, Buffer.store, Array.getElem?_setIfInBounds]
  by_cases hj : j = index
  · rw [if_pos hj, if_pos hj.symm, if_pos hlt]
  · rw [if_neg hj, if_neg (Ne.symm hj)]

end Str

/-! ### Steps -/

namespace Program

variable {p : Program} {name : String} {s : Str}

/-- Reading leaves the process as it is. -/
theorem after_byteAt (hb : p.binding? name = some (.counted s)) (thread index : Nat) :
    (p.step thread (.call name (.byteAt index))).2 = p := by
  show (p.call name (.byteAt index)).after = p
  rcases p.call_cases name (.byteAt index) with
    ⟨reply, h⟩ | ⟨t, ht, ⟨left, reply, hrun, h⟩ | ⟨_, -, h⟩⟩
  · rw [h]
    rfl
  · obtain rfl : s = t := by cases hb.symm.trans ht; rfl
    rw [StrCall.run, Outcome.bind_pure_eq, Str.byteAt_eq] at hrun
    split at hrun
    · obtain rfl : some s = left := congrArg Prod.fst (Except.ok.inj hrun)
      rw [h]
      exact bind_of_binding? hb
    · cases hrun
  · rw [h]

/-- A write that succeeds leaves the written string, and that is all. -/
theorem effect_setByteAt_of_ok (hb : p.binding? name = some (.counted s)) {index : Nat}
    {value : UInt8} (hlt : index < s.storage.size) {t : Str}
    (h : (s.setByteAt index value).result = .ok t) (thread : Nat) :
    p.effect thread (.call name (.setByteAt index value)) =
      ⟨.ok .done, p.bind name (.counted t), []⟩ := by
  have hinside : (StrCall.setByteAt index value).staysInside s = true := by
    have hle : clampIndex index ≤ index := by
      rw [clampIndex]
      omega
    have hvouch : clampIndex index < s.storage.size := by omega
    simp [StrCall.staysInside, Str.vouchesFor, Buffer.vouchesFor, hvouch]
  have hevents : (s.setByteAt index value).events = [] := by
    rw [Str.setByteAt_eq] at h ⊢
    split at h
    · next hbound => rw [if_pos hbound]; rfl
    · cases h
  have hrun : (StrCall.setByteAt index value).run s = ⟨.ok (some t, .done), []⟩ := by
    rw [StrCall.run, Outcome.bind_pure_eq, h, hevents]
    rfl
  show p.call name (.setByteAt index value) = _
  rw [call_of_ok hb hinside (congrArg Outcome.result hrun), hrun]
  rfl

/-- A write that fails leaves the process as it is. -/
theorem after_setByteAt_of_error (hb : p.binding? name = some (.counted s)) {index : Nat}
    {value : UInt8} {error : StringError} (h : (s.setByteAt index value).result = .error error)
    (thread : Nat) : (p.step thread (.call name (.setByteAt index value))).2 = p := by
  show (p.call name (.setByteAt index value)).after = p
  rcases p.call_cases name (.setByteAt index value) with
    ⟨reply, hx⟩ | ⟨t, ht, ⟨_, _, hrun, -⟩ | ⟨_, -, hx⟩⟩
  · rw [hx]
    rfl
  · obtain rfl : s = t := by cases hb.symm.trans ht; rfl
    rw [StrCall.run, Outcome.bind_pure_eq, h] at hrun
    cases hrun
  · rw [hx]

/-- Two calls that do the same with every string are the same call. -/
theorem call_congr (p : Program) (name : String) {c c' : StrCall}
    (hinside : ∀ s, c.staysInside s = c'.staysInside s) (hrun : ∀ s, c.run s = c'.run s) :
    p.call name c = p.call name c' := by
  rw [call, call]
  split
  · rw [hinside, hrun]
  · rfl

/-- As long as there is a signed index of the same value, it does not matter for a step with which
of the two it comes. -/
theorem step_of_le (p : Program) {index : Nat} (h : index ≤ addressBound) (thread : Nat)
    (name : String) :
    p.step thread (.call name (.byteAt index)) = p.step thread (.call name (.readAt index)) ∧
      ∀ value, p.step thread (.call name (.setByteAt index value)) =
        p.step thread (.call name (.writeAt index value)) := by
  have hclamp := clampIndex_of_le h
  have hread : p.call name (.byteAt index) = p.call name (.readAt index) := by
    refine p.call_congr name (fun s => ?_) fun s => ?_
    · rw [StrCall.staysInside, StrCall.staysInside, hclamp]
    · rw [StrCall.run, StrCall.run, Str.byteAt, hclamp]
  have hwrite : ∀ value,
      p.call name (.setByteAt index value) = p.call name (.writeAt index value) := by
    intro value
    refine p.call_congr name (fun s => ?_) fun s => ?_
    · rw [StrCall.staysInside, StrCall.staysInside, hclamp]
    · rw [StrCall.run, StrCall.run, Str.setByteAt, hclamp]
  refine ⟨?_, fun value => ?_⟩
  · simp only [step, effect, hread, Step.subject]
  · simp only [step, effect, hwrite, Step.subject]

/-- **Unsigned indices get at the byte that they name, or at none.**  Take a string in memory, owned
or foreign, and any unsigned index, of a foreign string one that is inside its storage or that no
storage reaches.

* Reading succeeds exactly if the string has a byte at the index; then it gives that byte.  It
  leaves the process as it is.
* Writing a value succeeds exactly if the string has room for it at the index; then the value is at
  the index, and every other byte, both words of the header, and everything else in the process are
  as they were.  A write that fails leaves the process as it is.
* If there is a signed index of the same value, access by that one is the same: it gives, reports
  and leaves the same, as a call and as a step.
* If there is none, every access is refused with the largest signed index.
* No access accepts a signed index below zero, with regard to a header or without. -/
theorem unsigned_access_is_exact (hs : s.IsHeld) {index : Nat} (hindex : s.MayAsk index)
    (hb : p.binding? name = some (.counted s)) (thread : Nat) :
    ((∃ byte, (s.byteAt index).result = .ok byte) ↔ s.HasByte index) ∧
    (∀ byte, (s.byteAt index).result = .ok byte → s.storage[index]? = some byte) ∧
    (p.step thread (.call name (.byteAt index))).2 = p ∧
    (∀ value,
      let x := s.setByteAt index value
      let after := (p.step thread (.call name (.setByteAt index value))).2
      ((∃ t, x.result = .ok t) ↔ s.TakesByte index value) ∧
      (∀ t, x.result = .ok t → s.IsWritten index value t ∧ after = p.bind name (.counted t)) ∧
      (∀ error, x.result = .error error → after = p)) ∧
    (index ≤ 9223372036854775807 →
      (s.byteAt index = s.readAt index ∧
        ∀ value, s.setByteAt index value = s.writeAt index value) ∧
      p.step thread (.call name (.byteAt index)) = p.step thread (.call name (.readAt index)) ∧
        ∀ value, p.step thread (.call name (.setByteAt index value)) =
          p.step thread (.call name (.writeAt index value))) ∧
    (9223372036854775807 < index →
      s.byteAt index = refusal 9223372036854775807 s.readBound ∧
        ∀ value, s.setByteAt index value = refusal 9223372036854775807 (s.writeBound value)) ∧
    ∀ i : Int, i < 0 →
      (∀ t : Str, t.readAt i = refusal i t.readBound ∧
        ∀ value, t.writeAt i value = refusal i (t.writeBound value)) ∧
      ∀ buffer : Buffer, buffer.readAt i = refusal i addressBound ∧
        ∀ value, buffer.writeAt i value = refusal i addressBound := by
  have hread := s.byteAt_eq index
  have hhas := Str.hasByte_iff hs hindex
  refine ⟨?_, fun byte hbyte => ?_, after_byteAt hb thread index, fun value => ?_, fun hle => ?_,
    fun hlt => ?_, fun i hi => ?_⟩
  · rw [hhas, hread]
    exact exists_ok_iff _ _ _
  · rw [hread] at hbyte
    split at hbyte
    · next h =>
      have hlt := (hhas.mpr h).lt_size hs
      rw [← Except.ok.inj hbyte, Buffer.load, Array.getElem?_eq_getElem hlt]
      rfl
    · cases hbyte
  · have hwrite := s.setByteAt_eq index value
    have htakes : s.TakesByte index value ↔ index < s.writeBound value :=
      Str.takesByte_iff hs hindex
    intro x after
    refine ⟨?_, fun t ht => ?_, fun error herror => after_setByteAt_of_error hb herror thread⟩
    · show (∃ t, (s.setByteAt index value).result = .ok t) ↔ _
      rw [htakes, hwrite]
      exact exists_ok_iff _ _ _
    · have hresult : (s.setByteAt index value).result = .ok t := ht
      rw [hwrite] at hresult
      split at hresult
      · next h =>
        have hlt := (htakes.mpr h).hasByte.lt_size hs
        refine ⟨?_, congrArg Effect.after (effect_setByteAt_of_ok hb hlt ht thread)⟩
        rw [← Except.ok.inj hresult]
        exact Str.isWritten_store hlt
      · cases hresult
  · have hclamp := clampIndex_of_le hle
    exact ⟨⟨congrArg s.readAt hclamp, fun value => congrArg (s.writeAt · value) hclamp⟩,
      p.step_of_le hle thread name⟩
  · have hclamp := clampIndex_of_lt hlt
    have hfar : ∀ {bound : Nat}, bound ≤ addressBound → ¬ index < bound := by
      intro bound hbound hin
      have hreach : index < addressBound := Nat.lt_of_lt_of_le hin hbound
      exact absurd hlt (Nat.not_lt.mpr (Nat.le_of_lt hreach))
    refine ⟨?_, fun value => ?_⟩
    · rw [hread, if_neg (hfar s.readBound_le_addressBound), hclamp]
      rfl
    · rw [s.setByteAt_eq, if_neg (hfar (s.writeBound_le_addressBound value)), hclamp]
      rfl
  · have hnot : ∀ bound : Nat, ¬(0 ≤ i ∧ i < bound) := fun bound hmem => by omega
    exact ⟨fun t => ⟨t.isChecked_readAt.refuses (hnot _),
        fun value => (t.isChecked_writeAt value).refuses (hnot _)⟩,
      fun buffer => ⟨buffer.isChecked_readAt.refuses (hnot _),
        fun value => (buffer.isChecked_writeAt value).refuses (hnot _)⟩⟩

/-- The last byte of an owned string, the last index that a foreign one does not refuse by its sign,
and an index that is one more than the largest signed one. -/
theorem exact_access_to_two_strings :
    let own : Str := ⟨1, ownedInfo 2, #[97, 98, 0]⟩
    let literal : Str := ⟨-7, 5, #[104, 0, 33]⟩
    let p : Program := ((start (.filledWith 7 64) ⟨∅⟩ [] .silent true).bind "own"
      (.counted own)).bind "literal" (.counted literal)
    own.IsHeld ∧ literal.IsHeld ∧ literal.MayAsk 2 ∧ literal.MayAsk 9223372036854775808 ∧
      (∃ t, (own.setByteAt 2 0).result = .ok t ∧ own.IsWritten 2 0 t) ∧
      (∀ t, (own.setByteAt 2 33).result ≠ .ok t) ∧
      (own.setByteAt 9223372036854775808 0).result =
        .error (.invalidIndex 9223372036854775807 3) ∧
      (literal.byteAt 2).result = .ok 33 ∧
      (literal.byteAt 9223372036854775808).result =
        .error (.invalidIndex 9223372036854775807 9223372036854775807) ∧
      (p.step 0 (.call "literal" (.setByteAt 9223372036854775808 0))).2 = p := by
  intro own literal p
  have hown : own.IsHeld := by
    refine ⟨by decide, fun ho => ?_⟩
    rw [← Option.some.inj ((show own.ownedCapacity = some 2 by decide).symm.trans ho)]
    decide
  have hliteral : literal.IsHeld := by
    refine ⟨by decide, fun ho => ?_⟩
    cases (show literal.ownedCapacity = none by decide).symm.trans ho
  have hany : ∀ index, own.MayAsk index := fun index ho => absurd ho (by decide)
  have hinside : literal.MayAsk 2 := fun _ => Or.inl (by decide)
  have hfar : literal.MayAsk 9223372036854775808 := fun _ => Or.inr (by decide)
  have hbown : p.binding? "own" = some (.counted own) := by decide
  have hbliteral : p.binding? "literal" = some (.counted literal) := by decide
  obtain ⟨-, -, -, hlast, -, -, -⟩ := unsigned_access_is_exact hown (hany 2) hbown 0
  obtain ⟨-, -, -, -, -, hlarge, -⟩ :=
    unsigned_access_is_exact hown (hany 9223372036854775808) hbown 0
  obtain ⟨hreads, hbyte, -, -, -, -, -⟩ := unsigned_access_is_exact hliteral hinside hbliteral 0
  obtain ⟨-, -, -, hrefused, -, hlarge', -⟩ := unsigned_access_is_exact hliteral hfar hbliteral 0
  obtain ⟨hread, hwrite⟩ := hlarge' (by decide)
  refine ⟨hown, hliteral, hinside, hfar, ?_, fun t ht => ?_, ?_, ?_, congrArg Outcome.result hread,
    (hrefused 0).2.2 _ (congrArg Outcome.result (hwrite 0))⟩
  · obtain ⟨t, ht⟩ := (hlast 0).1.mpr (by decide)
    exact ⟨t, ht, ((hlast 0).2.1 t ht).1⟩
  · have hroom : own.TakesByte 2 33 := (hlast 33).1.mp ⟨t, ht⟩
    exact absurd hroom (by decide)
  · have hbound : own.writeBound 0 = 3 := by decide
    rw [(hlarge (by decide)).2 0, hbound]
    rfl
  · have hthere : literal.storage[2]? = some 33 := by decide
    obtain ⟨byte, hok⟩ := hreads.mpr (by decide)
    rw [hok, Option.some.inj ((hbyte byte hok).symm.trans hthere)]

end Program

/-! ## 3.  Reported ranges -/

/-- How a step that takes an access at an index follows it: the step is refused, because the index
leaves the bytes and nothing checks it; or it succeeds as the access does; or it fails as the access
does, and leaves the process as it is. -/
inductive Effect.Follows {α : Type} (p : Program) (size : Nat) (index : Int) (x : Outcome α)
    (e : Effect) : Prop
  | refused (houtside : ¬ index < size) (he : e = .refuseOutside p)
  | ok {a : α} {reply : Reply} (hx : x.result = .ok a) (he : e.result = .ok reply)
      (hreply : ∀ reason, reply ≠ .refused reason)
  | error {error : StringError} (hx : x.result = .error error) (he : e.result = .error error)
      (hafter : e.after = p)

namespace Program

variable {p : Program} {name : String} {s : Str} {index : Int}

/-- A call of the library follows the access that it is made of. -/
theorem call_follows (hb : p.binding? name = some (.counted s)) {c : StrCall}
    (hinside : c.staysInside s = s.vouchesFor index) {α : Type} {x : Outcome α}
    {f : α → Option Str × Reply} (hrun : c.run s = x >>= fun a => pure (f a))
    (hreply : ∀ a reason, (f a).2 ≠ .refused reason) :
    (p.call name c).Follows p s.storage.size index x := by
  rw [Outcome.bind_pure_eq] at hrun
  cases hvouch : s.vouchesFor index with
  | false =>
    refine .refused (fun hlt => ?_) (by simp [call, hb, hinside, hvouch])
    simp [Str.vouchesFor, Buffer.vouchesFor, hlt] at hvouch
  | true =>
    rw [hvouch] at hinside
    cases hx : x.result with
    | ok a =>
      rw [hx] at hrun
      have hcall := call_of_ok hb hinside (congrArg Outcome.result hrun)
      exact .ok hx (congrArg Effect.result hcall) (hreply a)
    | error error =>
      rw [hx] at hrun
      have hcall := call_of_error hb hinside (congrArg Outcome.result hrun)
      exact .error hx (congrArg Effect.result hcall) (congrArg Effect.after hcall)

variable {b : Binding} {buffer : Buffer}

theorem readPlain_follows (hb : p.binding? name = some b) (hbuffer : buffer? b = some buffer) :
    (p.readPlain name index).Follows p buffer.size index (buffer.readAt index) := by
  have hread : (p.binding? name).bind buffer? = some buffer := by rw [hb]; exact hbuffer
  rw [readPlain, hread]
  cases hvouch : buffer.vouchesFor index with
  | false =>
    refine .refused (fun hlt => ?_) (by simp [hvouch])
    simp [Buffer.vouchesFor, hlt] at hvouch
  | true =>
    simp only [hvouch, if_true]
    cases hx : (buffer.readAt index).result with
    | ok byte => exact .ok hx rfl (by simp)
    | error error => exact .error hx rfl rfl

theorem writePlain_follows (hb : p.binding? name = some b) (hbuffer : buffer? b = some buffer)
    (value : UInt8) :
    (p.writePlain name index value).Follows p buffer.size index (buffer.writeAt index value) := by
  simp only [writePlain, hb, hbuffer]
  cases hvouch : buffer.vouchesFor index with
  | false =>
    refine .refused (fun hlt => ?_) rfl
    simp [Buffer.vouchesFor, hlt] at hvouch
  | true =>
    simp only [if_true]
    cases hx : (buffer.writeAt index value).result with
    | ok left => exact .ok hx rfl (by simp)
    | error error => exact .error hx rfl rfl

end Program

/-- The ways of getting at a byte of what a name stands for: what each gives at an index, and the
step that takes it on the name. -/
inductive Binding.Access (b : Binding) :
    (α : Type) → (Int → Outcome α) → (String → Int → Step) → Prop
  | read {s : Str} (hb : b = .counted s) :
    Access b UInt8 s.readAt fun name index => .call name (.readAt index)
  | write {s : Str} (hb : b = .counted s) (value : UInt8) :
    Access b Str (fun index => s.writeAt index value) fun name index =>
      .call name (.writeAt index value)
  | readPlain {buffer : Buffer} (hb : Program.buffer? b = some buffer) :
    Access b UInt8 buffer.readAt fun name index => .readPlain name index
  | writePlain {buffer : Buffer} (hb : Program.buffer? b = some buffer) (value : UInt8) :
    Access b Buffer (fun index => buffer.writeAt index value) fun name index =>
      .writePlain name index value

namespace Binding.Access

variable {b : Binding} {α : Type} {access : Int → Outcome α} {take : String → Int → Step}

/-- Every access is checked against one bound, whatever its index. -/
theorem isChecked (h : b.Access α access take) : ∃ bound, IsChecked access bound := by
  cases h with
  | @read s _ => exact ⟨_, s.isChecked_readAt⟩
  | @write s _ value => exact ⟨_, s.isChecked_writeAt value⟩
  | @readPlain buffer _ => exact ⟨_, buffer.isChecked_readAt⟩
  | @writePlain buffer _ value => exact ⟨_, buffer.isChecked_writeAt value⟩

/-- The step of an access follows it. -/
theorem follows (h : b.Access α access take) {p : Program} {name : String}
    (hb : p.binding? name = some b) (thread : Nat) (index : Int) :
    ∃ buffer, Program.buffer? b = some buffer ∧
      (p.effect thread (take name index)).Follows p buffer.size index (access index) := by
  cases h with
  | @read s hs =>
    rw [hs] at hb ⊢
    exact ⟨s.storage, rfl, Program.call_follows hb rfl rfl (by simp)⟩
  | @write s hs value =>
    rw [hs] at hb ⊢
    exact ⟨s.storage, rfl, Program.call_follows hb rfl rfl (by simp)⟩
  | @readPlain buffer hbuffer => exact ⟨buffer, hbuffer, Program.readPlain_follows hb hbuffer⟩
  | @writePlain buffer hbuffer value =>
    exact ⟨buffer, hbuffer, Program.writePlain_follows hb hbuffer value⟩

/-- The steps that take an access succeed and fail where the access does, and a failure leaves the
process as it is.  Inside the bytes, none of them is refused. -/
theorem step_of_isChecked (h : b.Access α access take) {bound : Nat}
    (hchecked : IsChecked access bound) {p : Program} {name : String}
    (hb : p.binding? name = some b) (thread : Nat) (j : Int) :
    let x := p.step thread (take name j)
    (∀ buffer, Program.buffer? b = some buffer → j < buffer.size → x.1.isRefused = false) ∧
    (x.1.isRefused = false →
      ((∃ reply, x.1.result = .ok reply) ↔ 0 ≤ j ∧ j < bound) ∧
      ∀ error, x.1.result = .error error → error = .invalidIndex j bound ∧ x.2 = p) := by
  intro x
  obtain ⟨buffer, hbuffer, hfollows⟩ := h.follows hb thread j
  have hresult : x.1.result = (p.effect thread (take name j)).result := rfl
  cases hfollows with
  | refused houtside he =>
    have hrefused : x.1.isRefused = true :=
      Answer.isRefused_iff.mpr ⟨_, hresult.trans (congrArg Effect.result he)⟩
    refine ⟨fun buffer' hbuffer' hlt => ?_, fun hnot => ?_⟩
    · cases hbuffer.symm.trans hbuffer'
      exact absurd hlt houtside
    · rw [hrefused] at hnot
      cases hnot
  | @ok a reply hx he hreply =>
    have hnot : x.1.isRefused = false := by
      rw [Bool.eq_false_iff, Ne, Answer.isRefused_iff]
      rintro ⟨reason, hreason⟩
      exact hreply reason (Except.ok.inj (he.symm.trans (hresult.symm.trans hreason)))
    have hin := (hchecked.result_eq_ok_iff j).mp ⟨a, hx⟩
    refine ⟨fun _ _ _ => hnot, fun _ => ⟨iff_of_true ⟨reply, hresult.trans he⟩ hin, ?_⟩⟩
    intro error herror
    cases (hresult.trans he).symm.trans herror
  | @error error' hx he hafter =>
    obtain ⟨hout, htold⟩ := (hchecked.result_eq_error_iff j error').mp hx
    have hnot : x.1.isRefused = false := by
      rw [Bool.eq_false_iff, Ne, Answer.isRefused_iff]
      rintro ⟨reason, hreason⟩
      cases (hresult.trans he).symm.trans hreason
    refine ⟨fun _ _ _ => hnot, fun _ => ⟨iff_of_false ?_ hout, ?_⟩⟩
    · rintro ⟨reply, hreply⟩
      cases (hresult.trans he).symm.trans hreply
    · intro error herror
      cases (hresult.trans he).symm.trans herror
      exact ⟨htold, hafter⟩

end Binding.Access

/-- **The range in a failure is the range of what is accepted.**  Take any access to a byte of what
a name stands for, be it an owned string, a foreign one or bytes without a header: reading, or
writing a given value, with regard to a header or without.  If it fails at some index, then it is
for the index, and the failure tells that index and a bound, with these properties.

* The index is not in `0..bound`.
* The same access succeeds at an index exactly if that is in `0..bound`, and all its failures tell
  the same bound.
* So do the steps that take it.  They are not refused at an index inside the bytes, or below zero;
  and one that fails leaves the process as it is, so that the access is still the same.
* Of an owned string, the bound for writing a zero is the one for reading, and one more than the one
  for writing any other value. -/
theorem reported_range_is_accepted_range {b : Binding} {α : Type} {access : Int → Outcome α}
    {take : String → Int → Step} (h : b.Access α access take) {index : Int} {error : StringError}
    (hfail : (access index).result = .error error) :
    ∃ bound, error = .invalidIndex index bound ∧ ¬(0 ≤ index ∧ index < bound) ∧
      (∀ j, ((∃ a, (access j).result = .ok a) ↔ 0 ≤ j ∧ j < bound) ∧
        ∀ error', (access j).result = .error error' → error' = .invalidIndex j bound) ∧
      (∀ (p : Program) (name : String), p.binding? name = some b → ∀ thread j,
        let x := p.step thread (take name j)
        (∀ buffer, Program.buffer? b = some buffer → j < buffer.size → x.1.isRefused = false) ∧
        (x.1.isRefused = false →
          ((∃ reply, x.1.result = .ok reply) ↔ 0 ≤ j ∧ j < bound) ∧
          ∀ error', x.1.result = .error error' →
            error' = .invalidIndex j bound ∧ x.2 = p)) ∧
      ∀ (s : Str) (capacity : Nat), s.ownedCapacity = some capacity →
        ∀ (value : UInt8), value ≠ 0 → ∀ (i j k : Int) (readBound zeroBound valueBound : Nat),
          (s.readAt i).result = .error (.invalidIndex i readBound) →
          (s.writeAt j 0).result = .error (.invalidIndex j zeroBound) →
          (s.writeAt k value).result = .error (.invalidIndex k valueBound) →
            zeroBound = readBound ∧ zeroBound = valueBound + 1 := by
  obtain ⟨bound, hchecked⟩ := h.isChecked
  obtain ⟨hout, hreport⟩ := (hchecked.result_eq_error_iff index error).mp hfail
  refine ⟨bound, hreport, hout, fun j => ⟨hchecked.result_eq_ok_iff j, fun error' herror =>
    ((hchecked.result_eq_error_iff j error').mp herror).2⟩,
    fun p name hb thread j => h.step_of_isChecked hchecked hb thread j,
    fun s capacity ho value hvalue i j k _ _ _ hread hzero hwrite => ?_⟩
  have htold : ∀ {β : Type} {f : Int → Outcome β} {own told : Nat} {i : Int},
      IsChecked f own → (f i).result = .error (.invalidIndex i told) → told = own :=
    fun hf hi => (StringError.invalidIndex.inj ((hf.result_eq_error_iff _ _).mp hi).2).2
  rw [htold s.isChecked_readAt hread, htold (s.isChecked_writeAt 0) hzero,
    htold (s.isChecked_writeAt value) hwrite, s.writeBound_zero]
  exact ⟨rfl, Str.readBound_eq_writeBound_add_one ho hvalue⟩

/-- Something other than a zero is written where an owned string ends, and fails; at the index in
front it succeeds, and below zero it fails with the same bound.  A read and the write of a zero fail
with a bound that is one more. -/
theorem range_of_three_bytes :
    let own : Str := ⟨0, ownedInfo 3, #[97, 98, 99, 0]⟩
    let p : Program :=
      (Program.start (.filledWith 7 64) ⟨∅⟩ [] .silent true).bind "abc" (.counted own)
    (own.writeAt 3 33).result = .error (.invalidIndex 3 3) ∧
      (∃ t, (own.writeAt 2 33).result = .ok t) ∧
      (∀ error, (own.writeAt (-5) 33).result = .error error → error = .invalidIndex (-5) 3) ∧
      (p.step 0 (.call "abc" (.writeAt 3 33))).2 = p ∧
      ∀ bound, (own.readAt 9).result = .error (.invalidIndex 9 bound) → bound = 4 := by
  intro own p
  have hfail : (own.writeAt 3 33).result = .error (.invalidIndex 3 3) := by decide
  have hb : p.binding? "abc" = some (.counted own) := by decide
  obtain ⟨bound, hreport, -, hall, hsteps, hbounds⟩ :=
    reported_range_is_accepted_range (Binding.Access.write (b := .counted own) rfl 33) hfail
  obtain ⟨-, rfl⟩ := StringError.invalidIndex.inj hreport
  obtain ⟨hinside, hstep⟩ := hsteps p "abc" hb 0 3
  obtain ⟨hsuccess, hfailure⟩ := hstep (hinside own.storage rfl (by decide))
  refine ⟨hfail, (hall 2).1.mpr (by decide), (hall (-5)).2, ?_, fun bound hread => ?_⟩
  · cases hx : (p.step 0 (.call "abc" (.writeAt 3 33))).1.result with
    | ok reply => exact absurd (hsuccess.mp ⟨reply, hx⟩) (by decide)
    | error error => exact (hfailure error hx).2
  · exact (hbounds own 3 (by decide) 33 (by decide) 9 9 3 bound 4 3 hread (by decide)
      hfail).1.symm

end CountedStrings
