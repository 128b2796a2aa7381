import CountedStrings.Proofs.EntryPoints
import CountedStrings.Proofs.ForeignStrings
import CountedStrings.Proofs.Slots

/-!
# Writes through the entry points make a bounded array

Compiled code writes bytes through an entry point that takes an index and a number of 32 bits each,
and reads them back through another one.  This file proves that a string of the library is, to such
code, an array of as many bytes as its capacity, with a zero byte behind it that can be written with
zeros only.

## 1.  Puts in a string

`Str.Accepts` says whether a string takes a put, and `Str.put` is the string afterwards.  A put that
is accepted is one that takes place in the bytes (`Accepts.isTaken`), and whether it is accepted
depends on the info word only, so several puts are those among them that are accepted, made in the
bytes one after the other (`foldl_put_eq`).  Below the capacity every put is accepted, and at the
capacity only a zero is: `getElem?_foldl_put_of_lt` and `getElem?_foldl_put_last`.

## 2.  One call

`step_setByte`, `step_getByte_of_mem` and `step_getByte_of_notMem` say what the two entry points do
with any string that vouches for the index, and `step_setByte_signedByte` that a number that was
read can be written back.

## 3.  Lists of writes

`ByteWrite` is a write with the numbers that cross the border.  `after_byteWrites` is what a list of
them leaves: the string after the puts, and `invalidIndex` in the slot of each thread one of whose
writes was turned away.  `writes_make_bounded_array` is the law.
-/

namespace CountedStrings

/-! ## 1.  Puts in a string -/

namespace Put

/-- The byte of the last put at an index is the byte of a put at that index. -/
theorem mem_of_lastAt {ws : List Put} {i : Nat} {value : UInt8} (h : lastAt ws i = some value) :
    (⟨i, value⟩ : Put) ∈ ws := by
  obtain ⟨⟨index, value'⟩, hlast, rfl⟩ := Option.map_eq_some_iff.mp h
  obtain ⟨hmem, hindex⟩ := List.mem_filter.mp (List.mem_of_getLast? hlast)
  obtain rfl : index = i := by simpa using hindex
  exact hmem

/-- Puts at other indices do not matter. -/
theorem lastAt_filter {ws : List Put} {i : Nat} {P : Put → Prop} [DecidablePred P]
    (h : ∀ w ∈ ws, w.index = (i : Int) → P w) :
    lastAt (ws.filter fun w => P w) i = lastAt ws i := by
  rw [lastAt, lastAt, List.filter_filter]
  refine congrArg (fun l : List Put => l.getLast?.map value) (List.filter_congr fun w hw => ?_)
  by_cases hindex : w.index = (i : Int)
  · simp [hindex, h w hw hindex]
  · simp [hindex]

end Put

namespace Str

/-- Whether a string takes a put. -/
def Accepts (s : Str) (w : Put) : Prop := 0 ≤ w.index ∧ w.index < s.writeBound w.value

instance (s : Str) (w : Put) : Decidable (s.Accepts w) := inferInstanceAs (Decidable (_ ∧ _))

/-- A string after a put. -/
def put (s : Str) (w : Put) : Str :=
  if s.Accepts w then s.withStorage (Buffer.put s.storage w) else s

variable {s : Str} {capacity : Nat}

/-- No string is larger than the address space. -/
theorem writeBound_le_addressBound (s : Str) (value : UInt8) :
    s.writeBound value ≤ addressBound := by
  rw [writeBound]
  split
  · next capacity ho =>
    have hle : capacity ≤ 2147483647 := capacityOf_le ho
    show _ ≤ 9223372036854775807
    split <;> omega
  · exact Nat.le_refl _

/-- A put that a string takes is one that takes place in its bytes. -/
theorem Accepts.isTaken {w : Put} (h : s.Accepts w) : w.IsTaken := by
  have hbound := s.writeBound_le_addressBound w.value
  exact ⟨h.1, by have := h.2; omega⟩

theorem put_of_not {w : Put} (h : ¬ s.Accepts w) : s.put w = s := by
  rw [put, if_neg h]

/-- Writing a byte is a put. -/
theorem writeAt_eq_put (s : Str) (w : Put) :
    s.writeAt w.index w.value =
      if s.Accepts w then pure (s.put w) else refusal w.index (s.writeBound w.value) := by
  rw [writeAt_eq]
  show (if s.Accepts w then _ else _) = _
  by_cases h : s.Accepts w
  · rw [if_pos h, if_pos h, put, if_pos h, Buffer.put, if_pos h.isTaken]
  · rw [if_neg h, if_neg h]

/-- **Several puts in a string** are those among them that it takes, made in its bytes. -/
theorem foldl_put_eq (s : Str) (ws : List Put) :
    ws.foldl put s =
      s.withStorage ((ws.filter fun w => s.Accepts w).foldl Buffer.put s.storage) := by
  induction ws generalizing s with
  | nil => rfl
  | cons w rest ih =>
    rw [List.foldl_cons]
    by_cases h : s.Accepts w
    · rw [List.filter_cons_of_pos (by simpa using h), List.foldl_cons, put, if_pos h, ih]
      rfl
    · rw [List.filter_cons_of_neg (by simpa using h), put_of_not h, ih]

@[simp] theorem info_foldl_put (s : Str) (ws : List Put) : (ws.foldl put s).info = s.info := by
  rw [foldl_put_eq]
  rfl

@[simp] theorem refcount_foldl_put (s : Str) (ws : List Put) :
    (ws.foldl put s).refcount = s.refcount := by
  rw [foldl_put_eq]
  rfl

@[simp] theorem size_storage_foldl_put (s : Str) (ws : List Put) :
    (ws.foldl put s).storage.size = s.storage.size := by
  rw [foldl_put_eq]
  exact Buffer.size_foldl_put _ _

theorem ownedCapacity_foldl_put (s : Str) (ws : List Put) :
    (ws.foldl put s).ownedCapacity = s.ownedCapacity :=
  congrArg capacityOf (s.info_foldl_put ws)

/-- After some puts, each byte is that of the last put at its index that the string takes, or the
one that was there before. -/
theorem getElem?_foldl_put (s : Str) (ws : List Put) {i : Nat} (hi : i < s.storage.size) :
    (ws.foldl put s).storage[i]? =
      (Put.lastAt (ws.filter fun w => s.Accepts w) i).or s.storage[i]? := by
  rw [foldl_put_eq]
  refine Buffer.getElem?_foldl_put _ (fun w hw => ?_) hi
  have haccepts : s.Accepts w := by simpa using (List.mem_filter.mp hw).2
  exact haccepts.isTaken

/-! ### Strings of the library -/

theorem writeBound_of_owned (ho : s.ownedCapacity = some capacity) (value : UInt8) :
    s.writeBound value = if value = 0 then capacity + 1 else capacity := by
  rw [writeBound, ho]

theorem readBound_of_owned (ho : s.ownedCapacity = some capacity) : s.readBound = capacity + 1 := by
  rw [readBound, ho]

theorem accepts_iff (ho : s.ownedCapacity = some capacity) (w : Put) :
    s.Accepts w ↔ 0 ≤ w.index ∧ (w.index < capacity ∨ w.index = capacity ∧ w.value = 0) := by
  rw [Accepts, writeBound_of_owned ho]
  by_cases h : w.value = 0
  · rw [if_pos h]
    simp only [h, and_true]
    omega
  · rw [if_neg h]
    simp only [h, and_false, or_false]

/-- Below the capacity, the last put counts. -/
theorem getElem?_foldl_put_of_lt (ho : s.ownedCapacity = some capacity) (ws : List Put) {i : Nat}
    (hi : i < capacity) (hsize : i < s.storage.size) :
    (ws.foldl put s).storage[i]? = (Put.lastAt ws i).or s.storage[i]? := by
  rw [getElem?_foldl_put s ws hsize, Put.lastAt_filter]
  intro w _ hindex
  rw [accepts_iff ho, hindex]
  omega

/-- **The zero byte at the end stays zero**, whatever is put there. -/
theorem getElem?_foldl_put_last (ho : s.ownedCapacity = some capacity)
    (hlast : s.storage[capacity]? = some 0) (ws : List Put) :
    (ws.foldl put s).storage[capacity]? = some 0 := by
  obtain ⟨hsize, -⟩ := Array.getElem?_eq_some_iff.mp hlast
  rw [getElem?_foldl_put s ws hsize, hlast]
  cases hput : Put.lastAt (ws.filter fun w => s.Accepts w) capacity with
  | none => rfl
  | some value =>
    have hmem := List.mem_filter.mp (Put.mem_of_lastAt hput)
    have haccepts : s.Accepts ⟨capacity, value⟩ := by simpa using hmem.2
    obtain ⟨-, hlt | ⟨-, hzero⟩⟩ := (accepts_iff ho _).mp haccepts
    · exact absurd hlt (Int.lt_irrefl _)
    · exact congrArg some hzero

/-- A string that has all bytes of its capacity vouches for every index: it is inside the bytes, or
beyond the capacity and turned away. -/
theorem vouchesFor_of_lt (ho : s.ownedCapacity = some capacity) (hsize : capacity < s.storage.size)
    (index : Int) : s.vouchesFor index = true := by
  rw [vouchesFor, Buffer.vouchesFor, readBound_of_owned ho, ho]
  simp only [Option.any_some, Bool.or_eq_true, decide_eq_true_eq]
  omega

/-- Putting the byte that is there already changes nothing. -/
theorem put_of_getElem? {w : Put} (h : s.storage[w.index.toNat]? = some w.value) : s.put w = s := by
  rw [put]
  split
  · next haccepts =>
    obtain ⟨hi, hbyte⟩ := Array.getElem?_eq_some_iff.mp h
    rw [Buffer.put, if_pos haccepts.isTaken, Buffer.store, Array.setIfInBounds, dif_pos hi, ← hbyte,
      Array.set_getElem_self]
    rfl
  · rfl

end Str

/-! ## 2.  One call -/

/-- The low byte of a number is what remains of it modulo 256. -/
theorem toNat_ofInt (value : Int) : ((UInt8.ofInt value).toNat : Int) = value % 256 := by
  rw [ofInt_eq_mod, UInt8.toNat_ofNat']
  omega

theorem ofInt_eq_zero_iff (value : Int) : UInt8.ofInt value = 0 ↔ value % 256 = 0 := by
  rw [← UInt8.toNat_inj, ← toNat_ofInt]
  exact Int.natCast_eq_zero.symm

/-- The number that a byte is on the way out is the byte modulo 256. -/
theorem signedByte_emod (byte : UInt8) : signedByte byte % 256 = byte.toNat := by
  have hlt := byte.toNat_lt
  have hmod : (byte.toNat : Int).bmod 256 % (256 : Nat) = byte.toNat % (256 : Nat) := Int.bmod_emod
  rw [signedByte_eq_bmod]
  omega

theorem signedByte_mem_range (byte : UInt8) : -128 ≤ signedByte byte ∧ signedByte byte ≤ 127 := by
  have hlt := byte.toInt8.toInt_lt
  have hle := byte.toInt8.le_toInt
  rw [signedByte]
  omega

/-- On the way back in, a number that came out is the byte that it was. -/
theorem ofInt_signedByte (byte : UInt8) : UInt8.ofInt (signedByte byte) = byte := by
  have hout := signedByte_emod byte
  rw [← toNat_ofInt] at hout
  exact UInt8.toNat_inj.mp (Int.ofNat.inj hout)

namespace Counted

/-- Writing through the entry point is a put of the low byte. -/
theorem setByte_eq_put (s : Str) (index value : Int) :
    setByte (some s) index value =
      if s.Accepts ⟨index, UInt8.ofInt value⟩ then
        ⟨some (s.put ⟨index, UInt8.ofInt value⟩), none, []⟩
      else ⟨some s, some .invalidIndex,
        [.indexOutOfBounds index (s.writeBound (UInt8.ofInt value))]⟩ := by
  rw [setByte, s.writeAt_eq_put ⟨index, UInt8.ofInt value⟩]
  split <;> rfl

theorem getByte_eq (s : Str) (index : Int) :
    getByte (some s) index =
      if 0 ≤ index ∧ index < s.readBound then
        ⟨signedByte (Buffer.load s.storage index.toNat), none, []⟩
      else ⟨0, some .invalidIndex, [.indexOutOfBounds index s.readBound]⟩ := by
  rw [getByte, Str.readAt_eq]
  split <;> rfl

end Counted

namespace Program

variable {p : Program} {name : String} {s : Str} {capacity : Nat}

/-- What a write through the entry point leaves: the string after the put, and a code in the slot of
the thread if the put was turned away. -/
theorem step_setByte (hb : p.binding? name = some (.counted s)) {index : Int}
    (hi : s.vouchesFor index = true) (thread : Nat) (value : Int) :
    (p.step thread (.callThrough .counted (some name) (.setByte index value))).2 =
      (p.bind name (.counted (s.put ⟨index, UInt8.ofInt value⟩))).absorb thread
        (if s.Accepts ⟨index, UInt8.ofInt value⟩ then none else some .invalidIndex) := by
  refine (congrArg Effect.after
    (callCounted_of_counted (c := .setByte index value) thread hb hi)).trans ?_
  rw [PointerCall.runCounted, Recorded.bind_pure_eq, Counted.setByte_eq_put]
  split
  · rfl
  · next h =>
    rw [Str.put_of_not h]
    rfl

/-- What a read through the entry point tells and leaves, inside the bound. -/
theorem step_getByte_of_mem (hb : p.binding? name = some (.counted s)) {index : Int}
    (hi : s.vouchesFor index = true) (hmem : 0 ≤ index ∧ index < s.readBound) (thread : Nat) :
    (p.step thread (.callThrough .counted (some name) (.getByte index))).1.result =
        .ok (.number (signedByte (Buffer.load s.storage index.toNat))) ∧
      (p.step thread (.callThrough .counted (some name) (.getByte index))).2 = p := by
  have hcall := callCounted_of_counted (c := .getByte index) thread hb hi
  have hback : p.leave name (some s) = p := bind_of_binding? hb
  rw [PointerCall.runCounted, Recorded.bind_pure_eq, Counted.getByte_eq, if_pos hmem,
    hback] at hcall
  exact ⟨congrArg Effect.result hcall, congrArg Effect.after hcall⟩

/-- What a read through the entry point tells and leaves, outside the bound. -/
theorem step_getByte_of_notMem (hb : p.binding? name = some (.counted s)) {index : Int}
    (hi : s.vouchesFor index = true) (hmem : ¬(0 ≤ index ∧ index < s.readBound)) (thread : Nat) :
    (p.step thread (.callThrough .counted (some name) (.getByte index))).1.result =
        .ok (.number 0) ∧
      (p.step thread (.callThrough .counted (some name) (.getByte index))).2 =
        p.absorb thread (some .invalidIndex) := by
  have hcall := callCounted_of_counted (c := .getByte index) thread hb hi
  have hback : p.leave name (some s) = p := bind_of_binding? hb
  rw [PointerCall.runCounted, Recorded.bind_pure_eq, Counted.getByte_eq, if_neg hmem,
    hback] at hcall
  exact ⟨congrArg Effect.result hcall, congrArg Effect.after hcall⟩

/-- **A number that was read can be written back**: nothing changes, neither in the string nor in a
slot. -/
theorem step_setByte_signedByte (hb : p.binding? name = some (.counted s))
    (ho : s.ownedCapacity = some capacity) (hlast : s.storage[capacity]? = some 0) {i : Nat}
    (hi : i ≤ capacity) {byte : UInt8} (hbyte : s.storage[i]? = some byte) (thread : Nat) :
    (p.step thread
      (.callThrough .counted (some name) (.setByte i (signedByte byte)))).2 = p := by
  obtain ⟨hsize, -⟩ := Array.getElem?_eq_some_iff.mp hlast
  have hput : s.put ⟨i, byte⟩ = s := Str.put_of_getElem? hbyte
  have haccepts : s.Accepts ⟨i, byte⟩ := by
    refine (Str.accepts_iff ho _).mpr ⟨Int.natCast_nonneg i, ?_⟩
    rcases Nat.lt_or_eq_of_le hi with hlt | rfl
    · exact Or.inl (Int.ofNat_lt.mpr hlt)
    · exact Or.inr ⟨rfl, Option.some.inj (hbyte.symm.trans hlast)⟩
  rw [step_setByte hb (Str.vouchesFor_of_lt ho hsize i) thread, ofInt_signedByte, hput,
    if_pos haccepts, bind_of_binding? hb]
  rfl

end Program

/-! ## 3.  Lists of writes -/

/-- A write by a thread through the entry point, with the numbers that cross the border. -/
structure ByteWrite where
  thread : Nat
  index : Int32
  value : Int32

namespace ByteWrite

/-- The put that a write asks for: only the low byte of the number counts. -/
def put (w : ByteWrite) : Put := ⟨w.index.toInt, UInt8.ofInt w.value.toInt⟩

/-- The step that makes a write on the string under a name. -/
def on (name : String) (w : ByteWrite) : Nat × Step :=
  (w.thread, .callThrough .counted (some name) (.setByte w.index.toInt w.value.toInt))

/-- Whether a string of a capacity turns a write away. -/
def IsTurnedAway (capacity : Nat) (w : ByteWrite) : Prop :=
  w.index.toInt < 0 ∨ capacity < w.index.toInt ∨
    w.index.toInt = capacity ∧ w.value.toInt % 256 ≠ 0

instance (capacity : Nat) (w : ByteWrite) : Decidable (w.IsTurnedAway capacity) :=
  inferInstanceAs (Decidable (_ ∨ _ ∨ _))

theorem accepts_put_iff {s : Str} {capacity : Nat} (ho : s.ownedCapacity = some capacity)
    (w : ByteWrite) : s.Accepts w.put ↔ ¬ w.IsTurnedAway capacity := by
  rw [Str.accepts_iff ho, put, IsTurnedAway, ofInt_eq_zero_iff]
  dsimp only
  omega

end ByteWrite

namespace Program

variable {p : Program} {name : String} {s : Str} {capacity : Nat}

/-- **What a list of writes leaves**: the string after the puts, and a code in the slot of each
thread one of whose writes was turned away. -/
theorem after_byteWrites (hb : p.binding? name = some (.counted s))
    (ho : s.ownedCapacity = some capacity) (hsize : capacity < s.storage.size)
    (ws : List ByteWrite) :
    (p.after (ws.map (·.on name))).binding? name =
        some (.counted ((ws.map ByteWrite.put).foldl Str.put s)) ∧
      ∀ thread, (p.after (ws.map (·.on name))).slots.read thread =
        if ∃ w ∈ ws, w.thread = thread ∧ w.IsTurnedAway capacity then .invalidIndex
        else p.slots.read thread := by
  induction ws using List.reverseRecOn with
  | nil => exact ⟨hb, fun thread => by simp⟩
  | append_singleton before w ih =>
    obtain ⟨hbefore, hslots⟩ := ih
    generalize hq : p.after (before.map (·.on name)) = q at hbefore hslots
    generalize ht : (before.map ByteWrite.put).foldl Str.put s = t at hbefore
    have hto : t.ownedCapacity = some capacity := by
      rw [← ht, Str.ownedCapacity_foldl_put, ho]
    have htsize : capacity < t.storage.size := by
      rw [← ht, Str.size_storage_foldl_put]
      exact hsize
    have hstep : p.after ((before ++ [w]).map (·.on name)) =
        (q.bind name (.counted (t.put w.put))).absorb w.thread
          (if t.Accepts w.put then none else some .invalidIndex) := by
      rw [List.map_append, List.map_singleton, after_concat, hq]
      exact step_setByte hbefore (Str.vouchesFor_of_lt hto htsize _) w.thread w.value.toInt
    rw [hstep]
    refine ⟨?_, fun thread => ?_⟩
    · rw [binding?_bind_absorb, List.map_append, List.foldl_append, ht]
      rfl
    · show (q.slots.absorb w.thread _).read thread = _
      rw [Slots.read_absorb, hslots]
      by_cases hthread : w.thread = thread
      · by_cases haway : w.IsTurnedAway capacity
        · have hnot : ¬ t.Accepts w.put := fun h => (w.accepts_put_iff hto).mp h haway
          have hsome : ∃ v ∈ before ++ [w], v.thread = thread ∧ v.IsTurnedAway capacity :=
            ⟨w, by simp, hthread, haway⟩
          rw [if_pos hthread, if_neg hnot, if_pos hsome]
          rfl
        · rw [if_pos hthread, if_pos ((w.accepts_put_iff hto).mpr haway)]
          simp [haway]
      · rw [if_neg hthread]
        simp [hthread]

/-- **Byte writes through the entry points make a bounded array.**  Take a string of the library
with a zero byte at the index of its capacity, and let any threads write any numbers at any indices
of it through the entry point, in any order.  Afterwards:

* Below the capacity, each byte is the low byte of the number that was written last at its index, or
  the byte that was there before.
* At the capacity there is a zero, and the two words of the header are as they were.
* The slot of a thread holds `invalidIndex` if one of its writes was at an index below zero or above
  the capacity, or was at the capacity and had a low byte other than zero; if none was, it holds
  what it held before.
* Reading at an index up to the capacity gives the byte there as a number from -128 to 127, and
  leaves everything as it is; so does writing that same number back.
* Reading at any other index gives 0, and leaves `invalidIndex` in the slot of the thread and
  everything else as it is. -/
theorem writes_make_bounded_array (hb : p.binding? name = some (.counted s))
    (ho : s.ownedCapacity = some capacity) (hlast : s.storage[capacity]? = some 0)
    (ws : List ByteWrite) :
    let q := p.after (ws.map (·.on name))
    ∃ t, q.binding? name = some (.counted t) ∧
      t.refcount = s.refcount ∧ t.info = s.info ∧ t.storage.size = s.storage.size ∧
      (∀ j, j < capacity →
        t.storage[j]? = (Put.lastAt (ws.map ByteWrite.put) j).or s.storage[j]?) ∧
      t.storage[capacity]? = some 0 ∧
      (∀ thread, q.slots.read thread =
        if ∃ w ∈ ws, w.thread = thread ∧ w.IsTurnedAway capacity then .invalidIndex
        else p.slots.read thread) ∧
      ∀ thread (i : Int32),
        let answer := q.step thread (.callThrough .counted (some name) (.getByte i.toInt))
        (0 ≤ i.toInt ∧ i.toInt ≤ capacity →
          ∃ byte n, t.storage[i.toInt.toNat]? = some byte ∧ answer.1.result = .ok (.number n) ∧
            -128 ≤ n ∧ n ≤ 127 ∧ n % 256 = byte.toNat ∧ answer.2 = q ∧
            (q.step thread (.callThrough .counted (some name) (.setByte i.toInt n))).2 = q) ∧
        (¬(0 ≤ i.toInt ∧ i.toInt ≤ capacity) →
          answer.1.result = .ok (.number 0) ∧
            answer.2 = q.absorb thread (some .invalidIndex)) := by
  intro q
  obtain ⟨hsize, -⟩ := Array.getElem?_eq_some_iff.mp hlast
  obtain ⟨hq, hslots⟩ := after_byteWrites hb ho hsize ws
  generalize ht : (ws.map ByteWrite.put).foldl Str.put s = t at hq
  have hto : t.ownedCapacity = some capacity := by rw [← ht, Str.ownedCapacity_foldl_put, ho]
  have htlast : t.storage[capacity]? = some 0 := by
    rw [← ht]
    exact Str.getElem?_foldl_put_last ho hlast _
  have htsize : t.storage.size = s.storage.size := by rw [← ht, Str.size_storage_foldl_put]
  refine ⟨t, hq, by rw [← ht, Str.refcount_foldl_put], by rw [← ht, Str.info_foldl_put], htsize,
    fun j hj => ?_, htlast, hslots, fun thread i => ⟨fun hi => ?_, fun hi => ?_⟩⟩
  · rw [← ht]
    exact Str.getElem?_foldl_put_of_lt ho _ hj (by omega)
  · obtain ⟨k, hk⟩ := Int.eq_ofNat_of_zero_le hi.1
    have hbyte : t.storage[k]? = some t.storage[k] := Array.getElem?_eq_getElem (by omega)
    have hload : Buffer.load t.storage k = t.storage[k] := by rw [Buffer.load, hbyte]; rfl
    have hvouch := Str.vouchesFor_of_lt hto (by omega) i.toInt
    have hbound : 0 ≤ i.toInt ∧ i.toInt < t.readBound := by
      rw [Str.readBound_of_owned hto]
      omega
    obtain ⟨hresult, hafter⟩ := step_getByte_of_mem hq hvouch hbound thread
    obtain ⟨hlow, hhigh⟩ := signedByte_mem_range t.storage[k]
    rw [hk, Int.toNat_natCast] at *
    rw [hload] at hresult
    exact ⟨t.storage[k], _, hbyte, hresult, hlow, hhigh, signedByte_emod _, hafter,
      step_setByte_signedByte hq hto htlast (by omega) hbyte thread⟩
  · have hvouch := Str.vouchesFor_of_lt hto (by omega) i.toInt
    refine step_getByte_of_notMem hq hvouch ?_ thread
    rw [Str.readBound_of_owned hto]
    omega

/-- Three bytes are written by two threads: 256 at the zero byte, which is a zero; -1 and then -2 in
the middle; and 7 at the zero byte and in front of the string by the other thread, which is turned
away. -/
theorem bounded_array_of_three_bytes :
    let s : Str := ⟨4, ownedInfo 3, #[97, 98, 99, 0]⟩
    let p : Program := (start (.filledWith 7 64) ⟨∅⟩ [] .silent true).bindMade "abc" s
    let ws : List ByteWrite :=
      [⟨0, 3, 256⟩, ⟨0, 1, -1⟩, ⟨1, 3, 7⟩, ⟨0, 1, -2⟩, ⟨1, -1, 7⟩]
    let q := p.after (ws.map (·.on "abc"))
    ∃ t, q.binding? "abc" = some (.counted t) ∧ t.refcount = 4 ∧ t.storage[0]? = some 97 ∧
      t.storage[1]? = some 254 ∧ t.storage[3]? = some 0 ∧ q.slots.read 0 = .none ∧
      q.slots.read 1 = .invalidIndex ∧
      (∃ n, (q.step 0 (.callThrough .counted (some "abc") (.getByte 1))).1.result =
          .ok (.number n) ∧ n % 256 = 254 ∧ -128 ≤ n ∧ n ≤ 127 ∧
        (q.step 0 (.callThrough .counted (some "abc") (.setByte 1 n))).2 = q) ∧
      (q.step 0 (.callThrough .counted (some "abc") (.getByte 4))).1.result = .ok (.number 0) := by
  intro s p ws q
  have hb : p.binding? "abc" = some (.counted s) := by decide
  have ho : s.ownedCapacity = some 3 := by decide
  obtain ⟨t, ht, hrefcount, -, -, hbytes, hend, hslots, hreads⟩ :=
    writes_make_bounded_array hb ho (by decide) ws
  have hsecond : t.storage[1]? = some 254 := (hbytes 1 (by decide)).trans (by decide)
  refine ⟨t, ht, hrefcount, (hbytes 0 (by decide)).trans (by decide), hsecond, hend,
    (hslots 0).trans (by decide), (hslots 1).trans (by decide), ?_, ((hreads 0 4).2 (by decide)).1⟩
  obtain ⟨byte, n, hbyte, hresult, hlow, hhigh, hn, -, hback⟩ := (hreads 0 1).1 (by decide)
  cases hsecond.symm.trans hbyte
  exact ⟨n, hresult, hn, hlow, hhigh, hback⟩

end Program

end CountedStrings
