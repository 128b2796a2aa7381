import CountedStrings.Proofs.Indices
import Mathlib.Data.Nat.Find

/-!
# What a write makes visible

The visible bytes of a string are those in front of its first zero, and nothing stores how many
they are.  So a write of one byte can make a string shorter, leave its length as it is, or make it
longer, and what becomes visible when it grows are bytes that were behind the zero all the time.

## 1.  The first zero

`Bytes.FirstZeroAt bytes n` says that the first zero of some bytes is at the index `n`.  Then the
bytes in front of it are the first `n` bytes (`FirstZeroAt.upToZero_eq`).  A string in the form of
the library has a first zero, because it has a zero at its capacity (`Str.Intact.firstZeroAt`).

A write moves the first zero in one of three ways: `FirstZeroAt.set_zero` for a zero that is written
anywhere, `FirstZeroAt.set_of_ne` for another value that is not written over the first zero, and
`FirstZeroAt.set_self` for one that is.

## 2.  One write

`Str.visible_of_zero`, `Str.visible_of_lt`, `Str.visible_of_gt` and `Str.visible_of_eq` say what
becomes of the visible bytes of a string, and of its length.

## 3.  Cutting and mending

`Mends` lists the runs that cut a string short inside its visible bytes, go on likewise, and write
the byte back that the cut overwrote.  Cuts may be nested to any depth, and `after_mends` says that
nothing is left of them.  `write_changes_visible` is the law.
-/

namespace CountedStrings

/-! ## 1.  The first zero -/

namespace Bytes

/-- Whether the first zero of some bytes is at an index. -/
structure FirstZeroAt (bytes : Bytes) (n : Nat) : Prop where
  zero_eq : bytes[n]? = some 0
  ne_zero : ∀ j, j < n → bytes[j]? ≠ some 0

/-- Bytes with a zero have a first one. -/
theorem exists_firstZeroAt {bytes : Bytes} {c : Nat} (h : bytes[c]? = some 0) :
    ∃ n, n ≤ c ∧ bytes.FirstZeroAt n := by
  have hzero : ∃ n, bytes[n]? = some (0 : UInt8) := ⟨c, h⟩
  exact ⟨Nat.find hzero, Nat.find_min' hzero h, Nat.find_spec hzero,
    fun j hj => Nat.find_min hzero hj⟩

namespace FirstZeroAt

variable {bytes : Bytes} {n i k : Nat} {value : UInt8}

theorem lt_length (h : bytes.FirstZeroAt n) : n < bytes.length :=
  (List.getElem?_eq_some_iff.mp h.zero_eq).1

/-- The bytes in front of the first zero are the first bytes. -/
theorem upToZero_eq (h : bytes.FirstZeroAt n) : bytes.upToZero = bytes.take n := by
  have hindex : bytes.findIdx (fun b => !(b != 0)) = n := by
    rw [List.findIdx_eq h.lt_length]
    refine ⟨?_, fun j hj => ?_⟩
    · have hzero := (List.getElem?_eq_some_iff.mp h.zero_eq).2
      simp [hzero]
    · have hlt : j < bytes.length := Nat.lt_trans hj h.lt_length
      have hne : bytes[j] ≠ 0 := by
        intro hzero
        exact h.ne_zero j hj (by rw [List.getElem?_eq_getElem hlt, hzero])
      simpa using hne
  rw [upToZero, List.takeWhile_eq_take_findIdx_not, hindex]

/-- Their number is its index. -/
theorem length_upToZero (h : bytes.FirstZeroAt n) : bytes.upToZero.length = n := by
  rw [h.upToZero_eq, List.length_take_of_le (Nat.le_of_lt h.lt_length)]

/-- A zero that is written in front of the first zero becomes the first one. -/
theorem set_zero (h : bytes.FirstZeroAt n) (hi : i < bytes.length) :
    FirstZeroAt (bytes.set i 0) (min n i) := by
  refine ⟨?_, fun j hj => ?_⟩
  · rw [List.getElem?_set, if_pos hi]
    by_cases heq : i = min n i
    · rw [if_pos heq]
    · have hmin : min n i = n := by omega
      rw [if_neg heq, hmin]
      exact h.zero_eq
  · have hne : i ≠ j := by omega
    rw [List.getElem?_set_ne hne]
    exact h.ne_zero j (by omega)

/-- Another value that is written elsewhere leaves the first zero where it is. -/
theorem set_of_ne (h : bytes.FirstZeroAt n) (hvalue : value ≠ 0) (hi : i ≠ n) :
    FirstZeroAt (bytes.set i value) n := by
  refine ⟨?_, fun j hj => ?_⟩
  · rw [List.getElem?_set_ne hi]
    exact h.zero_eq
  · rw [List.getElem?_set]
    split
    · split
      · exact fun hzero => hvalue (Option.some.inj hzero)
      · intro hzero
        cases hzero
    · exact h.ne_zero j hj

/-- Where a value is written over the first zero, the first zero is the next one. -/
theorem set_self (h : bytes.FirstZeroAt n) (hvalue : value ≠ 0)
    (hk : FirstZeroAt (bytes.set n value) k) :
    n < k ∧ bytes[k]? = some 0 ∧ ∀ j, n < j → j < k → bytes[j]? ≠ some 0 := by
  have hlt : n < k := by
    rcases Nat.lt_trichotomy n k with hlt | heq | hgt
    · exact hlt
    · have hzero := hk.zero_eq
      rw [← heq, List.getElem?_set_self h.lt_length] at hzero
      exact absurd (Option.some.inj hzero) hvalue
    · have hzero := hk.zero_eq
      rw [List.getElem?_set_ne (by omega)] at hzero
      exact absurd hzero (h.ne_zero k hgt)
  refine ⟨hlt, ?_, fun j hnj hjk => ?_⟩
  · have hzero := hk.zero_eq
    rwa [List.getElem?_set_ne (by omega)] at hzero
  · have hne := hk.ne_zero j hjk
    rwa [List.getElem?_set_ne (by omega)] at hne

end FirstZeroAt

end Bytes

namespace Str

variable {s t : Str} {capacity index : Nat} {value : UInt8}

/-- A string in the form of the library has a first zero, which ends its visible bytes. -/
theorem Intact.firstZeroAt (h : s.Intact capacity) :
    Bytes.FirstZeroAt s.storage.toList s.length := by
  have hlast : s.storage.toList[capacity]? = some 0 := by
    rw [Array.getElem?_toList]
    exact h.last_eq
  obtain ⟨n, -, hn⟩ := Bytes.exists_firstZeroAt hlast
  have hlength : s.length = n := hn.length_upToZero
  rwa [hlength]

/-! ## 2.  One write -/

/-- A write that succeeds stores the value inside the bound. -/
theorem store_of_setByteAt (h : (s.setByteAt index value).result = .ok t) :
    index < s.writeBound value ∧ t = s.withStorage (Buffer.store s.storage index value) := by
  rw [setByteAt_eq] at h
  split at h
  · next hlt => exact ⟨hlt, (Except.ok.inj h).symm⟩
  · cases h

theorem Intact.setByteAt (hs : s.Intact capacity) (h : (s.setByteAt index value).result = .ok t) :
    t.Intact capacity := by
  obtain ⟨hlt, rfl⟩ := store_of_setByteAt h
  exact hs.write hlt

theorem toList_storage_of_setByteAt (h : (s.setByteAt index value).result = .ok t) :
    t.storage.toList = s.storage.toList.set index value := by
  obtain ⟨-, rfl⟩ := store_of_setByteAt h
  rw [storage_withStorage, Buffer.store, Array.toList_setIfInBounds]

theorem Intact.lt_length_of_setByteAt (hs : s.Intact capacity)
    (h : (s.setByteAt index value).result = .ok t) : index < s.storage.toList.length := by
  obtain ⟨hlt, -⟩ := store_of_setByteAt h
  have hbound := hs.writeBound_le value
  have hsize := hs.size_eq
  rw [Array.length_toList]
  omega

/-- **A zero cuts** what is visible behind it. -/
theorem visible_of_zero (hs : s.Intact capacity) (h : (s.setByteAt index 0).result = .ok t) :
    t.length = min s.length index ∧ t.visible = s.visible.take (min s.length index) := by
  have hfirst := hs.firstZeroAt
  have hcut := hfirst.set_zero (hs.lt_length_of_setByteAt h)
  rw [← toList_storage_of_setByteAt h] at hcut
  refine ⟨hcut.length_upToZero, ?_⟩
  rw [visible, hcut.upToZero_eq, toList_storage_of_setByteAt h,
    List.take_set_of_le (Nat.min_le_right _ _), visible, hfirst.upToZero_eq, List.take_take,
    Nat.min_eq_left (Nat.min_le_left _ _)]

/-- **Another value among the visible bytes** changes one of them. -/
theorem visible_of_lt (hs : s.Intact capacity) (h : (s.setByteAt index value).result = .ok t)
    (hvalue : value ≠ 0) (hindex : index < s.length) :
    t.length = s.length ∧ t.visible = s.visible.set index value := by
  have hfirst := hs.firstZeroAt
  have hstays := hfirst.set_of_ne hvalue (Nat.ne_of_lt hindex)
  rw [← toList_storage_of_setByteAt h] at hstays
  refine ⟨hstays.length_upToZero, ?_⟩
  rw [visible, hstays.upToZero_eq, toList_storage_of_setByteAt h, visible, hfirst.upToZero_eq,
    List.take_set]

/-- **Behind the first zero**, a value that is not zero is not seen. -/
theorem visible_of_gt (hs : s.Intact capacity) (h : (s.setByteAt index value).result = .ok t)
    (hvalue : value ≠ 0) (hindex : s.length < index) :
    t.length = s.length ∧ t.visible = s.visible := by
  have hfirst := hs.firstZeroAt
  have hstays := hfirst.set_of_ne hvalue (Nat.ne_of_gt hindex)
  rw [← toList_storage_of_setByteAt h] at hstays
  refine ⟨hstays.length_upToZero, ?_⟩
  rw [visible, hstays.upToZero_eq, toList_storage_of_setByteAt h, visible, hfirst.upToZero_eq,
    List.take_set_of_le (Nat.le_of_lt hindex)]

/-- **A value over the first zero** joins the visible bytes with those up to the next zero, and
there is a next zero because the last one is never written over. -/
theorem visible_of_eq (hs : s.Intact capacity) (h : (s.setByteAt s.length value).result = .ok t)
    (hvalue : value ≠ 0) :
    s.length < capacity ∧ ∃ k, s.length < k ∧ k ≤ capacity ∧ s.storage[k]? = some 0 ∧
      (∀ j, s.length < j → j < k → s.storage[j]? ≠ some 0) ∧ t.length = k ∧
      t.visible = s.visible ++ value :: (s.storage.extract (s.length + 1) k).toList := by
  have hfirst := hs.firstZeroAt
  have ht := hs.setByteAt h
  have hnext := ht.firstZeroAt
  have hlength := ht.length_le
  have hstorage := toList_storage_of_setByteAt h
  rw [hstorage] at hnext
  obtain ⟨hlt, hzero, hbetween⟩ := hfirst.set_self hvalue hnext
  refine ⟨by omega, t.length, hlt, hlength, ?_, fun j hnj hjk => ?_, rfl, ?_⟩
  · rwa [Array.getElem?_toList] at hzero
  · have hne := hbetween j hnj hjk
    rwa [Array.getElem?_toList] at hne
  · have hvisible : t.visible = (s.storage.toList.set s.length value).take t.length := by
      rw [visible, hstorage, hnext.upToZero_eq]
    have hn := hs.lt_length_of_setByteAt h
    have hfront : (s.storage.toList.take s.length).length = s.length :=
      List.length_take_of_le (Nat.le_of_lt hn)
    have hbehind : t.length - s.length = t.length - (s.length + 1) + 1 := by omega
    rw [hvisible, List.set_eq_take_append_cons_drop, if_pos hn, List.take_append, hfront, hbehind,
      List.take_succ_cons, List.take_take, Nat.min_eq_right (Nat.le_of_lt hlt), visible,
      hfirst.upToZero_eq, Array.toList_extract, List.extract_eq_take_drop]

/-! ## 3.  Cutting and mending -/

/-- A byte that is written back where it was replaced restores the string. -/
theorem IsWritten.undo {u : Str} {old : UInt8} (h : s.IsWritten index value t)
    (hold : s.storage[index]? = some old) (h' : t.IsWritten index old u) : u = s := by
  have hstorage : u.storage = s.storage := by
    refine Array.ext_getElem? fun j => ?_
    rw [h'.getElem?_eq, h.getElem?_eq]
    split
    · next hj => rw [hj, hold]
    · rfl
  calc u = ⟨u.refcount, u.info, u.storage⟩ := rfl
    _ = s := by rw [h'.refcount_eq, h'.info_eq, h.refcount_eq, h.info_eq, hstorage]

/-- A write that succeeds writes the value. -/
theorem Intact.isWritten (hs : s.Intact capacity) (h : (s.setByteAt index value).result = .ok t) :
    s.IsWritten index value t := by
  have hlt := hs.lt_length_of_setByteAt h
  obtain ⟨-, rfl⟩ := store_of_setByteAt h
  exact isWritten_store (by simpa using hlt)

/-- **A cut can be mended**: the byte that it overwrote can be written back, and that restores the
string. -/
theorem mend_of_cut (hs : s.Intact capacity) (hindex : index < s.length) {old : UInt8}
    (hold : s.storage[index]? = some old) (h : (s.setByteAt index 0).result = .ok t) :
    (t.setByteAt index old).result = .ok s := by
  have ht := hs.setByteAt h
  have hlength := hs.length_le
  have hbound : index < t.writeBound old := by
    rw [ht.writeBound_eq]
    split <;> omega
  have hmend : (t.setByteAt index old).result =
      .ok (t.withStorage (Buffer.store t.storage index old)) := by
    rw [setByteAt_eq, if_pos hbound]
    rfl
  rw [hmend, (hs.isWritten h).undo hold (ht.isWritten hmend)]

end Str

/-- The runs that cut the string under a name short and mend it.  A zero is written over one of its
visible bytes, the string that is left is cut and mended by a run of the same kind, and the byte is
written back; then another such run may follow.  Every write may be on a thread of its own. -/
inductive Mends (name : String) : Str → List (Nat × Step) → Prop
  | nothing (s : Str) : Mends name s []
  | cut {s t : Str} {index : Nat} {old : UInt8} {inner rest : List (Nat × Step)}
      (hindex : index < s.length) (hold : s.storage[index]? = some old)
      (ht : (s.setByteAt index 0).result = .ok t) (hinner : Mends name t inner)
      (hrest : Mends name s rest) (cutter mender : Nat) :
    Mends name s ((cutter, .call name (.setByteAt index 0)) :: inner ++
      (mender, .call name (.setByteAt index old)) :: rest)

namespace Program

variable {p : Program} {name : String} {s : Str} {capacity : Nat}

/-- **Nothing is left of cuts that were mended**, and every write on the way succeeds. -/
theorem after_mends {steps : List (Nat × Step)} (h : Mends name s steps) (hs : s.Intact capacity)
    (hb : p.binding? name = some (.counted s)) :
    p.after steps = p ∧ ∀ x ∈ p.history steps, x.answer.result = .ok .done := by
  induction h generalizing p with
  | nothing s => exact ⟨rfl, by simp [history]⟩
  | @cut s t index old inner rest hindex hold ht _ _ cutter mender ihinner ihrest =>
    have hmend := Str.mend_of_cut hs hindex hold ht
    have hlt : index < s.storage.size := by simpa using hs.lt_length_of_setByteAt ht
    have hcutStep := effect_setByteAt_of_ok hb hlt ht cutter
    -- the state between the two writes, in which the inner run leaves no trace
    obtain ⟨q, hq⟩ : ∃ q, q = p.bind name (.counted t) := ⟨_, rfl⟩
    have hbq : q.binding? name = some (.counted t) := by rw [hq]; exact p.binding?_bind name _
    obtain ⟨hinner, hinnerDone⟩ := ihinner (hs.setByteAt ht) hbq
    obtain ⟨hrest, hrestDone⟩ := ihrest hs hb
    have hlt' : index < t.storage.size := by
      rw [(hs.isWritten ht).size_eq]
      exact hlt
    have hmendStep := effect_setByteAt_of_ok hbq hlt' hmend mender
    have hback : q.bind name (.counted s) = p := by
      rw [hq, bind, bind]
      dsimp only
      rw [Table.insert_insert, Table.insert_of_get? hb]
    have hcutAfter : (p.step cutter (.call name (.setByteAt index 0))).2 = q :=
      (congrArg Effect.after hcutStep).trans hq.symm
    have hmendAfter : (q.step mender (.call name (.setByteAt index old))).2 = p :=
      (congrArg Effect.after hmendStep).trans hback
    constructor
    · rw [List.cons_append, after_cons, hcutAfter, after_append, hinner, after_cons, hmendAfter]
      exact hrest
    · rw [List.cons_append, history, hcutAfter, history_append, hinner, history, hmendAfter]
      intro x hx
      rcases List.mem_cons.mp hx with rfl | hx
      · exact congrArg Effect.result hcutStep
      rcases List.mem_append.mp hx with hx | hx
      · exact hinnerDone x hx
      rcases List.mem_cons.mp hx with rfl | hx
      · exact congrArg Effect.result hmendStep
      · exact hrestDone x hx

/-- **How one write changes what is visible.**  Take a string of the library, and a write to it
that succeeds.

* A zero cuts the visible bytes off at its index, if that is among them.
* Another value at the index of a visible byte replaces that byte and keeps the length.
* Another value behind the first zero changes nothing that is visible.
* Another value over the first zero is never over the last byte; it joins the visible bytes with
  itself and with the bytes up to the next zero, which there is.

And if a zero is written over a visible byte, then over one that is still visible, and so on, and
the bytes are written back in reverse order, then every write succeeds, and the string and
everything else in the process are as they were before; so are its visible bytes, its length, and
what it is equal to. -/
theorem write_changes_visible (hs : s.Intact capacity) :
    (∀ (index : Nat) (value : UInt8) (t : Str), (s.setByteAt index value).result = .ok t →
      (value = 0 → t.length = min s.length index ∧
        t.visible = s.visible.take (min s.length index)) ∧
      (value ≠ 0 → index < s.length → t.length = s.length ∧
        t.visible = s.visible.set index value) ∧
      (value ≠ 0 → s.length < index → t.length = s.length ∧ t.visible = s.visible) ∧
      (value ≠ 0 → index = s.length → s.length < capacity ∧
        ∃ k, s.length < k ∧ k ≤ capacity ∧ s.storage[k]? = some 0 ∧
          (∀ j, s.length < j → j < k → s.storage[j]? ≠ some 0) ∧ t.length = k ∧
          t.visible = s.visible ++ value :: (s.storage.extract (s.length + 1) k).toList)) ∧
    ∀ (p : Program) (name : String) (steps : List (Nat × Step)),
      p.binding? name = some (.counted s) → Mends name s steps →
        p.after steps = p ∧ ∀ x ∈ p.history steps, x.answer.result = .ok .done := by
  refine ⟨fun index value t h => ⟨?_, fun hvalue hindex => Str.visible_of_lt hs h hvalue hindex,
    fun hvalue hindex => Str.visible_of_gt hs h hvalue hindex, ?_⟩,
    fun p name steps hb hmends => after_mends hmends hs hb⟩
  · rintro rfl
    exact Str.visible_of_zero hs h
  · rintro hvalue rfl
    exact Str.visible_of_eq hs h hvalue

/-- Two visible bytes are cut off one after the other and come back in reverse order; and a value
over the zero behind them brings a third byte to light. -/
theorem visible_bytes_come_back :
    let s : Str := ⟨0, ownedInfo 4, #[97, 98, 0, 99, 0]⟩
    let p : Program := (start (.filledWith 7 64) ⟨∅⟩ [] .silent true).bind "abc" (.counted s)
    let write (index : Nat) (value : UInt8) : Step := .call "abc" (.setByteAt index value)
    let inner : List (Nat × Step) := [(1, write 0 0), (2, write 0 97)]
    let steps : List (Nat × Step) := (0, write 1 0) :: inner ++ [(0, write 1 98)]
    s.Intact 4 ∧ Mends "abc" s steps ∧ p.after steps = p ∧
      ∃ t, (s.setByteAt 2 33).result = .ok t ∧ t.visible = [97, 98, 33, 99] ∧ t.length = 4 := by
  intro s p write inner steps
  have hs : s.Intact 4 := ⟨by decide, by decide, by decide, by decide⟩
  have hmends : Mends "abc" s steps := by
    have hinner : Mends "abc" ⟨0, ownedInfo 4, #[97, 0, 0, 99, 0]⟩ inner :=
      .cut (t := ⟨0, ownedInfo 4, #[0, 0, 0, 99, 0]⟩) (by decide) (by decide) (by decide)
        (.nothing _) (.nothing _) 1 2
    exact .cut (by decide) (by decide) (by decide) hinner (.nothing _) 0 0
  have ht : (s.setByteAt 2 33).result = .ok ⟨0, ownedInfo 4, #[97, 98, 33, 99, 0]⟩ := by decide
  obtain ⟨hwrites, hmended⟩ := write_changes_visible hs
  refine ⟨hs, hmends, (hmended p "abc" steps (by decide) hmends).1, _, ht, ?_⟩
  obtain ⟨-, -, -, hjoins⟩ := hwrites 2 33 _ ht
  obtain ⟨-, k, hlow, hhigh, hzero, -, hlength, hvisible⟩ := hjoins (by decide) (by decide)
  have hlow' : 2 < k := hlow
  -- the next zero is the last byte, since the one in between is not zero
  obtain rfl : k = 4 := by
    refine Nat.le_antisymm hhigh (Nat.lt_of_le_of_ne hlow' fun heq => ?_)
    rw [← heq] at hzero
    exact absurd hzero (by decide)
  exact ⟨hvisible.trans (by decide), hlength⟩

end Program

end CountedStrings
