import CountedStrings.Proofs.Reports
import CountedStrings.Proofs.Representation
import CountedStrings.Proofs.Rows
import Mathlib.Data.Nat.Bitwise

/-!
# Blocks are handed back as they were obtained

An allocator wants a block back with the size and the alignment with which it was asked for.  A
string does not remember them: whoever frees it computes them from the capacity in its info word.
This file proves that the computation is right for every string of the library, whatever was done
with it, and that it never fails.

## 1.  Words

A capacity shares a word of 32 bits with the flag of owned strings.  `ExactFor` collects what a
machine computes for a capacity, with bits and with numbers that wrap around, and `exactFor_of_le`
says that nothing wraps around up to the largest capacity.  `capacityOf_eq_and` is the way back.

## 2.  What a run keeps

`Cell.Holds`: under the name of a string of the library there is a string with the capacity that the
run tells of, and with as many bytes as that takes.  Every step keeps that (`cell_holds`), even one
that writes without regard to headers.

## 3.  The law

`blocks_are_handed_back_whole`.
-/

namespace CountedStrings

/-! ## 1.  Words -/

theorem and_ownedFlag (info : UInt32) :
    (info &&& ownedFlag).toNat = (info.toNat.testBit 31).toNat * 2147483648 := by
  rw [UInt32.toNat_and, toNat_ownedFlag]
  exact Nat.and_two_pow info.toNat 31

/-- Bit 31 of an info word is the mark of an owned string. -/
theorem ownedFlag_le_iff (info : UInt32) : ownedFlag ≤ info ↔ info.toNat.testBit 31 = true := by
  have hlt := info.toNat_lt
  rw [UInt32.le_iff_toNat_le, toNat_ownedFlag, Nat.testBit_eq_decide_div_mod_eq,
    decide_eq_true_eq]
  omega

theorem and_ownedFlag_ne_zero_iff (info : UInt32) :
    info &&& ownedFlag ≠ 0 ↔ info.toNat.testBit 31 = true := by
  rw [ne_eq, ← UInt32.toNat_inj, and_ownedFlag]
  cases info.toNat.testBit 31 <;> simp

/-- The other bits of an info word are a number below the flag. -/
theorem and_not_ownedFlag (info : UInt32) :
    (info &&& ~~~ownedFlag).toNat = info.toNat % 2147483648 := by
  have hmask : (~~~ownedFlag).toNat = 2 ^ 31 - 1 := by decide
  rw [UInt32.toNat_and, hmask]
  exact Nat.and_two_pow_sub_one_eq_mod info.toNat 31

/-- **Reading a capacity with bits**: the flag is tested and taken away. -/
theorem capacityOf_eq_and (info : UInt32) :
    capacityOf info =
      if info &&& ownedFlag ≠ 0 then some (info &&& ~~~ownedFlag).toNat else none := by
  have hlt := info.toNat_lt
  by_cases h : ownedFlag ≤ info
  · have hbit := (and_ownedFlag_ne_zero_iff info).mpr ((ownedFlag_le_iff info).mp h)
    rw [capacityOf, if_pos h, if_pos hbit, and_not_ownedFlag, toNat_ownedFlag]
    rw [UInt32.le_iff_toNat_le, toNat_ownedFlag] at h
    exact congrArg some (by omega)
  · have hbit : ¬ info &&& ownedFlag ≠ 0 := fun hbit =>
      h ((ownedFlag_le_iff info).mpr ((and_ownedFlag_ne_zero_iff info).mp hbit))
    rw [capacityOf, if_neg h, if_neg hbit]

/-- **Writing a capacity with bits**: the flag is set. -/
theorem ownedInfo_eq_or {capacity : Nat} (h : capacity ≤ maxCapacity) :
    ownedInfo capacity = ownedFlag ||| UInt32.ofNat capacity := by
  have hc : capacity < 2 ^ 31 := by
    have : capacity ≤ 2147483647 := h
    omega
  have hword : (UInt32.ofNat capacity).toNat = capacity := by
    rw [UInt32.toNat_ofNat']
    omega
  have hor := Nat.two_pow_add_eq_or_of_lt hc 1
  apply UInt32.toNat_inj.mp
  rw [toNat_ownedInfo h, UInt32.toNat_or, hword, toNat_ownedFlag]
  exact hor

/-- What a machine computes for the string of a capacity is what is meant: sums of 64 bits are the
sums of the numbers, the block has an admissible size even when rounded up to its alignment, and the
info word holds the flag and the capacity. -/
structure ExactFor (capacity : Nat) : Prop where
  size_eq : (UInt64.ofNat capacity + 9).toNat = capacity + 9
  bound_eq : (UInt64.ofNat capacity + 1).toNat = capacity + 1
  size_le : capacity + 9 + 7 ≤ 9223372036854775807
  info_eq : ownedFlag ||| UInt32.ofNat capacity = ownedInfo capacity
  toNat_info : (ownedInfo capacity).toNat = 2147483648 + capacity
  flag_ne : ownedInfo capacity &&& ownedFlag ≠ 0
  capacity_eq : (ownedInfo capacity &&& ~~~ownedFlag).toNat = capacity

/-- **Nothing wraps around**, up to the largest capacity. -/
theorem exactFor_of_le {capacity : Nat} (h : capacity ≤ maxCapacity) : ExactFor capacity := by
  have hc : capacity ≤ 2147483647 := h
  have hinfo := toNat_ownedInfo h
  have hword : (UInt64.ofNat capacity).toNat = capacity := by
    rw [UInt64.toNat_ofNat']
    omega
  refine ⟨?_, ?_, ?_, (ownedInfo_eq_or h).symm, hinfo, ?_, ?_⟩
  · rw [UInt64.toNat_add, hword]
    exact Nat.mod_eq_of_lt (by show capacity + 9 < _; omega)
  · rw [UInt64.toNat_add, hword]
    exact Nat.mod_eq_of_lt (by show capacity + 1 < _; omega)
  · omega
  · rw [and_ownedFlag_ne_zero_iff, ← ownedFlag_le_iff, UInt32.le_iff_toNat_le, hinfo,
      toNat_ownedFlag]
    omega
  · rw [and_not_ownedFlag, hinfo]
    omega

/-! ## 2.  What a run keeps -/

/-- What a run tells of the capacity of the string under a name is so: it is there, with that
capacity and with one byte more. -/
inductive Cell.Holds (c : Cell) : Option Nat → Prop
  | nothing (h : c.made = false) : Holds c none
  | string {s : Str} {capacity : Nat} (hc : c = ⟨some (.counted s), true⟩)
      (ho : s.ownedCapacity = some capacity) (hsize : s.storage.size = capacity + 1) :
      Holds c (some capacity)

/-- A free cell holds no string of the library. -/
theorem Cell.Holds.eq_none {c : Cell} {known : Option Nat} (h : c.Holds known) (hfree : c.IsFree) :
    c.made = false ∧ known = none := by
  cases h with
  | nothing hmade => exact ⟨hmade, rfl⟩
  | string hc =>
    rw [hc] at hfree
    exact absurd hfree Cell.not_isFree_counted

/-- Another string in the place of the one that was there, with its info word and as many bytes. -/
theorem Cell.Holds.replace {s t : Str} {made : Bool} {known : Option Nat}
    (h : Holds ⟨some (.counted s), made⟩ known) (hinfo : t.info = s.info)
    (hsize : t.storage.size = s.storage.size) : Holds ⟨some (.counted t), made⟩ known := by
  cases h with
  | nothing hmade => exact Holds.nothing hmade
  | string hc ho hs =>
    cases hc
    refine Holds.string rfl ?_ (hsize.trans hs)
    rw [Str.ownedCapacity, hinfo]
    exact ho

/-- **A turn keeps what a cell holds**, if writing without regard to headers leaves as many bytes as
there were. -/
theorem Turn.holds {name : String} {step : Step} {c c' : Cell} {es : List Event}
    {known : Option Nat} (h : Turn name step c es c') (hc : c.Holds known)
    (hwrite : step.writesPlain = true → ∀ s, c.binding = some (.counted s) →
      ∃ t, c' = ⟨some (.counted t), c.made⟩ ∧ t.info = s.info ∧
        t.storage.size = s.storage.size) :
    c'.Holds (es.foldl Event.track known) := by
  cases h with
  | idle hquiet =>
    rw [Event.foldl_track fun e he => Event.isBlock_of_isOwnership (hquiet e he)]
    exact hc
  | place hfree =>
    obtain ⟨hmade, rfl⟩ := hc.eq_none hfree
    exact Cell.Holds.nothing hmade
  | absent hfree hquiet =>
    obtain ⟨hmade, rfl⟩ := hc.eq_none hfree
    rw [Event.foldl_track fun e he => Event.isBlock_of_isOwnership (hquiet e he)]
    exact Cell.Holds.nothing hmade
  | born hfree hnotes hsize =>
    rw [List.foldl_append]
    exact Cell.Holds.string rfl (capacityOf_ownedInfo hsize) (Array.size_push ..)
  | lives hlife =>
    rw [Event.foldl_track hlife.life.isBlock_eq]
    exact hc.replace hlife.life.info_eq hlife.life.size_eq
  | ends hend =>
    cases hend with
    | ends _ _ _ =>
      rw [List.foldl_append]
      exact Cell.Holds.nothing rfl
  | poke => exact hc.replace rfl rfl
  | @overwrite _ b buffer made es hs hquiet =>
    rw [Event.foldl_track fun e he => Event.isBlock_of_isOwnership (hquiet e he)]
    cases hc with
    | nothing hmade => exact Cell.Holds.nothing hmade
    | @string s capacity heq ho hsize =>
      obtain ⟨t, ht, hinfo, hsize'⟩ := hwrite hs s (congrArg Cell.binding heq)
      rw [ht]
      cases heq
      exact (Cell.Holds.string rfl ho hsize).replace hinfo hsize'

namespace Program

/-- Writing without regard to headers leaves the header as it is, and as many bytes. -/
theorem cell_of_writesPlain {p : Program} {thread : Nat} {s : Step} {name : String} {str : Str}
    (hs : s.writesPlain = true) (hsubject : s.subject = some name)
    (hb : p.binding? name = some (.counted str)) :
    ∃ t, (p.effect thread s).after.cell name = ⟨some (.counted t), (p.cell name).made⟩ ∧
      t.info = str.info ∧ t.storage.size = str.storage.size := by
  have hsame : p.cell name = ⟨some (.counted str), (p.cell name).made⟩ := cell_eq hb
  cases s with
  | writePlain name' index value =>
    cases Option.some.inj hsubject
    rcases p.writePlain_cases name index value with
      ⟨reply, hx⟩ | ⟨b, buffer, hb', hbuffer, ⟨written, hwritten, hx⟩ | ⟨error, -, hx⟩⟩
    · rw [effect, hx]
      exact ⟨str, hsame, rfl, rfl⟩
    · cases hb.symm.trans hb'
      rw [effect, hx]
      refine ⟨str.withStorage written, p.cell_bind name _, rfl, ?_⟩
      rw [Buffer.writeAt_eq] at hwritten
      split at hwritten
      · rw [← Except.ok.inj hwritten, ← Option.some.inj hbuffer]
        exact Buffer.size_store _ _ _
      · cases hwritten
    · rw [effect, hx]
      exact ⟨str, hsame, rfl, rfl⟩
  | callThrough interface name' c =>
    obtain rfl : name' = some name := hsubject
    cases interface with
    | counted => cases hs
    | plain =>
      rcases p.callPlain_cases thread (some name) c with
        ⟨reply, hx, -⟩ | ⟨n, b, buffer, x, left, hn, hb', hbuffer, hrun, hleft, -, hx⟩
      · rw [effect, hx]
        exact ⟨str, hsame, rfl, rfl⟩
      · cases hn
        cases hb.symm.trans hb'
        obtain ⟨left', hleft', hsize⟩ := PointerCall.runPlain_some hrun
        cases hleft.symm.trans hleft'
        cases hbuffer
        rw [effect, hx]
        exact ⟨str.withStorage left, p.cell_bind name _, rfl, hsize⟩
  | _ => cases hs

/-- **Every run keeps its word on capacities.** -/
theorem cell_holds {p : Program} (hp : p.made = []) (steps : List (Nat × Step)) (name : String) :
    ((p.after steps).cell name).Holds (Taken.capacityMade name (p.history steps)) := by
  have hstart : (p.cell name).Holds (Taken.capacityMade name []) :=
    Cell.Holds.nothing (by simp [cell, hp])
  refine invariant_on_name (P := fun _ _ _ => True) (I := fun c history =>
    c.Holds (Taken.capacityMade name history)) ?_ ?_ hstart
    (along_of_mem (fun x (_ : x ∈ steps) _ => trivial) p)
  · intro p history thread s hsubject _ hI
    rw [Taken.capacityMade_concat (decide_eq_true hsubject)]
    exact (p.effect_turn thread hsubject).holds hI fun hw str hb =>
      cell_of_writesPlain hw hsubject hb
  · intro c history x habout hI
    rw [Taken.capacityMade_concat_of_not habout]
    exact hI

end Program

/-! ## 3.  The law -/

/-- What is known of a capacity was known before, or has just been reported. -/
theorem Event.foldl_track_eq_some {events : List Event} {known : Option Nat} {capacity : Nat}
    (h : events.foldl track known = some capacity) :
    known = some capacity ∨ .allocated capacity ∈ events := by
  induction events generalizing known with
  | nil => exact Or.inl h
  | cons event rest ih =>
    rcases ih h with hknown | hmem
    · cases event with
      | allocated n =>
        cases hknown
        exact Or.inr List.mem_cons_self
      | freed n => cases hknown
      | _ => exact Or.inl hknown
    · exact Or.inr (List.mem_cons_of_mem _ hmem)

/-- A string of the library that is not there any more was freed. -/
theorem Turn.leaves_of_gone {name : String} {step : Step} {s : Str} {c' : Cell} {es : List Event}
    (h : Turn name step ⟨some (.counted s), true⟩ es c') (hgone : c'.made = false) :
    s.Leaves es none := by
  cases h with
  | ends hend => exact hend
  | place hfree => exact absurd hfree Cell.not_isFree_counted
  | absent hfree => exact absurd hfree Cell.not_isFree_counted
  | _ => cases hgone

/-- The end of a string is reported with the capacity that it had all along. -/
theorem Str.Leaves.eq_concat_freed {s : Str} {es : List Event} (h : s.Leaves es none)
    {capacity : Nat} (ho : s.ownedCapacity = some capacity) :
    ∃ t es', s.Life es' t ∧ ¬ 0 < t.refcount ∧ es = es' ++ [.freed capacity] := by
  cases h with
  | @ends t es' capacity' hlife ho' hr =>
    cases ho'.symm.trans (hlife.ownedCapacity_eq.trans ho)
    exact ⟨t, es', hlife, hr, rfl⟩

/-- The end of a string of the library is reported only where the string goes, and only once. -/
theorem Turn.gone_of_freed {name : String} {step : Step} {s : Str} {c' : Cell} {es : List Event}
    (h : Turn name step ⟨some (.counted s), true⟩ es c') {capacity n : Nat}
    (ho : s.ownedCapacity = some capacity) (hmem : .freed n ∈ es) :
    n = capacity ∧ c'.made = false := by
  cases h with
  | idle hquiet => cases hquiet _ hmem
  | place hfree => exact absurd hfree Cell.not_isFree_counted
  | absent hfree => exact absurd hfree Cell.not_isFree_counted
  | born hfree => exact absurd hfree Cell.not_isFree_counted
  | lives hlife => cases hlife.life.isBlock_eq _ hmem
  | poke => cases hmem
  | overwrite _ hquiet => cases hquiet _ hmem
  | ends hend =>
    obtain ⟨t, es', hlife, -, rfl⟩ := hend.eq_concat_freed ho
    rcases List.mem_append.mp hmem with hmem | hmem
    · cases hlife.isBlock_eq _ hmem
    · exact ⟨Event.freed.inj (List.mem_singleton.mp hmem), rfl⟩

namespace Program

/-- What a run tells of a capacity, it tells because the block for it was obtained. -/
theorem reserve_of_capacityMade (p : Program) {steps : List (Nat × Step)} {name : String}
    {capacity : Nat} (h : Taken.capacityMade name (p.history steps) = some capacity) :
    reserve p.allocator capacity = ⟨.ok ⟨capacity + 9, 8⟩, [.allocated capacity]⟩ := by
  have hstart : p.allocator = p.allocator ∧ ∀ n, Taken.capacityMade name [] = some n →
      reserve p.allocator n = ⟨.ok ⟨n + 9, 8⟩, [.allocated n]⟩ := ⟨rfl, fun n hn => nomatch hn⟩
  have key := invariant_along (P := fun _ _ _ => True) (I := fun q history =>
      q.allocator = p.allocator ∧ ∀ n, Taken.capacityMade name history = some n →
        reserve p.allocator n = ⟨.ok ⟨n + 9, 8⟩, [.allocated n]⟩) ?_ hstart
    (along_of_mem (fun x (_ : x ∈ steps) _ => trivial) p)
  · exact key.2 capacity h
  · intro q history thread s ⟨hallocator, hI⟩ _
    refine ⟨(q.given_step thread s).1.trans hallocator, fun n hn => ?_⟩
    cases habout : Taken.isAbout ⟨thread, s, (q.step thread s).1⟩ name with
    | false =>
      rw [Taken.capacityMade_concat_of_not habout] at hn
      exact hI n hn
    | true =>
      rw [Taken.capacityMade_concat habout] at hn
      rcases Event.foldl_track_eq_some hn with hknown | hmem
      · exact hI n hknown
      · rw [← hallocator]
        exact reserve_of_allocated hmem

/-- Every byte of a string, and the zero byte at its end, can be asked for by a number of 32
bits. -/
theorem getByte_of_le {p : Program} {name : String} {s : Str} {capacity : Nat}
    (hb : p.binding? name = some (.counted s)) (ho : s.ownedCapacity = some capacity)
    (hsize : s.storage.size = capacity + 1) {i : Nat} (hi : i ≤ capacity) :
    ∃ (index : Int32) (byte : UInt8), index.toInt = i ∧ s.storage[i]? = some byte ∧
      ∀ thread, (p.effect thread (.callThrough .counted (some name) (.getByte index.toInt))) =
        ⟨.ok (.number (signedByte byte)), p, []⟩ := by
  have hmax : capacity ≤ 2147483647 := capacityOf_le ho
  have hindex : (Int32.ofNat i).toInt = i := Int32.toInt_ofNat_of_lt (by omega)
  have hbyte : s.storage[i]? = some s.storage[i] := Array.getElem?_eq_getElem (by omega)
  refine ⟨Int32.ofNat i, s.storage[i], hindex, hbyte, fun thread => ?_⟩
  have hvouch : s.vouchesFor i = true := by
    rw [Str.vouchesFor, Buffer.vouchesFor, hsize]
    simp only [Bool.or_eq_true, decide_eq_true_eq]
    omega
  have hread : s.readAt i = pure s.storage[i] := by
    have hbound : s.readBound = capacity + 1 := by rw [Str.readBound, ho]
    have hload : Buffer.load s.storage i = s.storage[i] := by rw [Buffer.load, hbyte]; rfl
    rw [Str.readAt_eq, hbound, if_pos (by omega), Int.toNat_natCast, hload]
  have hrun : (PointerCall.getByte i).runCounted (some s) =
      ⟨(some s, .number (signedByte s.storage[i])), none, []⟩ := by
    rw [PointerCall.runCounted, Counted.getByte, hread]
    rfl
  have hcall := callCounted_of_counted (c := .getByte i) thread hb hvouch
  rw [hrun] at hcall
  rw [hindex, effect, hcall]
  show (⟨_, (p.bind name (.counted s)).absorb thread none, []⟩ : Effect) = _
  rw [bind_of_binding? hb]
  rfl

/-- A string of the library has the capacity that the run tells of, and a byte more. -/
theorem exists_of_made {p : Program} (hp : p.made = []) {steps : List (Nat × Step)} {name : String}
    (hmade : name ∈ (p.after steps).made) :
    ∃ str capacity, (p.after steps).cell name = ⟨some (.counted str), true⟩ ∧
      Taken.capacityMade name (p.history steps) = some capacity ∧
      str.ownedCapacity = some capacity ∧ str.storage.size = capacity + 1 := by
  have hholds := cell_holds hp steps name
  generalize Taken.capacityMade name (p.history steps) = known at hholds ⊢
  cases hholds with
  | nothing hfalse =>
    rw [cell, decide_eq_false_iff_not] at hfalse
    exact absurd hmade hfalse
  | @string str capacity hc ho hsize => exact ⟨str, capacity, hc, rfl, ho, hsize⟩

/-- The step that takes a string of the library away hands back its block, and says so. -/
theorem handedBack_of_gone {p : Program} {name : String} {str : Str} {capacity : Nat}
    (hcell : p.cell name = ⟨some (.counted str), true⟩) (ho : str.ownedCapacity = some capacity)
    {thread : Nat} {s : Step} (hgone : name ∉ (p.step thread s).2.made) :
    p.handedBack s = some ⟨capacity + 9, 8⟩ ∧ .freed capacity ∈ (p.step thread s).1.events := by
  have hmade : name ∈ p.made := mem_made_of_cell hcell
  have hturn := p.effect_turn thread (subject_of_gone hmade hgone)
  rw [hcell] at hturn
  obtain ⟨t, es', -, -, hes⟩ := (hturn.leaves_of_gone (decide_eq_false hgone)).eq_concat_freed ho
  have hmem : .freed capacity ∈ (p.effect thread s).events := by
    rw [hes]
    exact List.mem_append_right es' List.mem_cons_self
  exact ⟨(p.freed_iff_handedBack thread s capacity).mp hmem, hmem⟩

/-- The end of a string of the library is reported with its capacity, and only where it goes. -/
theorem gone_of_freed {p : Program} {name : String} {str : Str} {capacity : Nat}
    (hcell : p.cell name = ⟨some (.counted str), true⟩) (ho : str.ownedCapacity = some capacity)
    {thread : Nat} {s : Step} {n : Nat} (hsubject : s.subject = some name)
    (hmem : .freed n ∈ (p.step thread s).1.events) :
    n = capacity ∧ name ∉ (p.step thread s).2.made := by
  have hturn := p.effect_turn thread hsubject
  rw [hcell] at hturn
  obtain ⟨hn, hfalse⟩ := hturn.gone_of_freed ho hmem
  exact ⟨hn, of_decide_eq_false hfalse⟩

/-- For every info word with the flag there is a block, and the last release hands it back. -/
theorem release_of_testBit (str : Str) (hbit : str.info.toNat.testBit 31 = true) :
    ∃ capacity, str.ownedCapacity = some capacity ∧
      layoutFor capacity = some ⟨capacity + 9, 8⟩ ∧
      (¬ 0 < str.refcount →
        str.release = ⟨.ok (.freed ⟨capacity + 9, 8⟩), [.freed capacity]⟩) := by
  have ho : str.ownedCapacity = some (str.info.toNat - ownedFlag.toNat) :=
    if_pos ((ownedFlag_le_iff str.info).mpr hbit)
  have hblock := layoutFor_of_le (capacityOf_le ho)
  refine ⟨_, ho, hblock, fun hr => ?_⟩
  obtain ⟨block, hblock', hrelease⟩ := Str.release_of_not_pos ho hr
  cases hblock.symm.trans hblock'
  exact hrelease

/-- **Blocks are handed back as they were obtained.**  Take a process that has made no string yet,
as every process starts (`Program.start`), and let it do whatever it does, on whatever threads.

* Every string of the library has the info word of the capacity for which its block was obtained.
  The step that takes it away, whichever it is, hands back a block of the same size and alignment,
  and reports the end of the string; and no other step about it reports one.  Each of its bytes up
  to the zero byte at its end has a number of 32 bits that is not negative, and reading there
  through the entry points succeeds.
* In every state, a step reports the end of a string exactly if it hands back the block for the
  reported capacity.  For every info word with the flag set there is such a block, so the last
  release always hands one back, and never leaves without.
* For every capacity that is admitted, nothing that a machine computes from it wraps around, and
  setting and taking away the flag with bits gives back what was put in. -/
theorem blocks_are_handed_back_whole {p : Program} (hp : p.made = []) (steps : List (Nat × Step)) :
    (∀ name ∈ (p.after steps).made, ∃ str capacity,
      (p.after steps).binding? name = some (.counted str) ∧ str.info = ownedInfo capacity ∧
      Taken.capacityMade name (p.history steps) = some capacity ∧
      reserve p.allocator capacity = ⟨.ok ⟨capacity + 9, 8⟩, [.allocated capacity]⟩ ∧
      (∀ thread s, name ∉ ((p.after steps).step thread s).2.made →
        (p.after steps).handedBack s = some ⟨capacity + 9, 8⟩ ∧
        .freed capacity ∈ ((p.after steps).step thread s).1.events) ∧
      (∀ thread s n, s.subject = some name →
        .freed n ∈ ((p.after steps).step thread s).1.events →
          n = capacity ∧ name ∉ ((p.after steps).step thread s).2.made) ∧
      ∀ i ≤ capacity, ∃ (index : Int32) (byte : UInt8), 0 ≤ index ∧ index.toInt = i ∧
        str.storage[i]? = some byte ∧ ∀ thread,
          let answer := ((p.after steps).step thread
            (.callThrough .counted (some name) (.getByte index.toInt))).1
          answer.result = .ok (.number (signedByte byte)) ∧ answer.events = []) ∧
    (∀ (q : Program) (thread : Nat) (s : Step) (capacity : Nat),
      .freed capacity ∈ (q.step thread s).1.events ↔
        q.handedBack s = some ⟨capacity + 9, 8⟩) ∧
    (∀ str : Str, str.info.toNat.testBit 31 = true → ∃ capacity,
      str.ownedCapacity = some capacity ∧ layoutFor capacity = some ⟨capacity + 9, 8⟩ ∧
      (¬ 0 < str.refcount →
        str.release = ⟨.ok (.freed ⟨capacity + 9, 8⟩), [.freed capacity]⟩)) ∧
    (∀ capacity ≤ 2147483647,
      ExactFor capacity ∧ capacityOf (ownedInfo capacity) = some capacity) ∧
    ∀ info, capacityOf info =
      if info &&& ownedFlag ≠ 0 then some (info &&& ~~~ownedFlag).toNat else none := by
  refine ⟨fun name hmade => ?_, fun q thread s capacity => q.freed_iff_handedBack thread s capacity,
    release_of_testBit, fun capacity hc => ⟨exactFor_of_le hc, capacityOf_ownedInfo hc⟩,
    capacityOf_eq_and⟩
  obtain ⟨str, capacity, hcell, hcapacity, ho, hsize⟩ := exists_of_made hp hmade
  have hb : (p.after steps).binding? name = some (.counted str) := binding?_of_cell hcell
  refine ⟨str, capacity, hb, eq_ownedInfo_of_capacityOf ho, hcapacity,
    p.reserve_of_capacityMade hcapacity, fun thread s hgone => handedBack_of_gone hcell ho hgone,
    fun thread s n hsubject hmem => gone_of_freed hcell ho hsubject hmem, fun i hi => ?_⟩
  obtain ⟨index, byte, hindex, hbyte, hread⟩ := getByte_of_le hb ho hsize hi
  refine ⟨index, byte, ?_, hindex, hbyte, fun thread => ?_⟩
  · rw [Int32.le_iff_toInt_le, hindex]
    exact Int.natCast_nonneg i
  · intro answer
    have hanswer : answer.result = _ ∧ answer.events = _ :=
      ⟨congrArg Effect.result (hread thread), congrArg Effect.events (hread thread)⟩
    exact hanswer

/-- A string with two owners is written to without regard to its header, its count word is
overwritten, and several threads share it at the same time; the last of them frees it. -/
theorem block_of_two_bytes_comes_back :
    let p : Program := start (.filledWith 7 64) ⟨∅⟩ [] .silent true
    let steps : List (Nat × Step) :=
      [(0, .make "abc" (.bytes [104, 105])), (1, .callThrough .counted (some "abc") .retain),
        (0, .callThrough .plain (some "abc") (.fill 0 [1, 2, 3])), (1, .poke "abc" 1)]
    let last : Step := .call "abc" (.share 2 1 2)
    p.made = [] ∧ "abc" ∈ (p.after steps).made ∧ "abc" ∉ ((p.after steps).step 1 last).2.made ∧
      (p.after steps).handedBack last = some ⟨11, 8⟩ ∧
      .freed 2 ∈ ((p.after steps).step 1 last).1.events ∧
      ∃ (index : Int32) (byte : UInt8), index.toInt = 2 ∧
        ((p.after steps).step 0
          (.callThrough .counted (some "abc") (.getByte index.toInt))).1.result =
          .ok (.number (signedByte byte)) := by
  intro p steps last
  have hmade : "abc" ∈ (p.after steps).made := by decide
  have hgone : "abc" ∉ ((p.after steps).step 1 last).2.made := by decide
  obtain ⟨str, capacity, -, -, hcapacity, -, hback, -, hread⟩ :=
    (blocks_are_handed_back_whole (p := p) rfl steps).1 "abc" hmade
  have htwo : Taken.capacityMade "abc" (p.history steps) = some 2 := by decide
  cases htwo.symm.trans hcapacity
  obtain ⟨hblock, hfreed⟩ := hback 1 last hgone
  obtain ⟨index, byte, -, hindex, -, hanswer⟩ := hread 2 (by decide)
  exact ⟨rfl, hmade, hgone, hblock, hfreed, index, byte, hindex, (hanswer 0).1⟩

end Program

end CountedStrings
