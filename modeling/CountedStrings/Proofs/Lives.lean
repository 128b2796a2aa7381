import CountedStrings.Proofs.Accesses
import CountedStrings.Proofs.Births

/-!
# The life of one string

All that a call can do with a string is made of four *acts*: an owner comes, an owner that is not
the last goes, a byte is written inside the bound for its value, or an access is turned away.  A
*life* is a sequence of acts with what they report, and it may *end* when the last owner of a
counted string goes.

## 1.  Acts, lives and ends

`Str.Act`, `Str.Life` and `Str.Leaves`.  The reports are part of the relations, so a statement about
the log of a string needs nothing else.

## 2.  Calls are lives

`StrCall.run_leaves` for the calls of the library and `PointerCall.runCounted_leaves` for those
through the entry points: whatever the call is, what it leaves of the string is reached by a life
with exactly the events that the call reports.

## 3.  What a life keeps

`Life.keeps`: what every act keeps is kept by every life.  No act changes the info word of a string
(`Life.info_eq`) or the number of its bytes (`Life.size_eq`), and none tells of its block
(`Life.isBlock_eq`).
-/

namespace CountedStrings

namespace Str

/-! ## 1.  Acts, lives and ends -/

/-- One thing that happens to a string, with what is reported about it. -/
inductive Act : Str → List Event → Str → Prop
  | retain {s : Str} {capacity : Nat} (ho : s.ownedCapacity = some capacity) :
      Act s [.retained (s.refcount + 1).toInt] (s.withRefcount (s.refcount + 1))
  | release {s : Str} {capacity : Nat} (ho : s.ownedCapacity = some capacity)
      (hr : 0 < s.refcount) :
      Act s [.referenceReleased (s.refcount - 1).toInt] (s.withRefcount (s.refcount - 1))
  | write {s : Str} {i : Nat} {value : UInt8} (h : i < s.writeBound value) :
      Act s [] (s.withStorage (Buffer.store s.storage i value))
  | refuse (s : Str) (index : Int) (bound : Nat) : Act s [.indexOutOfBounds index bound] s

/-- One act after the other, with all that is reported. -/
inductive Life : Str → List Event → Str → Prop
  | rest (s : Str) : Life s [] s
  | act {s t u : Str} {es es' : List Event} (h : Life s es t) (ha : Act t es' u) :
      Life s (es ++ es') u

/-- What is left of a string after some events: the string as it is now, or nothing if the last
owner of a counted string is gone. -/
inductive Leaves (s : Str) : List Event → Option Str → Prop
  | stays {t : Str} {es : List Event} (h : Life s es t) : Leaves s es (some t)
  | ends {t : Str} {es : List Event} {capacity : Nat} (h : Life s es t)
      (ho : t.ownedCapacity = some capacity) (hr : ¬ 0 < t.refcount) :
      Leaves s (es ++ [.freed capacity]) none

theorem Act.life {s t : Str} {es : List Event} (h : Act s es t) : Life s es t :=
  Life.act (Life.rest s) h

theorem Life.trans {s t u : Str} {es es' : List Event} (h : Life s es t) (h' : Life t es' u) :
    Life s (es ++ es') u := by
  induction h' with
  | rest =>
    rw [List.append_nil]
    exact h
  | act _ ha ih =>
    rw [← List.append_assoc]
    exact Life.act ih ha

/-- A string that is left was reached by a life. -/
theorem Leaves.life {s t : Str} {es : List Event} (h : Leaves s es (some t)) : Life s es t := by
  cases h with
  | stays ht => exact ht

/-- What is left later is what is left of the string as it is now. -/
theorem Leaves.of_life {s t : Str} {es es' : List Event} {left : Option Str} (h : Life s es t)
    (h' : Leaves t es' left) : Leaves s (es ++ es') left := by
  cases h' with
  | stays ht => exact Leaves.stays (h.trans ht)
  | ends ht ho hr =>
    rw [← List.append_assoc]
    exact Leaves.ends (h.trans ht) ho hr

/-! ## 2.  Calls are lives -/

theorem retain_life (s : Str) :
    ∃ t, s.retain.result = .ok t ∧ Life s s.retain.events t := by
  cases h : s.ownedCapacity with
  | none =>
    rw [retain_of_foreign h]
    exact ⟨s, rfl, Life.rest s⟩
  | some capacity =>
    rw [retain_of_owned h]
    exact ⟨_, rfl, (Act.retain h).life⟩

theorem release_leaves (s : Str) :
    ∃ left, s.release.result = .ok left ∧ Leaves s s.release.events left.remaining := by
  cases h : s.ownedCapacity with
  | none =>
    rw [release_of_foreign h]
    exact ⟨.kept s, rfl, Leaves.stays (Life.rest s)⟩
  | some capacity =>
    by_cases hr : 0 < s.refcount
    · rw [release_of_pos h hr]
      exact ⟨_, rfl, Leaves.stays (Act.release h hr).life⟩
    · obtain ⟨block, -, hs⟩ := release_of_not_pos h hr
      rw [hs]
      exact ⟨_, rfl, Leaves.ends (Life.rest s) h hr⟩

/-- A read leaves the string as it is. -/
theorem readAt_life (s : Str) (index : Int) : Life s (s.readAt index).events s := by
  rw [readAt_eq]
  split
  · exact Life.rest s
  · exact (Act.refuse s index s.readBound).life

theorem writeAt_life (s : Str) (index : Int) (value : UInt8) :
    match (s.writeAt index value).result with
    | .ok t => Life s (s.writeAt index value).events t
    | .error _ => Life s (s.writeAt index value).events s := by
  by_cases h : 0 ≤ index ∧ index < s.writeBound value
  · have hi : index.toNat < s.writeBound value := by omega
    rw [writeAt_eq, if_pos h]
    exact (Act.write hi).life
  · rw [writeAt_eq, if_neg h]
    exact (Act.refuse s index (s.writeBound value)).life

theorem retainTimes_life (n : Nat) (s : Str) :
    ∃ t, (retainTimes n s).result = .ok t ∧ Life s (retainTimes n s).events t := by
  induction n generalizing s with
  | zero => exact ⟨s, rfl, Life.rest s⟩
  | succ n ih =>
    obtain ⟨t, ht, hlife⟩ := retain_life s
    obtain ⟨u, hu, hlife'⟩ := ih t
    refine ⟨u, ?_, ?_⟩
    · rw [retainTimes, Outcome.bind_ok ht, hu]
    · rw [retainTimes, Outcome.bind_ok ht]
      exact hlife.trans hlife'

theorem releaseTimes_leaves (n : Nat) (s : Str) :
    ∃ left, (releaseTimes n s).result = .ok left ∧
      Leaves s (releaseTimes n s).events left.remaining := by
  induction n generalizing s with
  | zero => exact ⟨.kept s, rfl, Leaves.stays (Life.rest s)⟩
  | succ n ih =>
    obtain ⟨left, hleft, hlife⟩ := release_leaves s
    rw [releaseTimes, Outcome.bind_ok hleft]
    cases left with
    | kept t =>
      obtain ⟨left', hleft', hlife'⟩ := ih t
      exact ⟨left', hleft', Leaves.of_life hlife.life hlife'⟩
    | freed block =>
      refine ⟨.freed block, rfl, ?_⟩
      show Leaves s (s.release.events ++ []) none
      rw [List.append_nil]
      exact hlife

theorem shareBetween_leaves (threads retains releases : Nat) (s : Str) :
    ∃ left, (shareBetween threads retains releases s).result = .ok left ∧
      Leaves s (shareBetween threads retains releases s).events left.remaining := by
  induction threads generalizing s with
  | zero => exact ⟨.kept s, rfl, Leaves.stays (Life.rest s)⟩
  | succ threads ih =>
    obtain ⟨t, ht, hlife⟩ := retainTimes_life retains s
    obtain ⟨left, hleft, hlife'⟩ := releaseTimes_leaves releases t
    rw [shareBetween, Outcome.bind_ok ht]
    rw [Outcome.bind_ok hleft]
    cases left with
    | kept u =>
      obtain ⟨left', hleft', hlife''⟩ := ih u
      exact ⟨left', hleft', Leaves.of_life hlife (Leaves.of_life hlife'.life hlife'')⟩
    | freed block =>
      refine ⟨.freed block, rfl, ?_⟩
      show Leaves s (_ ++ (_ ++ [])) none
      rw [List.append_nil]
      exact Leaves.of_life hlife hlife'

end Str

namespace StrCall

open Str

/-- A read whose byte is answered with is a life, and leaves the string as it was. -/
theorem read_leaves (s : Str) (index : Int) {f : UInt8 → Option Str × Reply}
    (hf : ∀ byte, (f byte).1 = some s) :
    match (s.readAt index >>= fun byte => pure (f byte)).result with
    | .ok x => Leaves s (s.readAt index >>= fun byte => pure (f byte)).events x.1
    | .error _ => Life s (s.readAt index >>= fun byte => pure (f byte)).events s := by
  have hlife := readAt_life s index
  rw [Outcome.bind_pure_eq]
  cases h : (s.readAt index).result with
  | error error => exact hlife
  | ok byte =>
    show Leaves s _ (f byte).1
    rw [hf]
    exact Leaves.stays hlife

/-- A write is a life, and a failed one leaves the string as it was. -/
theorem write_leaves (s : Str) (index : Int) (value : UInt8) :
    match (s.writeAt index value >>= fun t => pure (some t, Reply.done)).result with
    | .ok x => Leaves s (s.writeAt index value >>= fun t => pure (some t, Reply.done)).events x.1
    | .error _ =>
      Life s (s.writeAt index value >>= fun t => pure (some t, Reply.done)).events s := by
  have hlife := writeAt_life s index value
  rw [Outcome.bind_pure_eq]
  cases h : (s.writeAt index value).result with
  | error error =>
    rw [h] at hlife
    exact hlife
  | ok t =>
    rw [h] at hlife
    exact Leaves.stays hlife

/-- **Every call of the library is a life**, and a failed one leaves the string as it was. -/
theorem run_leaves (s : Str) (c : StrCall) :
    match (c.run s).result with
    | .ok x => Leaves s (c.run s).events x.1
    | .error _ => Life s (c.run s).events s := by
  cases c with
  | describe => exact Leaves.stays (Life.rest s)
  | equals bytes => exact Leaves.stays (Life.rest s)
  | byteAt index => exact read_leaves s (clampIndex index) fun _ => rfl
  | setByteAt index value => exact write_leaves s (clampIndex index) value
  | readAt index => exact read_leaves s index fun _ => rfl
  | writeAt index value => exact write_leaves s index value
  | capacity => exact Leaves.stays (Life.rest s)
  | refcount => exact Leaves.stays (Life.rest s)
  | retain =>
    obtain ⟨t, ht, hlife⟩ := retain_life s
    rw [run, Outcome.bind_pure_eq, ht]
    exact Leaves.stays hlife
  | release =>
    obtain ⟨left, hleft, hlife⟩ := release_leaves s
    rw [run, Outcome.bind_pure_eq, hleft]
    exact hlife
  | share threads retains releases =>
    obtain ⟨left, hleft, hlife⟩ := shareBetween_leaves threads retains releases s
    rw [run, Outcome.bind_pure_eq, hleft]
    exact hlife

end StrCall

/-! ### Through the entry points -/

namespace Counted

open Str

theorem setByte_life (s : Str) (index value : Int) :
    ∃ t, (setByte (some s) index value).value = some t ∧
      Life s (setByte (some s) index value).events t := by
  have hlife := writeAt_life s index (UInt8.ofInt value)
  rw [setByte, Outcome.events_orRecord, Outcome.events_map]
  cases h : (s.writeAt index (UInt8.ofInt value)).result with
  | ok t =>
    rw [h] at hlife
    refine ⟨t, ?_, hlife⟩
    rw [Outcome.orRecord_ok]
    rw [Outcome.result_map, h]
    rfl
  | error error =>
    rw [h] at hlife
    refine ⟨s, ?_, hlife⟩
    rw [Outcome.orRecord_error]
    rw [Outcome.result_map, h]
    rfl

theorem getByte_life (s : Str) (index : Int) :
    Life s (getByte (some s) index).events s := by
  rw [getByte, Recorded.map_eq, Outcome.events_orRecord]
  exact readAt_life s index

theorem fillWith_life (s : Str) (index : Int) (bytes : Bytes) :
    ∃ t, (fillWith setByte (some s) index bytes).value = some t ∧
      Life s (fillWith setByte (some s) index bytes).events t := by
  induction bytes generalizing s index with
  | nil => exact ⟨s, rfl, Life.rest s⟩
  | cons byte rest ih =>
    obtain ⟨t, ht, hlife⟩ := setByte_life s index byte.toNat
    obtain ⟨u, hu, hlife'⟩ := ih t (index + 1)
    refine ⟨u, ?_, ?_⟩
    · rw [fillWith, Recorded.value_bind, ht, hu]
    · rw [fillWith, Recorded.events_bind, ht]
      exact hlife.trans hlife'

theorem scanWith_life (s : Str) (index : Int) (count : Nat) :
    Life s (scanWith (getByte (some s)) index count).events s := by
  induction count generalizing index with
  | zero => exact Life.rest s
  | succ count ih =>
    rw [scanWith, Recorded.events_bind, Recorded.events_bind, Recorded.events_pure,
      List.append_nil]
    exact (getByte_life s index).trans (ih (index + 1))

end Counted

namespace PointerCall

open Str

/-- **Every call through the entry points is a life.** -/
theorem runCounted_leaves (s : Str) (c : PointerCall) :
    Leaves s (c.runCounted (some s)).events (c.runCounted (some s)).value.1 := by
  cases c with
  | setByte index value =>
    obtain ⟨t, ht, hlife⟩ := Counted.setByte_life s index value
    rw [runCounted, Recorded.events_bind, Recorded.value_bind, Recorded.events_pure,
      List.append_nil, Recorded.value_pure, ht]
    exact Leaves.stays hlife
  | getByte index =>
    rw [runCounted, Recorded.events_bind, Recorded.events_pure, List.append_nil]
    exact Leaves.stays (Counted.getByte_life s index)
  | fill index bytes =>
    obtain ⟨t, ht, hlife⟩ := Counted.fillWith_life s index bytes
    rw [runCounted, Recorded.events_bind, Recorded.value_bind, Recorded.events_pure,
      List.append_nil, Recorded.value_pure, ht]
    exact Leaves.stays hlife
  | scan index count =>
    rw [runCounted, Recorded.events_bind, Recorded.events_pure, List.append_nil]
    exact Leaves.stays (Counted.scanWith_life s index count)
  | retain =>
    obtain ⟨t, ht, hlife⟩ := retain_life s
    have hx : Counted.retain (some s) = ⟨some t, none, s.retain.events⟩ := by
      rw [Counted.retain, Outcome.map_eq, ht]
      rfl
    rw [runCounted, Recorded.events_bind, Recorded.value_bind, hx, Recorded.events_pure,
      List.append_nil]
    exact Leaves.stays hlife
  | release =>
    obtain ⟨left, hleft, hlife⟩ := release_leaves s
    have hx : Counted.release (some s) = ⟨some left, none, s.release.events⟩ := by
      rw [Counted.release, Outcome.map_eq, hleft]
      rfl
    rw [runCounted, Recorded.events_bind, Recorded.value_bind, hx]
    show Leaves s (s.release.events ++ []) left.remaining
    rw [List.append_nil]
    exact hlife
  | refcount => exact Leaves.stays (Life.rest s)

end PointerCall

/-! ## 3.  What a life keeps -/

namespace Str

/-- What every act keeps is kept by every life. -/
theorem Life.keeps {P : Str → Prop} (hact : ∀ {s t es}, Act s es t → P s → P t) {s t : Str}
    {es : List Event} (h : Life s es t) (hs : P s) : P t := by
  induction h with
  | rest => exact hs
  | act _ ha ih => exact hact ha ih

@[simp] theorem info_withRefcount (s : Str) (refcount : Int32) :
    (s.withRefcount refcount).info = s.info := rfl

@[simp] theorem storage_withRefcount (s : Str) (refcount : Int32) :
    (s.withRefcount refcount).storage = s.storage := rfl

@[simp] theorem refcount_withRefcount (s : Str) (refcount : Int32) :
    (s.withRefcount refcount).refcount = refcount := rfl

@[simp] theorem info_withStorage (s : Str) (storage : Array UInt8) :
    (s.withStorage storage).info = s.info := rfl

@[simp] theorem storage_withStorage (s : Str) (storage : Array UInt8) :
    (s.withStorage storage).storage = storage := rfl

@[simp] theorem refcount_withStorage (s : Str) (storage : Array UInt8) :
    (s.withStorage storage).refcount = s.refcount := rfl

/-- The info word of a string is written once. -/
theorem Life.info_eq {s t : Str} {es : List Event} (h : Life s es t) : t.info = s.info := by
  refine h.keeps (P := fun u => u.info = s.info) ?_ rfl
  intro u v es ha hu
  cases ha with
  | retain => exact hu
  | release => exact hu
  | write => exact hu
  | refuse => exact hu

theorem Life.ownedCapacity_eq {s t : Str} {es : List Event} (h : Life s es t) :
    t.ownedCapacity = s.ownedCapacity := congrArg capacityOf h.info_eq

/-- The number of bytes of a string is fixed when it is made. -/
theorem Life.size_eq {s t : Str} {es : List Event} (h : Life s es t) :
    t.storage.size = s.storage.size := by
  refine h.keeps (P := fun u => u.storage.size = s.storage.size) ?_ rfl
  intro u v es ha hu
  cases ha with
  | retain => exact hu
  | release => exact hu
  | write =>
    rw [storage_withStorage, Buffer.size_store]
    exact hu
  | refuse => exact hu

/-- As long as a string lives, no event tells of its block. -/
theorem Life.isBlock_eq {s t : Str} {es : List Event} (h : Life s es t) :
    ∀ e ∈ es, e.isBlock = false := by
  induction h with
  | rest => simp
  | act _ ha ih =>
    intro e he
    rcases List.mem_append.mp he with he | he
    · exact ih e he
    · cases ha with
      | write => simp at he
      | retain => rw [List.mem_singleton.mp he]; rfl
      | release => rw [List.mem_singleton.mp he]; rfl
      | refuse => rw [List.mem_singleton.mp he]; rfl

end Str

end CountedStrings
