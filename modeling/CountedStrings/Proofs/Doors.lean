import CountedStrings.Proofs.Changes

/-!
# Owners through either door

An owner of a string is added or taken away by a call of the library or through an entry point.  To
the string these are the same thing, so what is said about owners is said once for both, as the two
ways in through a `Door`.

## 1.  One owner more or less

`cell_retain`, `binding?_release_of_pos` and `binding?_release_of_not_pos` say what is left of a
counted string, `events_retain` and `events_release_of_pos` what is reported.

## 2.  The limit of the count word

A retain does not look whether there is room for one owner more.  `Taken.RetainsAtLimit` is about
the one that finds none: its count word held `maxCount` before (`retainsAtLimit_iff`).  Beyond that
the word goes on with the lowest count there is, as can be seen after many retains
(`cell_after_retains`).
-/

namespace CountedStrings

/-! ## 1.  One owner more or less -/

/-- Where a thread asks for an owner more or less. -/
inductive Door where
  | library
  | entryPoint

namespace Door

/-- The step that adds an owner. -/
def retain (name : String) : Door → Step
  | .library => .call name .retain
  | .entryPoint => .callThrough .counted (some name) .retain

/-- The step that takes an owner away. -/
def release (name : String) : Door → Step
  | .library => .call name .release
  | .entryPoint => .callThrough .counted (some name) .release

end Door

/-- The count word of a string. -/
def Program.count? (p : Program) (name : String) : Option Int32 :=
  match p.binding? name with
  | some (.counted s) => some s.refcount
  | _ => none

namespace Program

variable {p : Program} {name : String} {s : Str} {capacity : Nat}

theorem count?_of_counted (h : p.binding? name = some (.counted s)) :
    p.count? name = some s.refcount := by
  rw [count?, h]

/-- What a call leaves of a string is what its name stands for. -/
theorem binding?_leave (p : Program) (name : String) (left : Option Str) :
    (p.leave name left).binding? name = left.map .counted := by
  cases left with
  | none => exact binding?_of_cell (p.cell_unbind name)
  | some s => exact binding?_of_cell (p.cell_bind name (.counted s))

/-- Through either door, an owner of a counted string is added to its count word. -/
theorem cell_retain (hs : p.binding? name = some (.counted s))
    (ho : s.ownedCapacity = some capacity) (thread : Nat) (door : Door) :
    (p.step thread (door.retain name)).2.cell name =
      ⟨some (.counted (s.withRefcount (s.refcount + 1))), (p.cell name).made⟩ := by
  cases door with
  | library =>
    have hx : (StrCall.run s .retain).result =
        .ok (some (s.withRefcount (s.refcount + 1)), .done) := by
      rw [StrCall.run, Str.retain_of_owned ho]
      rfl
    show (p.call name .retain).after.cell name = _
    rw [call_of_ok hs rfl hx]
    exact p.cell_bind name _
  | entryPoint =>
    have hx : (PointerCall.runCounted (some s) .retain).value.1 =
        some (s.withRefcount (s.refcount + 1)) := by
      rw [PointerCall.runCounted, Counted.retain, Str.retain_of_owned ho]
      rfl
    show (p.callCounted thread (some name) .retain).after.cell name = _
    rw [callCounted_of_counted thread hs rfl, hx]
    exact p.cell_bind name _

/-- Through either door, adding an owner reports just that. -/
theorem events_retain (hs : p.binding? name = some (.counted s))
    (ho : s.ownedCapacity = some capacity) (thread : Nat) (door : Door) :
    (p.step thread (door.retain name)).1.events = [.retained (s.refcount + 1).toInt] := by
  cases door with
  | library =>
    refine (events_call (c := .retain) hs rfl).trans ?_
    rw [StrCall.run, Str.retain_of_owned ho]
    rfl
  | entryPoint =>
    refine (congrArg Effect.events (callCounted_of_counted (c := .retain) thread hs rfl)).trans ?_
    rw [PointerCall.runCounted, Counted.retain, Str.retain_of_owned ho]
    rfl

/-- Through either door, an owner that is not the last is taken off the count word. -/
theorem binding?_release_of_pos (hs : p.binding? name = some (.counted s))
    (ho : s.ownedCapacity = some capacity) (hr : 0 < s.refcount) (thread : Nat) (door : Door) :
    (p.step thread (door.release name)).2.binding? name =
      some (.counted (s.withRefcount (s.refcount - 1))) := by
  cases door with
  | library =>
    have hx : (StrCall.run s .release).result =
        .ok (some (s.withRefcount (s.refcount - 1)), .released false) := by
      rw [StrCall.run, Str.release_of_pos ho hr]
      rfl
    show (p.call name .release).after.binding? name = _
    rw [call_of_ok hs rfl hx]
    exact p.binding?_leave name _
  | entryPoint =>
    have hx : (PointerCall.runCounted (some s) .release).value.1 =
        some (s.withRefcount (s.refcount - 1)) := by
      rw [PointerCall.runCounted, Counted.release, Str.release_of_pos ho hr]
      rfl
    show (p.callCounted thread (some name) .release).after.binding? name = _
    rw [callCounted_of_counted thread hs rfl, hx]
    exact p.binding?_leave name _

/-- Through either door, taking away an owner that is not the last reports just that. -/
theorem events_release_of_pos (hs : p.binding? name = some (.counted s))
    (ho : s.ownedCapacity = some capacity) (hr : 0 < s.refcount) (thread : Nat) (door : Door) :
    (p.step thread (door.release name)).1.events = [.referenceReleased (s.refcount - 1).toInt] := by
  cases door with
  | library =>
    refine (events_call (c := .release) hs rfl).trans ?_
    rw [StrCall.run, Str.release_of_pos ho hr]
    rfl
  | entryPoint =>
    refine (congrArg Effect.events (callCounted_of_counted (c := .release) thread hs rfl)).trans ?_
    rw [PointerCall.runCounted, Counted.release, Str.release_of_pos ho hr]
    rfl

/-- Through either door, the last owner frees the string, and that is what is reported. -/
theorem binding?_release_of_not_pos (hs : p.binding? name = some (.counted s))
    (ho : s.ownedCapacity = some capacity) (hr : ¬ 0 < s.refcount) (thread : Nat) (door : Door) :
    (p.step thread (door.release name)).2.binding? name = none ∧
      (p.step thread (door.release name)).1.events = [.freed capacity] := by
  obtain ⟨block, -, hfree⟩ := Str.release_of_not_pos ho hr
  cases door with
  | library =>
    have hx : (StrCall.run s .release) = ⟨.ok (none, .released true), [.freed capacity]⟩ := by
      rw [StrCall.run, hfree]
      rfl
    show (p.call name .release).after.binding? name = _ ∧ (p.call name .release).events = _
    rw [call_of_ok hs rfl (congrArg Outcome.result hx), hx]
    exact ⟨p.binding?_leave name _, rfl⟩
  | entryPoint =>
    have hx : PointerCall.runCounted (some s) .release =
        ⟨(none, .released true), none, [.freed capacity]⟩ := by
      rw [PointerCall.runCounted, Counted.release, hfree]
      rfl
    show (p.callCounted thread (some name) .release).after.binding? name = _ ∧
      (p.callCounted thread (some name) .release).events = _
    rw [callCounted_of_counted thread hs rfl, hx]
    exact ⟨p.binding?_leave name _, rfl⟩

end Program

/-! ## 2.  The limit of the count word -/

/-- Whether a step let an owner come to a string whose count word was at its limit.  A retain
reports the count that it leaves, and after the largest count comes the lowest. -/
def Taken.RetainsAtLimit (x : Taken) : Prop := .retained (-2147483648) ∈ x.answer.events

instance (x : Taken) : Decidable x.RetainsAtLimit :=
  inferInstanceAs (Decidable (_ ∈ x.answer.events))

/-- Only the largest count is followed by the lowest. -/
theorem toInt_add_one_eq_min {n : Int32} : (n + 1).toInt = -2147483648 ↔ n = maxCount := by
  constructor
  · intro h
    refine Decidable.byContradiction fun hne => ?_
    have hlo := n.le_toInt
    rw [toInt_add_one hne] at h
    omega
  · rintro rfl
    rfl

namespace Program

variable {p : Program} {name : String} {s : Str} {capacity : Nat}

/-- **A retain is at the limit** if the count word has no room for one owner more. -/
theorem retainsAtLimit_iff (hs : p.binding? name = some (.counted s))
    (ho : s.ownedCapacity = some capacity) (thread : Nat) (door : Door) :
    Taken.RetainsAtLimit ⟨thread, door.retain name, (p.step thread (door.retain name)).1⟩ ↔
      p.count? name = some maxCount := by
  rw [Taken.RetainsAtLimit, events_retain hs ho, count?_of_counted hs, List.mem_singleton,
    Event.retained.injEq, eq_comm, toInt_add_one_eq_min, Option.some.injEq]

/-- **The count word after many retains** has counted them as far as it goes. -/
theorem cell_after_retains (hc : p.cell name = ⟨some (.counted s), true⟩)
    (ho : s.ownedCapacity = some capacity) (thread : Nat) (door : Door) (n : Nat) :
    (p.after (List.replicate n (thread, door.retain name))).cell name =
      ⟨some (.counted (s.withRefcount (s.refcount + Int32.ofNat n))), true⟩ := by
  induction n with
  | zero =>
    rw [List.replicate_zero, after_nil, hc]
    show _ = Cell.mk (some (.counted (s.withRefcount (s.refcount + 0)))) true
    rw [Int32.add_zero]
    rfl
  | succ n ih =>
    rw [List.replicate_succ', after_concat,
      cell_retain (binding?_of_cell ih) ho thread door, ih]
    show Cell.mk (some (.counted (s.withRefcount (s.refcount + Int32.ofNat n + 1)))) true = _
    rw [Int32.add_assoc, Int32.ofNat_add]
    rfl

/-- No retain takes a string away. -/
theorem made_along_retains (hc : p.cell name = ⟨some (.counted s), true⟩)
    (ho : s.ownedCapacity = some capacity) (thread : Nat) (door : Door) (n : Nat) :
    p.Along (fun q thread s => name ∈ (q.step thread s).2.made)
      (List.replicate n (thread, door.retain name)) := by
  induction n with
  | zero => trivial
  | succ n ih =>
    have hmade := mem_made_of_cell (cell_after_retains hc ho thread door (n + 1))
    rw [List.replicate_succ', after_concat] at hmade
    rw [List.replicate_succ']
    exact along_append.mpr ⟨ih, hmade, trivial⟩

end Program

end CountedStrings
