import CountedStrings.Program.Call

/-!
# Outcomes of single calls

What a call returns and reports, as one equation per call.  The equations say everything about the
call, so nothing that is proved later opens a definition of `CountedStrings.Str` again.

## 1.  Values behind a call

`Outcome.map_eq` and `Recorded.map_eq`: using a value adds no report and no failure.  Recorded calls
form a lawful monad, as outcomes do.
`Outcome.orRecord_ok` and `Outcome.orRecord_error`: what an entry point makes of an outcome.

## 2.  Byte access

`refusal` is the outcome of an access that is turned away.  `readAt_eq` and `writeAt_eq`, for
strings and for buffers: an access inside the bound reads or writes the byte and reports nothing;
every other one is a refusal.

## 3.  Owners

`retain_of_owned`, `release_of_pos`, `release_of_not_pos` for strings that are counted, and
`retain_of_foreign`, `release_of_foreign` for those that are not.  A count word holds at most
`maxCount`; below that, and above zero, the word counts as a number does (`toInt_add_one`,
`toInt_sub_one`).
-/

namespace CountedStrings

/-! ## 1.  Values behind a call -/

namespace Outcome

variable {α β : Type}

/-- Using a value adds no report and no failure. -/
theorem map_eq (f : α → β) (x : Outcome α) : f <$> x = ⟨x.result.map f, x.events⟩ := by
  cases x with
  | mk result events =>
    cases result with
    | error e => rfl
    | ok a =>
      show Outcome.andThen _ _ = _
      simp [andThen, ok, Except.map]

@[simp] theorem result_map (f : α → β) (x : Outcome α) : (f <$> x).result = x.result.map f := by
  rw [map_eq]

@[simp] theorem events_map (f : α → β) (x : Outcome α) : (f <$> x).events = x.events := by
  rw [map_eq]

/-- Passing a value on adds no report and no failure. -/
theorem bind_pure_eq (x : Outcome α) (f : α → β) :
    (x >>= fun a => pure (f a)) = ⟨x.result.map f, x.events⟩ := by
  rw [← map_eq]
  exact bind_pure_comp f x

/-- What an entry point makes of a value. -/
theorem orRecord_ok {x : Outcome α} {a : α} (h : x.result = .ok a) (neutral : α) :
    x.orRecord neutral = ⟨a, none, x.events⟩ := by
  rw [orRecord, h]

/-- What an entry point makes of a failure. -/
theorem orRecord_error {x : Outcome α} {error : StringError} (h : x.result = .error error)
    (neutral : α) : x.orRecord neutral = ⟨neutral, some error.code, x.events⟩ := by
  rw [orRecord, h]

/-- An entry point reports what the call behind it reports. -/
@[simp] theorem events_orRecord (x : Outcome α) (neutral : α) :
    (x.orRecord neutral).events = x.events := by
  cases h : x.result with
  | ok a => rw [orRecord_ok h]
  | error error => rw [orRecord_error h]

end Outcome

namespace Recorded

variable {α β : Type}

/-- Using a returned value changes nothing else. -/
theorem map_eq (f : α → β) (x : Recorded α) : f <$> x = ⟨f x.value, x.code, x.events⟩ := by
  show andThen _ _ = _
  simp [andThen]

/-- Passing a returned value on changes nothing else. -/
theorem bind_pure_eq (x : Recorded α) (f : α → β) :
    (x >>= fun a => pure (f a)) = ⟨f x.value, x.code, x.events⟩ := by
  show andThen _ _ = _
  simp [andThen]

/-- Nothing happens between a value and its use. -/
@[simp] theorem pure_bind (a : α) (f : α → Recorded β) : (pure a >>= f) = f a := by
  show andThen _ _ = _
  simp [andThen]

/-- Three calls in a row can be grouped either way. -/
theorem bind_assoc {γ : Type} (x : Recorded α) (f : α → Recorded β) (g : β → Recorded γ) :
    x >>= f >>= g = x >>= fun a => f a >>= g := by
  show andThen (andThen _ _) _ = andThen _ fun a => andThen _ _
  simp only [andThen, Option.or_assoc, List.append_assoc]

instance : LawfulMonad Recorded :=
  LawfulMonad.mk' Recorded (fun x => map_eq id x) pure_bind bind_assoc

end Recorded

/-! ## 2.  Byte access -/

/-- The outcome of an access that is turned away. -/
def refusal {α : Type} (index : Int) (bound : Nat) : Outcome α :=
  ⟨.error (.invalidIndex index bound), [.indexOutOfBounds index bound]⟩

/-- An index is checked before anything is done with it. -/
theorem checkedIndex_then {α : Type} (index : Int) (bound : Nat) (f : Nat → α) :
    (checkedIndex index bound >>= fun i => pure (f i)) =
      if 0 ≤ index ∧ index < bound then pure (f index.toNat) else refusal index bound := by
  split
  · next h => rw [checkedIndex_of_mem h, Outcome.pure_bind]
  · next h =>
    rw [checkedIndex_of_notMem h]
    exact Outcome.bind_error rfl _

namespace Buffer

theorem readAt_eq (buffer : Buffer) (index : Int) :
    buffer.readAt index =
      if 0 ≤ index ∧ index < addressBound then pure (buffer.load index.toNat)
      else refusal index addressBound :=
  checkedIndex_then index addressBound buffer.load

theorem writeAt_eq (buffer : Buffer) (index : Int) (value : UInt8) :
    buffer.writeAt index value =
      if 0 ≤ index ∧ index < addressBound then pure (buffer.store index.toNat value)
      else refusal index addressBound :=
  checkedIndex_then index addressBound fun i => buffer.store i value

end Buffer

/-! ### Count words -/

/-- The largest number of owners besides the first that a count word can hold. -/
def maxCount : Int32 := 2147483647

theorem pos_iff_toInt_pos {n : Int32} : 0 < n ↔ 0 < n.toInt := by
  rw [Int32.lt_iff_toInt_lt, Int32.toInt_zero]

/-- Below the largest count, one owner more is one more. -/
theorem toInt_add_one {n : Int32} (h : n ≠ maxCount) : (n + 1).toInt = n.toInt + 1 := by
  have hlo := n.le_toInt
  have hhi := n.toInt_lt
  have hne : n.toInt ≠ 2147483647 := fun hn => h (Int32.toInt.inj hn)
  rw [Int32.toInt_add, Int32.toInt_one]
  exact Int.bmod_eq_of_le (by omega) (by omega)

/-- Above zero, one owner less is one less. -/
theorem toInt_sub_one {n : Int32} (h : 0 < n) : (n - 1).toInt = n.toInt - 1 := by
  have hhi := n.toInt_lt
  have hpos := pos_iff_toInt_pos.mp h
  rw [Int32.toInt_sub, Int32.toInt_one]
  exact Int.bmod_eq_of_le (by omega) (by omega)

namespace Str

theorem readAt_eq (s : Str) (index : Int) :
    s.readAt index =
      if 0 ≤ index ∧ index < s.readBound then pure (Buffer.load s.storage index.toNat)
      else refusal index s.readBound :=
  checkedIndex_then index s.readBound (Buffer.load s.storage)

theorem writeAt_eq (s : Str) (index : Int) (value : UInt8) :
    s.writeAt index value =
      if 0 ≤ index ∧ index < s.writeBound value then
        pure (s.withStorage (Buffer.store s.storage index.toNat value))
      else refusal index (s.writeBound value) :=
  checkedIndex_then index (s.writeBound value) fun i =>
    s.withStorage (Buffer.store s.storage i value)

/-! ## 3.  Owners -/

/-- An owner of a counted string is added in one act. -/
theorem retain_of_owned {s : Str} {capacity : Nat} (h : s.ownedCapacity = some capacity) :
    s.retain =
      ⟨.ok (s.withRefcount (s.refcount + 1)), [.retained (s.refcount + 1).toInt]⟩ := by
  rw [retain, h]
  rfl

/-- Strings that are not counted have no owners to add. -/
theorem retain_of_foreign {s : Str} (h : s.ownedCapacity = none) : s.retain = pure s := by
  rw [retain, h]

theorem release_of_foreign {s : Str} (h : s.ownedCapacity = none) :
    s.release = pure (.kept s) := by
  rw [release, h]

/-- With a count above zero there are owners left. -/
theorem release_of_pos {s : Str} {capacity : Nat} (h : s.ownedCapacity = some capacity)
    (hr : 0 < s.refcount) :
    s.release = ⟨.ok (.kept (s.withRefcount (s.refcount - 1))),
      [.referenceReleased (s.refcount - 1).toInt]⟩ := by
  rw [release, h]
  show (if 0 < s.refcount then _ else _) = _
  rw [if_pos hr]
  rfl

/-- With a count of zero, or below, the last owner is gone and the block is handed back: every
capacity that an info word can hold has a block. -/
theorem release_of_not_pos {s : Str} {capacity : Nat} (h : s.ownedCapacity = some capacity)
    (hr : ¬ 0 < s.refcount) :
    ∃ block, layoutFor capacity = some block ∧
      s.release = ⟨.ok (.freed block), [.freed capacity]⟩ := by
  obtain ⟨block, hblock⟩ := Option.isSome_iff_exists.mp (isSome_layoutFor_of_capacityOf h)
  refine ⟨block, hblock, ?_⟩
  rw [release, h]
  show (if 0 < s.refcount then _ else _) = _
  rw [if_neg hr, hblock]
  rfl

end Str

end CountedStrings
