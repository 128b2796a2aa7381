import CountedStrings.Proofs.Rows
import CountedStrings.Proofs.Changes

/-!
# The entry points beside the library

The entry points for strings with a header do nothing by themselves: each stands for one call of
the library, or for none at an absent address, for an absent name, and for a negative size.  This
file runs a program of entry points beside the program of the library that it stands for.

## 1.  What an entry point stands for

`PointerCall.behind` and `CountedSource.behind` are the calls of the library behind the entry
points, with the conversions that their arguments go through.  An entry point does to a string what
the call behind it does (`runCounted_of_behind`), and makes what the source behind it makes
(`outcomeBehind_of_behind`).

## 2.  What is handed on

`Step.convey` is what becomes of a result of the library at the border: a value is passed on, and a
failure is a neutral value and a code.  `Program.callsBehind` is the program of the library behind
a program of entry points.

## 3.  Beside each other

`Beside` relates two processes that hold the same strings.  It says nothing about their slots: calls
of the library record nothing, so the code of a failure is in the slots of one of the two only.  Nor
does it tell a name that stands for an absent address from a name that is free, since a call that
stands for nothing makes an absent address in one of the two, and leaves the name free in the other.

A step has a call behind it (`step_beside_of_behind`) or none (`step_beside_of_idle`), and either
way the two processes stay beside each other, so they do along a run (`callsBehind_beside`).
`entry_points_refine_library` is the law.  The two runs may start in any process, since every
process is beside itself.
-/

namespace CountedStrings

/-! ## 1.  What an entry point stands for -/

/-- Only the low byte of a number counts: what remains of it modulo 256. -/
theorem ofInt_eq_mod (value : Int) : UInt8.ofInt value = UInt8.ofNat (value % 256).toNat := rfl

/-- On the way out a byte is the number from -128 to 127 that is the same modulo 256. -/
theorem signedByte_eq_bmod (byte : UInt8) : signedByte byte = (byte.toNat : Int).bmod 256 :=
  BitVec.toInt_eq_toNat_bmod byte.toBitVec

/-- What is made of an outcome can be made of what an entry point returns for it. -/
theorem Outcome.map_orRecord {α β : Type} (f : α → β) (x : Outcome α) (neutral : α) :
    f <$> x.orRecord neutral = (f <$> x).orRecord (f neutral) := by
  rw [Recorded.map_eq, Outcome.map_eq]
  cases hx : x.result with
  | ok a =>
    rw [orRecord_ok hx]
    rfl
  | error error =>
    rw [orRecord_error hx]
    rfl

namespace PointerCall

/-- The call of the library behind an entry point.  A row of accesses is more than one call. -/
def behind : PointerCall → Option StrCall
  | .setByte index value => some (.writeAt index (UInt8.ofNat (value % 256).toNat))
  | .getByte index => some (.readAt index)
  | .retain => some .retain
  | .release => some .release
  | .refcount => some .refcount
  | .fill _ _ | .scan _ _ => none

/-- What an entry point returns at an absent address, and if the call behind it fails. -/
def neutral : PointerCall → Reply
  | .getByte _ | .refcount => .number 0
  | .scan _ count => .signedBytes (List.replicate count 0)
  | .release => .released false
  | .setByte _ _ | .fill _ _ | .retain => .done

/-- What becomes of a reply of the library: a byte gets a sign. -/
def passOn : PointerCall → Reply → Reply
  | .getByte _, .number byte => .number (byte.bmod 256)
  | _, reply => reply

/-- Nothing happens at an absent address, and the neutral value is returned. -/
theorem runCounted_absent (c : PointerCall) : c.runCounted none = pure (none, c.neutral) := by
  cases c with
  | fill index bytes =>
    rw [runCounted, fillWith_none fun _ _ => rfl]
    rfl
  | scan index count =>
    rw [runCounted, scanWith_none (g := Counted.getByte none) fun _ => rfl]
    rfl
  | _ => rfl

/-- **What an entry point does to a string** is what the call behind it does. -/
theorem runCounted_of_behind {c : PointerCall} {c' : StrCall} (h : c.behind = some c') (s : Str) :
    c.runCounted (some s) =
      ((fun y => (y.1, c.passOn y.2)) <$> c'.run s).orRecord (some s, c.neutral) := by
  cases c with
  | setByte index value =>
    cases h
    rw [runCounted, StrCall.run, ← ofInt_eq_mod, Counted.setByte, bind_pure_comp, bind_pure_comp,
      Outcome.map_orRecord, Functor.map_map, Functor.map_map]
    rfl
  | getByte index =>
    cases h
    have hzero : signedByte 0 = 0 := by decide
    rw [runCounted, StrCall.run, Counted.getByte, bind_pure_comp, bind_pure_comp,
      Outcome.map_orRecord, hzero, Outcome.map_orRecord, Functor.map_map, Functor.map_map]
    simp only [passOn, neutral, signedByte_eq_bmod]
  | retain =>
    cases h
    rw [runCounted, StrCall.run, Counted.retain, bind_pure_comp, bind_pure_comp,
      Outcome.map_orRecord, Functor.map_map, Functor.map_map]
    rfl
  | release =>
    cases h
    -- a release does not fail, so what is returned for a failure does not matter
    obtain ⟨left, hleft, -⟩ := s.release_leaves
    rw [runCounted, StrCall.run, Counted.release, Outcome.map_eq, Outcome.bind_pure_eq,
      Outcome.map_eq, hleft]
    rw [Outcome.orRecord_ok rfl, Outcome.orRecord_ok rfl]
    show Recorded.andThen _ _ = _
    simp [Recorded.andThen, passOn]
  | refcount =>
    cases h
    rfl
  | fill index bytes => cases h
  | scan index count => cases h

/-- The two calls stay inside a string together. -/
theorem staysInside_of_behind {c : PointerCall} {c' : StrCall} (h : c.behind = some c') (s : Str) :
    c'.staysInside s = c.staysInside s.vouchesFor := by
  cases c <;> cases h <;> rfl

/-- The library does not refuse a call on a string that is there. -/
theorem reply_of_behind {c : PointerCall} {c' : StrCall} (h : c.behind = some c') {s : Str}
    {y : Option Str × Reply} (hy : (c'.run s).result = .ok y) (reason : Refusal) :
    y.2 ≠ .refused reason := by
  have hpure : ∀ {α : Type} {x : Outcome α} {f : α → Option Str × Reply},
      (x >>= fun a => pure (f a)).result = .ok y → ∃ a, f a = y := by
    intro α x f hx
    rw [Outcome.bind_pure_eq] at hx
    cases hr : x.result with
    | ok a =>
      rw [hr] at hx
      exact ⟨a, Except.ok.inj hx⟩
    | error error =>
      rw [hr] at hx
      cases hx
  cases c with
  | refcount =>
    cases h
    rw [← Except.ok.inj hy]
    nofun
  | fill | scan => cases h
  | _ =>
    cases h
    obtain ⟨a, rfl⟩ := hpure hy
    nofun

end PointerCall

namespace CountedSource

/-- The source of the library behind an entry point: none without a name, and none for a negative
size. -/
def behind : CountedSource → Option Source
  | .host bytes => some (.host bytes)
  | .zeros size => if size < 0 then none else some (.zeros size.toNat)
  | .variable name => name.map .variable
  | .argumentOf argv index => some (.argumentOf argv index)

/-- The failure that an entry point finds by itself. -/
def ownFailure? : CountedSource → Option StringError
  | .zeros size => if size < 0 then some (.negativeSize size) else none
  | _ => none

end CountedSource

namespace Program

variable {p q : Program}

/-- **What an entry point makes** is what the source behind it makes. -/
theorem outcomeBehind_of_behind {source : CountedSource} {source' : Source}
    (h : source.behind = some source') (p : Program) :
    p.outcomeBehind source = p.build source' := by
  cases source with
  | host bytes =>
    cases h
    rfl
  | zeros size =>
    rw [CountedSource.behind] at h
    split at h
    · cases h
    · next hsize =>
      cases h
      rw [outcomeBehind, Counted.allocateSigned, if_neg hsize]
      rfl
  | «variable» name =>
    cases name with
    | none => cases h
    | some name =>
      cases h
      rfl
  | argumentOf argv index =>
    cases h
    rfl

/-- An entry point that stands for nothing makes nothing, and tells of no block. -/
theorem outcomeBehind_of_idle {source : CountedSource} (h : source.behind = none) (p : Program) :
    ∃ events, (∀ e ∈ events, e.isOwnership = false) ∧
      (p.outcomeBehind source).orRecord none =
        ⟨none, source.ownFailure?.map StringError.code, events⟩ := by
  cases source with
  | zeros size =>
    rw [CountedSource.behind] at h
    split at h
    · next hsize =>
      refine ⟨[.negativeSize size], by simp [Event.isOwnership], ?_⟩
      rw [outcomeBehind, Counted.allocateSigned, if_pos hsize, CountedSource.ownFailure?,
        if_pos hsize]
      rfl
    · cases h
  | «variable» name =>
    cases name with
    | none => exact ⟨[], by simp, rfl⟩
    | some name => cases h
  | host | argumentOf => cases h

end Program

/-! ## 2.  What is handed on -/

namespace Step

/-- What an entry point returns if it stands for nothing, and if the call behind it fails. -/
def neutral : Step → Reply
  | .makeThrough _ _ => .made false
  | .callThrough _ _ c => c.neutral
  | _ => .done

/-- What becomes of a reply of the library. -/
def passOn : Step → Reply → Reply
  | .callThrough _ _ c, reply => c.passOn reply
  | _, reply => reply

/-- What becomes of a result of the library: the value is passed on, and a failure leaves the
neutral value and its code. -/
def convey (s : Step) : Except StringError Reply → Reply × Option ErrorCode
  | .ok reply => (s.passOn reply, none)
  | .error error => (s.neutral, some error.code)

/-- The failure that an entry point finds by itself. -/
def ownFailure? : Step → Option StringError
  | .makeThrough _ source => source.ownFailure?
  | _ => none

end Step

namespace Program

variable {p q : Program}

/-- The step of the library behind a step through the entry points. -/
def behind (p : Program) : Step → Option Step
  | .makeThrough name source => source.behind.map (.make name)
  | .callThrough .counted (some name) c =>
    match p.binding? name with
    | some (.counted _) => c.behind.map (.call name)
    | _ => none
  | _ => none

/-- The steps of the library behind a program of entry points, each on the thread that called. -/
def callsBehind (p : Program) : List (Nat × Step) → List (Nat × Step)
  | [] => []
  | (thread, s) :: rest =>
    ((p.behind s).map (thread, ·)).toList ++ callsBehind (p.step thread s).2 rest

/-- Whether a name stands for an absent address, or for a string that a call stays inside. -/
def reaches (p : Program) (name : Option String) (c : PointerCall) : Bool :=
  match p.pointee name with
  | some .null => true
  | some (.counted s) => c.staysInside s.vouchesFor
  | _ => false

/-- Whether a step is a single call through the entry points: it makes a string for a name that is
free, or it uses an absent address, or a string of which it touches nothing behind its end. -/
def isEntryCall (p : Program) : Step → Bool
  | .makeThrough name _ => p.isFree name
  | .callThrough .counted name c => c.behind.isSome && p.reaches name c
  | _ => false

/-! ## 3.  Beside each other -/

/-- What a name stands for, absent addresses aside. -/
def standing? (p : Program) (name : String) : Option Binding :=
  match p.binding? name with
  | some .null => none
  | b => b

theorem isFree_eq_standing (p : Program) (name : String) :
    p.isFree name = (p.standing? name).isNone := by
  rw [isFree, standing?]
  cases p.binding? name with
  | none => rfl
  | some b => cases b <;> rfl

theorem standing?_eq_counted {p : Program} {name : String} {s : Str} :
    p.standing? name = some (.counted s) ↔ p.binding? name = some (.counted s) := by
  rw [standing?]
  cases p.binding? name with
  | none => exact Iff.rfl
  | some b => cases b <;> simp

theorem standing?_of_cell_eq {name : String} (h : p.cell name = q.cell name) :
    p.standing? name = q.standing? name := by
  rw [standing?, standing?, ← binding_cell, ← binding_cell, h]

theorem standing?_bindNew (p : Program) (name : String) (s : Option Str) (name' : String) :
    (p.bindNew name s).standing? name' =
      if name = name' then s.map .counted else p.standing? name' := by
  by_cases h : name = name'
  · subst h
    rw [if_pos rfl]
    cases s with
    | none => rw [standing?, bindNew, Option.elim_none, binding?, bind, Table.get?_insert_self]; rfl
    | some s =>
      rw [standing?, bindNew, Option.elim_some, binding?, bindMade, Table.get?_insert_self]; rfl
  · rw [if_neg h]
    exact standing?_of_cell_eq ((p.rebinds_bindNew name s).cell_eq (h ∘ Option.some.inj))

theorem standing?_leave (p : Program) (name : String) (left : Option Str) (name' : String) :
    (p.leave name left).standing? name' =
      if name = name' then left.map .counted else p.standing? name' := by
  by_cases h : name = name'
  · subst h
    rw [if_pos rfl]
    cases left with
    | none => rw [standing?, leave, binding?, unbind, Table.get?_erase_self]; rfl
    | some s => rw [standing?, leave, binding?, bind, Table.get?_insert_self]; rfl
  · rw [if_neg h]
    exact standing?_of_cell_eq ((p.rebinds_leave name left).cell_eq (h ∘ Option.some.inj))

/-- Two processes that hold the same strings under the same names, and share nothing else but what
all threads share.  Their slots may differ. -/
structure Beside (p q : Program) : Prop where
  world_eq : p.world = q.world
  standing_eq : ∀ name, p.standing? name = q.standing? name

theorem Beside.refl (p : Program) : Beside p p := ⟨rfl, fun _ => rfl⟩

theorem Beside.binding?_iff (h : Beside p q) {name : String} {s : Str} :
    p.binding? name = some (.counted s) ↔ q.binding? name = some (.counted s) := by
  rw [← standing?_eq_counted, ← standing?_eq_counted, h.standing_eq]

theorem Beside.isFree_eq (h : Beside p q) (name : String) : p.isFree name = q.isFree name := by
  rw [isFree_eq_standing, isFree_eq_standing, h.standing_eq]

theorem Beside.absorb (h : Beside p q) (thread : Nat) (code : Option ErrorCode) :
    Beside (p.absorb thread code) q :=
  ⟨h.world_eq, h.standing_eq⟩

theorem Beside.bindNew (h : Beside p q) (name : String) (s : Option Str) :
    Beside (p.bindNew name s) (q.bindNew name s) := by
  refine ⟨?_, fun name' => ?_⟩
  · rw [(p.rebinds_bindNew name s).world_eq, (q.rebinds_bindNew name s).world_eq, h.world_eq]
  · rw [standing?_bindNew, standing?_bindNew, h.standing_eq]

theorem Beside.leave (h : Beside p q) (name : String) (left : Option Str) :
    Beside (p.leave name left) (q.leave name left) := by
  refine ⟨?_, fun name' => ?_⟩
  · rw [(p.rebinds_leave name left).world_eq, (q.rebinds_leave name left).world_eq, h.world_eq]
  · rw [standing?_leave, standing?_leave, h.standing_eq]

/-- An absent address under a name that was free is no more than an unbound name. -/
theorem Beside.bindNew_none (h : Beside p q) {name : String} (hfree : p.isFree name = true) :
    Beside (p.bindNew name none) q := by
  refine ⟨?_, fun name' => ?_⟩
  · rw [(p.rebinds_bindNew name none).world_eq, h.world_eq]
  · rw [standing?_bindNew, ← h.standing_eq]
    split
    · next heq =>
      rw [isFree_eq_standing, Option.isNone_iff_eq_none] at hfree
      rw [← heq, hfree]
      rfl
    · rfl

theorem Beside.build_eq (h : Beside p q) (source : Source) : p.build source = q.build source := by
  have hallocator : p.allocator = q.allocator := congrArg World.allocator h.world_eq
  have henvironment : p.environment = q.environment := congrArg World.environment h.world_eq
  have harguments : p.arguments = q.arguments := congrArg World.arguments h.world_eq
  cases source <;> simp only [build, hallocator, henvironment, harguments]

/-- One call of the entry points beside the call of the library that it stands for. -/
structure Conveys (p q : Program) (thread : Nat) (s s' : Step) : Prop where
  /-- The library takes the call. -/
  accepted : ∀ reason, (q.step thread s').1.result ≠ .ok (.refused reason)
  /-- What is returned is what becomes of the result of the library. -/
  result_eq : (p.step thread s).1.result = .ok (s.convey (q.step thread s').1.result).1
  /-- The slot of the thread gets the code of the failure of the library, if there is one. -/
  slots_eq :
    (p.step thread s).2.slots = p.slots.absorb thread (s.convey (q.step thread s').1.result).2
  /-- Both report the same. -/
  events_eq : (p.step thread s).1.events = (q.step thread s').1.events

/-- An entry point that stands for nothing. -/
structure Idles (p : Program) (thread : Nat) (s : Step) : Prop where
  /-- The neutral value is returned. -/
  result_eq : (p.step thread s).1.result = .ok s.neutral
  /-- The slot of the thread gets the code of a failure that the entry point found by itself. -/
  slots_eq :
    (p.step thread s).2.slots = p.slots.absorb thread (s.ownFailure?.map StringError.code)
  /-- Nothing is reported about blocks and owners. -/
  quiet : ∀ e ∈ (p.step thread s).1.events, e.isOwnership = false

/-- A call that the library takes, seen from both sides. -/
theorem beside_of_effects {thread : Nat} {s s' : Step} (p' : Program) {q' : Program}
    {result : Except StringError Reply} {events : List Event}
    (hp : p.effect thread s =
      ⟨.ok (s.convey result).1, p'.absorb thread (s.convey result).2, events⟩)
    (hslots : p'.slots = p.slots) (hq : q.effect thread s' = ⟨result, q', events⟩)
    (haccepted : ∀ reason, result ≠ .ok (.refused reason)) (h : Beside p' q') :
    Conveys p q thread s s' ∧ Beside (p.step thread s).2 (q.step thread s').2 := by
  have hresult : (q.step thread s').1.result = result := congrArg Effect.result hq
  have hafter : (p.step thread s).2 = p'.absorb thread (s.convey result).2 :=
    congrArg Effect.after hp
  have hafter' : (q.step thread s').2 = q' := congrArg Effect.after hq
  refine ⟨⟨?_, ?_, ?_, ?_⟩, ?_⟩
  · rw [hresult]
    exact haccepted
  · rw [hresult]
    exact congrArg Effect.result hp
  · rw [hresult, hafter, ← hslots]
    rfl
  · exact (congrArg Effect.events hp).trans (congrArg Effect.events hq).symm
  · rw [hafter, hafter']
    exact h.absorb thread _

/-- A string is made through an entry point as the library makes it. -/
theorem makeThrough_beside (h : Beside p q) (thread : Nat) {name : String}
    {source : CountedSource} {source' : Source} (hfree : p.isFree name = true)
    (hb : source.behind = some source') :
    Conveys p q thread (.makeThrough name source) (.make name source') ∧
      Beside (p.step thread (.makeThrough name source)).2
        (q.step thread (.make name source')).2 := by
  have hbehind := (outcomeBehind_of_behind hb p).trans (h.build_eq source')
  have hfree' : q.isFree name = true := (h.isFree_eq name).symm.trans hfree
  cases hx : (q.build source').result with
  | ok made =>
    have hq : q.effect thread (.make name source') =
        ⟨.ok (.made made.isSome), q.bindNew name made, (q.build source').events⟩ := by
      simp only [effect, make, hfree', if_true, hx]
    refine beside_of_effects (p.bindNew name made) ?_ (p.rebinds_bindNew name made).slots_eq hq
      (by simp) (h.bindNew name made)
    rw [effect, makeThrough, if_pos hfree, buildThrough_eq, hbehind, Outcome.orRecord_ok hx]
    rfl
  | error error =>
    have hq : q.effect thread (.make name source') =
        ⟨.error error, q.bindNew name none, (q.build source').events⟩ := by
      simp only [effect, make, hfree', if_true, hx]
    refine beside_of_effects (p.bindNew name none) ?_ (p.rebinds_bindNew name none).slots_eq hq
      (by simp) (h.bindNew name none)
    rw [effect, makeThrough, if_pos hfree, buildThrough_eq, hbehind, Outcome.orRecord_error hx]
    rfl

/-- A string is used through an entry point as the library uses it. -/
theorem callThrough_beside (h : Beside p q) (thread : Nat) {name : String} {s : Str}
    {c : PointerCall} {c' : StrCall} (hs : p.binding? name = some (.counted s))
    (hinside : c.staysInside s.vouchesFor = true) (hb : c.behind = some c') :
    Conveys p q thread (.callThrough .counted (some name) c) (.call name c') ∧
      Beside (p.step thread (.callThrough .counted (some name) c)).2
        (q.step thread (.call name c')).2 := by
  have hs' := h.binding?_iff.mp hs
  have hinside' := (PointerCall.staysInside_of_behind hb s).trans hinside
  cases hx : (c'.run s).result with
  | ok y =>
    refine beside_of_effects (p.leave name y.1) ?_ (p.rebinds_leave name y.1).slots_eq
      (call_of_ok hs' hinside' hx) (fun reason hr => ?_) (h.leave name y.1)
    · rw [effect, callCounted_of_counted thread hs hinside, PointerCall.runCounted_of_behind hb,
        Outcome.map_eq, hx, Outcome.orRecord_ok rfl]
      rfl
    · exact PointerCall.reply_of_behind hb hx reason (Except.ok.inj hr)
  | error error =>
    refine beside_of_effects p ?_ rfl (call_of_error hs' hinside' hx) (by simp) h
    -- the string is put back as it was
    have hback : p.leave name (some s) = p := bind_of_binding? hs
    rw [effect, callCounted_of_counted thread hs hinside, PointerCall.runCounted_of_behind hb,
      Outcome.map_eq, hx, Outcome.orRecord_error rfl, hback]
    rfl

/-- **A step with a call behind it.** -/
theorem step_beside_of_behind (h : Beside p q) (thread : Nat) {s s' : Step}
    (hs : p.isEntryCall s = true) (hb : p.behind s = some s') :
    Conveys p q thread s s' ∧ Beside (p.step thread s).2 (q.step thread s').2 := by
  cases s with
  | makeThrough name source =>
    obtain ⟨source', hsource, rfl⟩ := Option.map_eq_some_iff.mp hb
    exact makeThrough_beside h thread hs hsource
  | callThrough interface name c =>
    cases interface with
    | plain => cases hs
    | counted =>
      cases name with
      | none => cases hb
      | some name =>
        rw [behind] at hb
        split at hb
        · next str hstr =>
          obtain ⟨c', hc, rfl⟩ := Option.map_eq_some_iff.mp hb
          rw [isEntryCall, reaches, pointee, hstr, Bool.and_eq_true] at hs
          exact callThrough_beside h thread hstr hs.2 hc
        · cases hb
  | _ => cases hs

/-- **A step with no call behind it.** -/
theorem step_beside_of_idle (h : Beside p q) (thread : Nat) {s : Step}
    (hs : p.isEntryCall s = true) (hb : p.behind s = none) :
    Idles p thread s ∧ Beside (p.step thread s).2 q := by
  cases s with
  | makeThrough name source =>
    have hfree : p.isFree name = true := hs
    obtain ⟨events, hquiet, hx⟩ := outcomeBehind_of_idle (Option.map_eq_none_iff.mp hb) p
    have hp : p.effect thread (.makeThrough name source) =
        ⟨.ok (.made false), (p.bindNew name none).absorb thread
          (source.ownFailure?.map StringError.code), events⟩ := by
      rw [effect, makeThrough, if_pos hfree, buildThrough_eq, hx]
      rfl
    have hafter : (p.step thread (.makeThrough name source)).2 =
        (p.bindNew name none).absorb thread (source.ownFailure?.map StringError.code) :=
      congrArg Effect.after hp
    refine ⟨⟨congrArg Effect.result hp, ?_, ?_⟩, ?_⟩
    · rw [hafter, absorb, (p.rebinds_bindNew name none).slots_eq]
      rfl
    · show ∀ e ∈ (p.effect thread _).events, _
      rw [hp]
      exact hquiet
    · rw [hafter]
      exact (h.bindNew_none hfree).absorb thread _
  | callThrough interface name c =>
    cases interface with
    | plain => cases hs
    | counted =>
      obtain ⟨hc, hreach⟩ := Bool.and_eq_true_iff.mp hs
      rw [reaches] at hreach
      split at hreach
      · next hnull =>
        have hp : p.effect thread (.callThrough .counted name c) =
            ⟨.ok c.neutral, p.absorb thread none, []⟩ := by
          simp only [effect, callCounted, hnull, PointerCall.runCounted_absent]
          rfl
        have hafter : (p.step thread (.callThrough .counted name c)).2 = p :=
          congrArg Effect.after hp
        refine ⟨⟨congrArg Effect.result hp, congrArg slots hafter, ?_⟩, ?_⟩
        · show ∀ e ∈ (p.effect thread _).events, _
          rw [hp]
          simp
        · rw [hafter]
          exact h
      · next str hstr =>
        -- a string that is there has the call behind it made on it
        cases name with
        | none => cases hstr
        | some name =>
          rw [pointee] at hstr
          rw [behind, hstr, Option.map_eq_none_iff] at hb
          rw [hb] at hc
          cases hc
      · cases hreach
  | _ => cases hs

/-- A step and the step of the library behind it are about the same name. -/
theorem subject_of_behind {s s' : Step} (h : p.behind s = some s') : s'.subject = s.subject := by
  cases s with
  | makeThrough name source =>
    obtain ⟨source', -, rfl⟩ := Option.map_eq_some_iff.mp h
    rfl
  | callThrough interface name c =>
    cases interface with
    | plain => cases h
    | counted =>
      cases name with
      | none => cases h
      | some name =>
        rw [behind] at h
        split at h
        · obtain ⟨c', -, rfl⟩ := Option.map_eq_some_iff.mp h
          rfl
        · cases h
  | _ => cases h

/-- A call of the library is made behind a step that stands for one. -/
theorem callsBehind_cons_of_some {thread : Nat} {s s' : Step} (h : p.behind s = some s')
    (rest : List (Nat × Step)) :
    p.callsBehind ((thread, s) :: rest) =
      (thread, s') :: (p.step thread s).2.callsBehind rest := by
  rw [callsBehind, h]
  rfl

/-- Nothing is done behind a step that stands for nothing. -/
theorem callsBehind_cons_of_none {thread : Nat} {s : Step} (h : p.behind s = none)
    (rest : List (Nat × Step)) :
    p.callsBehind ((thread, s) :: rest) = (p.step thread s).2.callsBehind rest := by
  rw [callsBehind, h]
  rfl

/-- The program behind goes on where the program in front of it does. -/
theorem callsBehind_append (p : Program) (first second : List (Nat × Step)) :
    p.callsBehind (first ++ second) =
      p.callsBehind first ++ (p.after first).callsBehind second := by
  induction first generalizing p with
  | nil => rfl
  | cons x rest ih =>
    rw [List.cons_append, callsBehind, callsBehind, ih, List.append_assoc]
    rfl

/-- What was reported about the block and the owners of the string under a name. -/
def ownershipOf (name : String) (history : List Taken) : List Event :=
  (Taken.eventsOn name history).filter Event.isOwnership

theorem ownershipOf_singleton (name : String) (x : Taken) :
    ownershipOf name [x] =
      if x.isAbout name then x.answer.events.filter Event.isOwnership else [] := by
  rw [ownershipOf, Taken.eventsOn]
  by_cases h : x.isAbout name = true <;> simp [h]

theorem ownershipOf_cons (name : String) (x : Taken) (rest : List Taken) :
    ownershipOf name (x :: rest) = ownershipOf name [x] ++ ownershipOf name rest := by
  rw [ownershipOf, ← List.singleton_append, Taken.eventsOn_append, List.filter_append]
  rfl

/-- **Both programs run beside each other**, and report the same about each name. -/
theorem callsBehind_beside (h : Beside p q) {steps : List (Nat × Step)}
    (hsteps : p.Along (fun r _ s => r.isEntryCall s = true) steps) :
    Beside (p.after steps) (q.after (p.callsBehind steps)) ∧
      ∀ name, ownershipOf name (p.history steps) =
        ownershipOf name (q.history (p.callsBehind steps)) := by
  induction steps generalizing p q with
  | nil => exact ⟨h, fun _ => rfl⟩
  | cons x rest ih =>
    obtain ⟨thread, s⟩ := x
    obtain ⟨hs, hrest⟩ := hsteps
    cases hb : p.behind s with
    | none =>
      obtain ⟨hidles, hstep⟩ := step_beside_of_idle h thread hs hb
      obtain ⟨hafter, hreported⟩ := ih hstep hrest
      rw [callsBehind_cons_of_none hb]
      refine ⟨hafter, fun name => ?_⟩
      have hnothing : ownershipOf name [⟨thread, s, (p.step thread s).1⟩] = [] := by
        rw [ownershipOf_singleton, List.filter_eq_nil_iff.mpr (by simpa using hidles.quiet)]
        exact ite_self _
      rw [history, ownershipOf_cons, hnothing, hreported]
      rfl
    | some s' =>
      obtain ⟨hconveys, hstep⟩ := step_beside_of_behind h thread hs hb
      obtain ⟨hafter, hreported⟩ := ih hstep hrest
      rw [callsBehind_cons_of_some hb]
      refine ⟨hafter, fun name => ?_⟩
      have hsame : ownershipOf name [⟨thread, s, (p.step thread s).1⟩] =
          ownershipOf name [⟨thread, s', (q.step thread s').1⟩] := by
        rw [ownershipOf_singleton, ownershipOf_singleton, hconveys.events_eq, Taken.isAbout,
          Taken.isAbout, subject_of_behind hb]
      rw [history, history, ownershipOf_cons, ownershipOf_cons name ⟨thread, s', _⟩, hsame,
        hreported]

/-- **The entry points refine the library.**  Let any threads make any single calls through the
entry points, each of which makes a string for a name that is free, or uses an absent address, or a
string that is there and touches nothing behind its end.  Run the calls of the library that they
stand for from the same start: none for an absent address, for an absent name and for a negative
size, and one for every other call.

* After every part of the run, the same names stand for strings in both runs, with the same words
  and the same bytes, and the same has been reported about each of them: its allocation, its owners
  and its end.
* A call that stands for a call of the library returns its value, a byte as a number from -128 to
  127; or, if that call fails, the neutral value, with the code of the failure in the slot of its
  thread.  The library never refuses the call, and both report the same.
* A call that stands for nothing returns the neutral value.  It leaves the slots as they are, but
  for a negative size, whose code is in the slot. -/
theorem entry_points_refine_library {steps : List (Nat × Step)}
    (h : p.Along (fun q _ s => q.isEntryCall s = true) steps) :
    (∀ before rest, steps = before ++ rest →
      (∀ name s, (p.after before).binding? name = some (.counted s) ↔
        (p.after (p.callsBehind before)).binding? name = some (.counted s)) ∧
      ∀ name, ownershipOf name (p.history before) =
        ownershipOf name (p.history (p.callsBehind before))) ∧
    ∀ before thread s rest, steps = before ++ (thread, s) :: rest →
      (∀ s', (p.after before).behind s = some s' →
        p.callsBehind (before ++ [(thread, s)]) = p.callsBehind before ++ [(thread, s')] ∧
        Conveys (p.after before) (p.after (p.callsBehind before)) thread s s') ∧
      ((p.after before).behind s = none →
        p.callsBehind (before ++ [(thread, s)]) = p.callsBehind before ∧
        Idles (p.after before) thread s) := by
  refine ⟨?_, ?_⟩
  · rintro before rest rfl
    obtain ⟨hbeside, hreported⟩ := callsBehind_beside (Beside.refl p) (along_append.mp h).1
    exact ⟨fun name s => hbeside.binding?_iff, hreported⟩
  · rintro before thread s rest rfl
    obtain ⟨hbefore, hs, -⟩ := along_append.mp h
    have hbeside := (callsBehind_beside (Beside.refl p) hbefore).1
    refine ⟨fun s' hb => ⟨?_, (step_beside_of_behind hbeside thread hs hb).1⟩,
      fun hb => ⟨?_, (step_beside_of_idle hbeside thread hs hb).1⟩⟩
    · rw [callsBehind_append, callsBehind_cons_of_some hb, callsBehind]
    · rw [callsBehind_append, callsBehind_cons_of_none hb, callsBehind, List.append_nil]

/-- One thread asks for a negative size and writes out of bounds.  Another one makes a string, puts
-1 in front and 256, which is a zero, at the end, adds an owner, reads, and takes an owner away. -/
theorem library_behind_two_threads :
    let p : Program := start (.filledWith 7 64) ⟨∅⟩ [] .silent true
    let use (c : PointerCall) : Step := .callThrough .counted (some "abc") c
    let steps : List (Nat × Step) :=
      [(0, .makeThrough "none" (.zeros (-3))), (1, .makeThrough "abc" (.zeros 2)),
        (1, use (.setByte 0 (-1))), (1, use (.setByte 2 256)), (0, use (.setByte 2 1)),
        (1, use .retain), (1, .callThrough .counted none (.getByte 7)), (1, use (.getByte 0)),
        (1, use .release)]
    p.Along (fun q _ s => q.isEntryCall s = true) steps ∧
      p.callsBehind steps =
        [(1, .make "abc" (.zeros 2)), (1, .call "abc" (.writeAt 0 255)),
          (1, .call "abc" (.writeAt 2 0)), (0, .call "abc" (.writeAt 2 1)),
          (1, .call "abc" .retain), (1, .call "abc" (.readAt 0)), (1, .call "abc" .release)] ∧
      (p.after (p.callsBehind steps)).binding? "abc" =
        some (.counted ⟨0, ownedInfo 2, #[255, 0, 0]⟩) ∧
      ownershipOf "abc" (p.history (p.callsBehind steps)) =
        [.allocated 2, .retained 1, .referenceReleased 0] := by
  intro p use steps
  have hsteps : p.Along (fun q _ s => q.isEntryCall s = true) steps := by decide
  obtain ⟨hstrings, hreported⟩ :=
    (entry_points_refine_library hsteps).1 steps [] (List.append_nil _).symm
  refine ⟨hsteps, ?_, (hstrings "abc" _).mp (by decide), ?_⟩
  · subst steps use p
    rfl
  · rw [← hreported]
    decide

end Program

end CountedStrings
