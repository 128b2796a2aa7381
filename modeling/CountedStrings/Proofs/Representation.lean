import CountedStrings.Proofs.Doors

/-!
# Strings of the library keep their form

A string of the library is made with a capacity.  From then on its info word holds that capacity, it
has one byte more, and its last byte is zero.  Whoever reads a string up to its first zero byte
relies on that.  This file proves it for every string of the library in every state that a run can
reach.

## 1.  The form

`Str.Intact s capacity`, with what follows from it for a single string: what is visible fits into
the capacity (`Intact.length_le`), no access needs a promise of the caller (`Intact.vouchesFor`),
and an access that is not turned away is inside (`Intact.mem_range_of_readAt`,
`Intact.mem_range_of_writeAt`).

## 2.  What a run says about a name

The log of a run is enough to tell the capacity with which a string was made (`Taken.capacityMade`),
which steps were taken with it (`Taken.sinceMade`), and which of its bytes they got at
(`Taken.Reaches`).

## 3.  The invariant

`Life.intact` and `Life.count_nonneg`: what every life of a string keeps.
`Taken.Reaches.mem_range`: what every access has to respect.  `Cell.Agrees` puts the two together
for one name and the run so far, `Turn.agrees` is its preservation by a step, and
`strings_stay_intact` what it says about runs.

The only steps that are left out write into a string of the library without regard to its header
(`Program.WritesApart`).  Of the count something is said only as long as no owner came at the limit
of the count word (`Taken.RetainsAtLimit`), and `count_negative_after_many_retains` is a run that
shows why.
-/

namespace CountedStrings

/-! ## 1.  The form -/

namespace Str

/-- The form of a string of the library. -/
structure Intact (s : Str) (capacity : Nat) : Prop where
  capacity_le : capacity ≤ maxCapacity
  info_eq : s.info = ownedInfo capacity
  size_eq : s.storage.size = capacity + 1
  last_eq : s.storage[capacity]? = some 0

namespace Intact

variable {s : Str} {capacity : Nat}

theorem ownedCapacity_eq (h : s.Intact capacity) : s.ownedCapacity = some capacity := by
  rw [ownedCapacity, h.info_eq]
  exact capacityOf_ownedInfo h.capacity_le

theorem toNat_info (h : s.Intact capacity) : s.info.toNat = 2147483648 + capacity := by
  rw [h.info_eq]
  exact toNat_ownedInfo h.capacity_le

theorem readBound_eq (h : s.Intact capacity) : s.readBound = capacity + 1 := by
  rw [readBound, h.ownedCapacity_eq]

theorem writeBound_eq (h : s.Intact capacity) (value : UInt8) :
    s.writeBound value = if value = 0 then capacity + 1 else capacity := by
  rw [writeBound, h.ownedCapacity_eq]

theorem writeBound_le (h : s.Intact capacity) (value : UInt8) :
    s.writeBound value ≤ capacity + 1 := by
  rw [h.writeBound_eq]
  split <;> omega

theorem withRefcount (h : s.Intact capacity) (n : Int32) :
    (s.withRefcount n).Intact capacity :=
  ⟨h.capacity_le, h.info_eq, h.size_eq, h.last_eq⟩

/-- Writing inside the bound keeps the form: at the last byte only a zero is inside the bound. -/
theorem write (h : s.Intact capacity) {i : Nat} {value : UInt8} (hi : i < s.writeBound value) :
    (s.withStorage (Buffer.store s.storage i value)).Intact capacity := by
  refine ⟨h.capacity_le, h.info_eq, ?_, ?_⟩
  · rw [storage_withStorage, Buffer.size_store]
    exact h.size_eq
  · rw [storage_withStorage, Buffer.store, Array.getElem?_setIfInBounds]
    rw [h.writeBound_eq] at hi
    have hsize := h.size_eq
    by_cases heq : i = capacity
    · have hzero : value = 0 := by
        refine Decidable.byContradiction fun hne => ?_
        rw [if_neg hne] at hi
        omega
      rw [if_pos heq, if_pos (by omega), hzero]
    · rw [if_neg heq]
      exact h.last_eq

end Intact

/-- A new string has its form. -/
theorem intact_ofPayload {payload : Array UInt8} (h : payload.size ≤ maxCapacity) :
    (ofPayload payload).Intact payload.size :=
  ⟨h, rfl, Array.size_push .., Array.getElem?_push_size⟩

end Str

/-- A zero byte is not looked beyond. -/
theorem Bytes.length_upToZero_le {bytes : Bytes} {n : Nat} (h : bytes[n]? = some 0) :
    bytes.upToZero.length ≤ n := by
  induction bytes generalizing n with
  | nil => simp at h
  | cons b rest ih =>
    by_cases hb : b = 0
    · simp [upToZero, hb]
    · cases n with
      | zero => exact absurd (Option.some.inj h) hb
      | succ n =>
        have hrest := ih (n := n) (by simpa using h)
        simp only [upToZero] at hrest ⊢
        rw [List.takeWhile_cons_of_pos (by simpa using hb), List.length_cons]
        omega

/-- The visible bytes of a string of the library fit into its capacity. -/
theorem Str.Intact.length_le {s : Str} {capacity : Nat} (h : s.Intact capacity) :
    s.length ≤ capacity := by
  refine Bytes.length_upToZero_le ?_
  rw [Array.getElem?_toList]
  exact h.last_eq

/-! ### Access -/

namespace Str

variable {s : Str} {capacity : Nat}

/-- No access to a string of the library needs a promise of its caller: its index is inside the
bytes, or beyond the capacity and turned away. -/
theorem Intact.vouchesFor (h : s.Intact capacity) (index : Int) : s.vouchesFor index = true := by
  rw [Str.vouchesFor, Buffer.vouchesFor, h.size_eq, h.ownedCapacity_eq, h.readBound_eq]
  simp only [Option.any_some, Bool.or_eq_true, decide_eq_true_eq]
  omega

theorem Intact.staysInside (h : s.Intact capacity) (c : StrCall) : c.staysInside s = true := by
  cases c <;> first | rfl | exact h.vouchesFor _

theorem Intact.staysInsideCounted (h : s.Intact capacity) (c : PointerCall) :
    c.staysInside s.vouchesFor = true := by
  cases c <;> simp [PointerCall.staysInside, h.vouchesFor]

/-- A byte that is read is inside the capacity, or the zero byte behind it. -/
theorem Intact.mem_range_of_readAt (h : s.Intact capacity) {index : Int}
    (hx : ∀ bound, .indexOutOfBounds index bound ∉ (s.readAt index).events) :
    0 ≤ index ∧ index ≤ capacity := by
  rw [readAt_eq] at hx
  split at hx
  · rw [h.readBound_eq] at *
    omega
  · exact absurd (List.mem_singleton.mpr rfl) (hx s.readBound)

theorem Intact.mem_range_of_writeAt (h : s.Intact capacity) {index : Int} {value : UInt8}
    (hx : ∀ bound, .indexOutOfBounds index bound ∉ (s.writeAt index value).events) :
    0 ≤ index ∧ index ≤ capacity := by
  have hbound := h.writeBound_le value
  rw [writeAt_eq] at hx
  split at hx
  · omega
  · exact absurd (List.mem_singleton.mpr rfl) (hx (s.writeBound value))

end Str

/-! ## 2.  What a run says about a name -/

namespace Event

/-- Whether an event tells of a new string. -/
def isAllocated : Event → Bool
  | .allocated _ => true
  | _ => false

/-- The capacity of the string that a name stands for, after an event about the name. -/
def track : Option Nat → Event → Option Nat
  | _, .allocated capacity => some capacity
  | _, .freed _ => none
  | known, _ => known

theorem isAllocated_of_isBlock {event : Event} (h : event.isBlock = false) :
    event.isAllocated = false := by
  cases event <;> simp_all only [isBlock, isAllocated]

/-- As long as no block comes or goes, the capacity stays. -/
theorem foldl_track {events : List Event} (h : ∀ e ∈ events, e.isBlock = false)
    (known : Option Nat) : events.foldl track known = known := by
  induction events with
  | nil => rfl
  | cons event rest ih =>
    have hevent : track known event = known := by
      have hb := h event List.mem_cons_self
      cases event <;> first | rfl | cases hb
    rw [List.foldl_cons, hevent]
    exact ih fun e he => h e (List.mem_cons_of_mem _ he)

end Event

/-- Whether a step asks for the byte of a string at an index. -/
def StrCall.AsksFor (i : Int) : StrCall → Prop
  | .byteAt index | .setByteAt index _ => i = clampIndex index
  | .readAt index | .writeAt index _ => i = index
  | _ => False

@[inherit_doc StrCall.AsksFor]
def PointerCall.AsksFor (i : Int) : PointerCall → Prop
  | .setByte index _ | .getByte index => i = index
  | .fill index bytes => index ≤ i ∧ i < index + bytes.length
  | .scan index count => index ≤ i ∧ i < index + count
  | .retain | .release | .refcount => False

@[inherit_doc StrCall.AsksFor]
def Step.AsksFor (i : Int) : Step → Prop
  | .call _ c => c.AsksFor i
  | .callThrough .counted _ c => c.AsksFor i
  | _ => False

/-- Whether a step overwrites a count word. -/
def Step.pokes : Step → Bool
  | .poke _ _ => true
  | _ => false

namespace Taken

/-- Whether a step got at the byte of a string at an index: it asked for it, and was not turned
away. -/
def Reaches (x : Taken) (i : Int) : Prop :=
  x.step.AsksFor i ∧ ∀ bound, .indexOutOfBounds i bound ∉ x.answer.events

/-- The capacity with which the string was made that a name stands for, if the library made it. -/
def capacityMade (name : String) (history : List Taken) : Option Nat :=
  (eventsOn name history).foldl Event.track none

/-- The steps about a name since a string was made under it, latest first. -/
def sinceMade (name : String) (history : List Taken) : List Taken :=
  (history.filter (·.isAbout name)).reverse.takeWhile fun x =>
    !x.answer.events.any Event.isAllocated

/-- A step about something else says nothing about a name. -/
theorem capacityMade_concat_of_not {name : String} {x : Taken} (h : x.isAbout name = false)
    (history : List Taken) : capacityMade name (history ++ [x]) = capacityMade name history := by
  rw [capacityMade, eventsOn_concat_of_not h, capacityMade]

theorem sinceMade_concat_of_not {name : String} {x : Taken} (h : x.isAbout name = false)
    (history : List Taken) : sinceMade name (history ++ [x]) = sinceMade name history := by
  simp [sinceMade, h]

theorem capacityMade_concat {name : String} {x : Taken} (h : x.isAbout name = true)
    (history : List Taken) :
    capacityMade name (history ++ [x]) =
      x.answer.events.foldl Event.track (capacityMade name history) := by
  rw [capacityMade, eventsOn_concat h, List.foldl_append, capacityMade]

/-- The steps since a string was made begin anew with every new string. -/
theorem sinceMade_concat {name : String} {x : Taken} (h : x.isAbout name = true)
    (history : List Taken) :
    sinceMade name (history ++ [x]) =
      if x.answer.events.any Event.isAllocated = true then [] else x :: sinceMade name history := by
  have hx : [x].filter (·.isAbout name) = [x] := by simp [h]
  rw [sinceMade, List.filter_append, hx, List.reverse_append, List.reverse_singleton,
    List.singleton_append]
  split
  · next hnew => rw [List.takeWhile_cons_of_neg (by simp [hnew])]
  · next hold => rw [List.takeWhile_cons_of_pos (by simpa using hold), sinceMade]

end Taken

/-! ## 3.  The invariant -/

namespace Str

/-- **A string keeps its form** as long as it lives. -/
theorem Life.intact {s t : Str} {es : List Event} (h : Life s es t) {capacity : Nat}
    (hs : s.Intact capacity) : t.Intact capacity := by
  refine h.keeps (P := fun u => u.Intact capacity) ?_ hs
  intro u v es ha hu
  cases ha with
  | retain => exact hu.withRefcount _
  | release => exact hu.withRefcount _
  | write hi => exact hu.write hi
  | refuse => exact hu

/-- **The count of a string stays at zero or above**, as long as there is room for every owner. -/
theorem Life.count_nonneg {s t : Str} {es : List Event} (h : Life s es t)
    (hroom : .retained (-2147483648) ∉ es) (hs : 0 ≤ s.refcount.toInt) : 0 ≤ t.refcount.toInt := by
  induction h with
  | rest => exact hs
  | @act u _ _ _ _ ha ih =>
    rw [List.mem_append, not_or] at hroom
    have hu := ih hroom.1
    cases ha with
    | retain =>
      have hne : u.refcount ≠ maxCount := by
        intro heq
        refine hroom.2 ?_
        rw [heq]
        exact List.mem_singleton.mpr rfl
      rw [refcount_withRefcount, toInt_add_one hne]
      omega
    | release _ hr =>
      rw [refcount_withRefcount, toInt_sub_one hr]
      have hpos := pos_iff_toInt_pos.mp hr
      omega
    | write => exact hu
    | refuse => exact hu

end Str

/-! ### Access in a run -/

section Access

variable {s : Str} {capacity : Nat}

/-- A call of the library gets at bytes of the string only. -/
theorem StrCall.mem_range (h : s.Intact capacity) {c : StrCall} {i : Int} (hi : c.AsksFor i)
    (hx : ∀ bound, .indexOutOfBounds i bound ∉ (c.run s).events) : 0 ≤ i ∧ i ≤ capacity := by
  cases c with
  | byteAt index =>
    obtain rfl : i = clampIndex index := hi
    rw [run, Outcome.bind_pure_eq] at hx
    exact h.mem_range_of_readAt hx
  | setByteAt index value =>
    obtain rfl : i = clampIndex index := hi
    rw [run, Outcome.bind_pure_eq] at hx
    exact h.mem_range_of_writeAt hx
  | readAt index =>
    obtain rfl : i = index := hi
    rw [run, Outcome.bind_pure_eq] at hx
    exact h.mem_range_of_readAt hx
  | writeAt index value =>
    obtain rfl : i = index := hi
    rw [run, Outcome.bind_pure_eq] at hx
    exact h.mem_range_of_writeAt hx
  | _ => exact hi.elim

theorem Counted.mem_range_of_setByte (h : s.Intact capacity) {index value : Int}
    (hx : ∀ bound, .indexOutOfBounds index bound ∉ (setByte (some s) index value).events) :
    0 ≤ index ∧ index ≤ capacity := by
  rw [setByte, Outcome.events_orRecord, Outcome.events_map] at hx
  exact h.mem_range_of_writeAt hx

theorem Counted.mem_range_of_getByte (h : s.Intact capacity) {index : Int}
    (hx : ∀ bound, .indexOutOfBounds index bound ∉ (getByte (some s) index).events) :
    0 ≤ index ∧ index ≤ capacity := by
  rw [getByte, Recorded.map_eq, Outcome.events_orRecord] at hx
  exact h.mem_range_of_readAt hx

theorem Counted.mem_range_of_fillWith (h : s.Intact capacity) {index i : Int} {bytes : Bytes}
    (hi : index ≤ i ∧ i < index + bytes.length)
    (hx : ∀ bound, .indexOutOfBounds i bound ∉ (fillWith setByte (some s) index bytes).events) :
    0 ≤ i ∧ i ≤ capacity := by
  induction bytes generalizing s index with
  | nil =>
    rw [List.length_nil] at hi
    omega
  | cons byte rest ih =>
    obtain ⟨t, ht, hlife⟩ := setByte_life s index byte.toNat
    rw [fillWith, Recorded.events_bind, ht] at hx
    by_cases heq : i = index
    · rw [heq] at hx ⊢
      exact mem_range_of_setByte h fun bound he => hx bound (List.mem_append_left _ he)
    · rw [List.length_cons] at hi
      exact ih (hlife.intact h) (by omega) fun bound he => hx bound (List.mem_append_right _ he)

theorem Counted.mem_range_of_scanWith (h : s.Intact capacity) {index i : Int} {count : Nat}
    (hi : index ≤ i ∧ i < index + count)
    (hx : ∀ bound, .indexOutOfBounds i bound ∉
      (scanWith (getByte (some s)) index count).events) : 0 ≤ i ∧ i ≤ capacity := by
  induction count generalizing index with
  | zero => omega
  | succ count ih =>
    rw [scanWith, Recorded.events_bind, Recorded.bind_pure_eq] at hx
    by_cases heq : i = index
    · rw [heq] at hx ⊢
      exact mem_range_of_getByte h fun bound he => hx bound (List.mem_append_left _ he)
    · exact ih (by omega) fun bound he => hx bound (List.mem_append_right _ he)

/-- A call through the entry points gets at bytes of the string only. -/
theorem PointerCall.mem_range (h : s.Intact capacity) {c : PointerCall} {i : Int}
    (hi : c.AsksFor i)
    (hx : ∀ bound, .indexOutOfBounds i bound ∉ (c.runCounted (some s)).events) :
    0 ≤ i ∧ i ≤ capacity := by
  cases c with
  | setByte index value =>
    obtain rfl : i = index := hi
    rw [runCounted, Recorded.bind_pure_eq] at hx
    exact Counted.mem_range_of_setByte h hx
  | getByte index =>
    obtain rfl : i = index := hi
    rw [runCounted, Recorded.bind_pure_eq] at hx
    exact Counted.mem_range_of_getByte h hx
  | fill index bytes =>
    rw [runCounted, Recorded.bind_pure_eq] at hx
    exact Counted.mem_range_of_fillWith h hi hx
  | scan index count =>
    rw [runCounted, Recorded.bind_pure_eq] at hx
    exact Counted.mem_range_of_scanWith h hi hx
  | _ => exact hi.elim

/-- **Every access that succeeds is inside the capacity**, or at the zero byte behind it. -/
theorem Taken.Reaches.mem_range {p : Program} {thread : Nat} {step : Step} {name : String}
    (hb : p.binding? name = some (.counted s)) (h : s.Intact capacity)
    (hsubject : step.subject = some name) {i : Int}
    (hx : Reaches ⟨thread, step, (p.step thread step).1⟩ i) : 0 ≤ i ∧ i ≤ capacity := by
  obtain ⟨hi, hx⟩ := hx
  cases step with
  | call name' c =>
    cases Option.some.inj hsubject
    have hevents : (p.step thread (.call name c)).1.events = (c.run s).events :=
      Program.events_call hb (h.staysInside c)
    rw [hevents] at hx
    exact StrCall.mem_range h hi hx
  | callThrough interface name' c =>
    obtain rfl : name' = some name := hsubject
    cases interface with
    | plain => exact hi.elim
    | counted =>
      have heffect := Program.callCounted_of_counted thread hb (h.staysInsideCounted c)
      have hevents : (p.step thread (.callThrough .counted (some name) c)).1.events =
          (c.runCounted (some s)).events := congrArg Effect.events heffect
      rw [hevents] at hx
      exact PointerCall.mem_range h hi hx
  | _ => exact hi.elim

end Access

/-! ### Steps and runs -/

/-- What a run says about a name agrees with what the process holds under it: a string that the
library made is in its form, access stayed inside, and its count is not negative, if no count word
was overwritten and no owner came at the limit. -/
inductive Cell.Agrees (c : Cell) (past : List Taken) : Option Nat → Prop
  | other (h : c.made = false) : Agrees c past none
  | string {s : Str} {capacity : Nat} (hc : c = ⟨some (.counted s), true⟩) (hs : s.Intact capacity)
      (hcount : (∀ x ∈ past, x.step.pokes = false ∧ ¬x.RetainsAtLimit) → 0 ≤ s.refcount.toInt)
      (hreach : ∀ x ∈ past, ∀ i, x.Reaches i → 0 ≤ i ∧ i ≤ capacity) : Agrees c past (some capacity)

/-- A free cell holds no string of the library. -/
theorem Cell.Agrees.eq_none {c : Cell} {past : List Taken} {known : Option Nat}
    (h : c.Agrees past known) (hfree : c.IsFree) : c.made = false ∧ known = none := by
  cases h with
  | other hmade => exact ⟨hmade, rfl⟩
  | string hc =>
    rw [hc] at hfree
    exact absurd hfree Cell.not_isFree_counted

/-- A string goes on, in its form and with a count that stays at zero or above. -/
theorem Cell.Agrees.goes_on {s t : Str} {made : Bool} {x : Taken} {past : List Taken}
    {known : Option Nat} (h : Agrees ⟨some (.counted s), made⟩ past known)
    (hform : ∀ capacity, s.Intact capacity → t.Intact capacity)
    (hcount : x.step.pokes = false → ¬x.RetainsAtLimit →
      0 ≤ s.refcount.toInt → 0 ≤ t.refcount.toInt)
    (hreach : ∀ capacity, s.Intact capacity → ∀ i, x.Reaches i → 0 ≤ i ∧ i ≤ capacity) :
    Agrees ⟨some (.counted t), made⟩ (x :: past) known := by
  cases h with
  | other hmade => exact Agrees.other hmade
  | string hc hs hcount' hreach' =>
    cases hc
    refine Agrees.string rfl (hform _ hs) (fun hroom => ?_) fun y hy => ?_
    · obtain ⟨⟨hpokes, hlimit⟩, hpast⟩ := List.forall_mem_cons.mp hroom
      exact hcount hpokes hlimit (hcount' hpast)
    · rcases List.mem_cons.mp hy with rfl | hy
      · exact hreach _ hs
      · exact hreach' y hy

/-- Where no block comes or goes, the run goes on with what is known. -/
theorem Cell.Agrees.of_isBlock {c : Cell} {es : List Event} {past now : List Taken}
    {known : Option Nat} (hblock : ∀ e ∈ es, e.isBlock = false) (h : c.Agrees now known) :
    c.Agrees (if es.any Event.isAllocated = true then past else now)
      (es.foldl Event.track known) := by
  have hold : es.any Event.isAllocated = false :=
    List.any_eq_false.mpr fun e he => by simp [Event.isAllocated_of_isBlock (hblock e he)]
  rw [hold, Event.foldl_track hblock]
  exact h

/-- **A turn keeps the agreement**, unless it writes into a string of the library without regard to
its header. -/
theorem Turn.agrees {name : String} {x : Taken} {c c' : Cell} {past : List Taken}
    {known : Option Nat} (h : Turn name x.step c x.answer.events c') (hc : c.Agrees past known)
    (hapart : x.step.writesPlain = true → c.made = false)
    (hreach : ∀ s, c.binding = some (.counted s) → ∀ capacity, s.Intact capacity →
      ∀ i, x.Reaches i → 0 ≤ i ∧ i ≤ capacity) :
    c'.Agrees (if x.answer.events.any Event.isAllocated = true then [] else x :: past)
      (x.answer.events.foldl Event.track known) := by
  generalize hstep : x.step = step at h hapart
  generalize hes : x.answer.events = es at h
  cases h with
  | idle hquiet =>
    refine Cell.Agrees.of_isBlock (fun e he => Event.isBlock_of_isOwnership (hquiet e he)) ?_
    cases hc with
    | other hmade => exact Cell.Agrees.other hmade
    | string hc hs hcount hpast =>
      cases hc
      exact (Cell.Agrees.string rfl hs hcount hpast).goes_on (fun _ h => h) (fun _ _ h => h)
        (hreach _ rfl)
  | place hfree =>
    obtain ⟨hmade, rfl⟩ := hc.eq_none hfree
    exact Cell.Agrees.other hmade
  | absent hfree hquiet =>
    obtain ⟨hmade, rfl⟩ := hc.eq_none hfree
    exact Cell.Agrees.of_isBlock (fun e he => Event.isBlock_of_isOwnership (hquiet e he))
      (Cell.Agrees.other hmade)
  | born hfree hnotes hsize =>
    -- what was known before is forgotten: the string begins its life in its form
    rw [List.foldl_append, List.any_append]
    simp only [List.any_cons, Event.isAllocated, Bool.true_or, Bool.or_true, if_true]
    exact Cell.Agrees.string rfl (Str.intact_ofPayload hsize) (fun _ => Int.le_refl 0) (by simp)
  | lives hlife =>
    have hblock := hlife.life.isBlock_eq
    refine Cell.Agrees.of_isBlock hblock (hc.goes_on (fun _ => hlife.life.intact) ?_ (hreach _ rfl))
    intro _ hlimit
    rw [Taken.RetainsAtLimit, hes] at hlimit
    exact hlife.life.count_nonneg hlimit
  | ends hend =>
    cases hend with
    | ends _ _ _ =>
      rw [List.foldl_append]
      exact Cell.Agrees.other rfl
  | poke =>
    refine hc.goes_on (fun _ h => h.withRefcount _) (fun hpokes => ?_) (hreach _ rfl)
    rw [hstep] at hpokes
    cases hpokes
  | overwrite hs hquiet =>
    have hmade := hapart hs
    refine Cell.Agrees.of_isBlock (fun e he => Event.isBlock_of_isOwnership (hquiet e he)) ?_
    cases hc with
    | other hmade' => exact Cell.Agrees.other hmade'
    | string hc => cases hc; cases hmade

/-- Whether a step leaves the strings of the library to calls that look at their headers. -/
def Program.WritesApart (p : Program) (_thread : Nat) (s : Step) : Prop :=
  s.writesPlain = true → ∀ name ∈ s.subject, name ∉ p.made

instance (p : Program) (thread : Nat) (s : Step) : Decidable (p.WritesApart thread s) :=
  inferInstanceAs (Decidable (_ → _))

namespace Program

/-- **Invariants of one name.**  What the cell of a name has at the start is had by it at the end of
an admitted run, if every admitted step about the name keeps it, and steps about something else,
which leave the cell alone, are of no interest. -/
theorem invariant_on_name {P : Program → Nat → Step → Prop} {I : Cell → List Taken → Prop}
    {name : String}
    (hstep : ∀ p history thread s, s.subject = some name → P p thread s →
      I (p.cell name) history →
        I ((p.step thread s).2.cell name) (history ++ [⟨thread, s, (p.step thread s).1⟩]))
    (helse : ∀ c history x, Taken.isAbout x name = false → I c history → I c (history ++ [x]))
    {p : Program} (h0 : I (p.cell name) []) {steps : List (Nat × Step)} (hP : p.Along P steps) :
    I ((p.after steps).cell name) (p.history steps) := by
  refine invariant_along (I := fun p history => I (p.cell name) history) ?_ h0 hP
  intro p history thread s hI hs
  by_cases hsubject : s.subject = some name
  · exact hstep p history thread s hsubject hs hI
  · have hcell : (p.step thread s).2.cell name = p.cell name := p.cell_effect_of_ne thread hsubject
    rw [hcell]
    exact helse _ _ _ (decide_eq_false hsubject) hI

/-- What a run says about a name agrees with what it leaves under the name. -/
theorem cell_agrees {p : Program} (hp : p.made = []) {steps : List (Nat × Step)}
    (hsteps : p.Along WritesApart steps) (name : String) :
    ((p.after steps).cell name).Agrees (Taken.sinceMade name (p.history steps))
      (Taken.capacityMade name (p.history steps)) := by
  have hstart : (p.cell name).Agrees (Taken.sinceMade name []) (Taken.capacityMade name []) :=
    Cell.Agrees.other (by simp [cell, hp])
  refine invariant_on_name (I := fun c history =>
    c.Agrees (Taken.sinceMade name history) (Taken.capacityMade name history)) ?_ ?_ hstart hsteps
  · intro p history thread s hsubject hapart hI
    have habout : Taken.isAbout ⟨thread, s, (p.step thread s).1⟩ name = true :=
      decide_eq_true hsubject
    have hturn : Turn name s (p.cell name) (p.step thread s).1.events
        ((p.step thread s).2.cell name) := p.effect_turn thread hsubject
    rw [Taken.sinceMade_concat habout, Taken.capacityMade_concat habout]
    refine Turn.agrees (x := ⟨thread, s, (p.step thread s).1⟩) hturn hI (fun hw => ?_) ?_
    · simpa [cell] using hapart hw name hsubject
    · intro str hb capacity hs i hx
      exact hx.mem_range hb hs hsubject
  · intro c history x habout hI
    rw [Taken.sinceMade_concat_of_not habout, Taken.capacityMade_concat_of_not habout]
    exact hI

/-- **Strings of the library keep their form.**  Take a process that has made no string yet, as
every process starts (`Program.start`), and let it do whatever it does, on whatever threads, as long
as it does not write into the strings of the library without regard to their headers.  Then every
such string has the info word that it was made with, as many bytes as that takes, and a zero byte at
their end.  So what is visible of it ends inside its capacity, and every access that succeeded was
inside the capacity, or at that zero byte.

Its count is not negative if, since the string was made, nobody overwrote its count word and no
owner came while the word was at its limit of 2147483647. -/
theorem strings_stay_intact {p : Program} (hp : p.made = []) {steps : List (Nat × Step)}
    (hsteps : p.Along WritesApart steps) {name : String} (hmade : name ∈ (p.after steps).made) :
    ∃ s capacity, (p.after steps).binding? name = some (.counted s) ∧
      Taken.capacityMade name (p.history steps) = some capacity ∧
      capacity ≤ 2147483647 ∧ s.info.toNat = 2147483648 + capacity ∧
      s.storage.size = capacity + 1 ∧ s.storage[capacity]? = some 0 ∧
      ((∀ x ∈ Taken.sinceMade name (p.history steps),
        x.step.pokes = false ∧ ¬x.RetainsAtLimit) → 0 ≤ s.refcount.toInt) ∧
      s.length ≤ capacity ∧ (0 : UInt8) ∉ s.visible ∧
      ∀ x ∈ Taken.sinceMade name (p.history steps), ∀ i, x.Reaches i → 0 ≤ i ∧ i ≤ capacity := by
  have hagrees := cell_agrees hp hsteps name
  generalize Taken.capacityMade name (p.history steps) = known at hagrees ⊢
  cases hagrees with
  | other hfalse =>
    rw [cell, decide_eq_false_iff_not] at hfalse
    exact absurd hmade hfalse
  | @string s capacity hc hs hcount hreach =>
    exact ⟨s, capacity, binding?_of_cell hc, rfl, hs.capacity_le, hs.toNat_info, hs.size_eq,
      hs.last_eq, hcount, hs.length_le, s.zero_notMem_visible, hreach⟩

/-- A run that tries to spoil the end of a string: a number whose low byte is zero is written at the
zero byte, then a row of bytes runs over it, then something is written in front of the string.  In
between, another thread uses the string, and bytes of compiled code are written without regard to a
header. -/
theorem intact_after_bad_writes :
    let p : Program := start (.filledWith 7 64) ⟨∅⟩ [] .silent true
    let steps : List (Nat × Step) :=
      [(0, .make "abc" (.bytes [104, 105])), (1, .place "buffer" (.plain #[1, 2, 3])),
        (0, .callThrough .counted (some "abc") (.setByte 2 256)),
        (1, .callThrough .counted (some "abc") .retain),
        (0, .callThrough .counted (some "abc") (.fill 1 [106, 107, 108])),
        (1, .callThrough .plain (some "buffer") (.setByte 2 9)),
        (1, .call "abc" (.writeAt (-1) 7)), (0, .call "abc" .release)]
    p.Along WritesApart steps ∧
      ∃ s, (p.after steps).binding? "abc" = some (.counted s) ∧ s.info.toNat = 2147483648 + 2 ∧
        s.storage.size = 3 ∧ s.storage[2]? = some 0 ∧ 0 ≤ s.refcount.toInt ∧ s.length ≤ 2 := by
  intro p steps
  have hsteps : p.Along WritesApart steps := by decide
  have hmade : "abc" ∈ (p.after steps).made := by decide
  obtain ⟨s, capacity, hb, hc, -, hinfo, hsize, hlast, hcount, hlength, -, -⟩ :=
    strings_stay_intact (p := p) rfl hsteps hmade
  have htwo : Taken.capacityMade "abc" (p.history steps) = some 2 := by decide
  cases htwo.symm.trans hc
  exact ⟨hsteps, s, hb, hinfo, hsize, hlast, hcount (by decide), hlength⟩

/-- **The count of a string may become negative** although nobody overwrites it: a retain does not
look whether the count word is at its limit, so one owner more than that leaves the lowest count. -/
theorem count_negative_after_many_retains :
    let p : Program := start (.filledWith 7 64) ⟨∅⟩ [] .silent true
    let steps : List (Nat × Step) :=
      [(0, .make "abc" (.bytes [104, 105]))] ++ List.replicate 2147483648 (0, .call "abc" .retain)
    p.made = [] ∧ p.Along WritesApart steps ∧ (∀ x ∈ steps, x.2.pokes = false) ∧
      "abc" ∈ (p.after steps).made ∧
      ∃ s, (p.after steps).binding? "abc" = some (.counted s) ∧
        s.refcount.toInt = -2147483648 := by
  intro p steps
  have hborn : (p.after [(0, .make "abc" (.bytes [104, 105]))]).cell "abc" =
      ⟨some (.counted (Str.ofPayload #[104, 105])), true⟩ := rfl
  have hcell := cell_after_retains hborn rfl 0 .library 2147483648
  rw [← after_append] at hcell
  have hapart : ∀ p, WritesApart p 0 (.call "abc" .retain) := fun p => nofun
  refine ⟨rfl, along_append.mpr ⟨by decide, ?_⟩, ?_, mem_made_of_cell hcell,
    _, binding?_of_cell hcell, by decide⟩
  · exact along_of_mem (List.forall_mem_replicate.mpr (Or.inr hapart)) _
  · exact List.forall_mem_append.mpr
      ⟨by decide, List.forall_mem_replicate.mpr (Or.inr rfl)⟩

end Program

end CountedStrings
