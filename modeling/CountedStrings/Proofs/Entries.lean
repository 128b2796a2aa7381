import CountedStrings.Proofs.Blocks

/-!
# Entries of the log

The log reports when a string is made and freed, and when an owner comes or goes.  It does so from
numbers of its own, which are not read back from the string.  This file is about what one step can
enter in the log, and what that adds up to.

## 1.  Adding up

`Event.owners` and `Event.lastCount` are two ways of reading a count off the events about a string.
`Str.Booked` says that the last count that was reported is that of the string, and that its
allocation was reported once and its end not yet.  `Str.Balanced` adds that its count word goes with
the balance of the owners, and that its count is their balance as long as no owner came at the limit
of the count word.  What happens to a string keeps that (`Balanced.life`).

## 2.  Entries

`Entry` lists what a step can enter about a name, and `Turn.entry` says that there is nothing else,
if nobody overwrites a count word or lays out a string that looks like one of the library
(`Step.isBooked`).  `Entry.balance`, `Entry.balanced_of_old` and `Entry.closed_of_gone` say what an
entry does to the books.
-/

namespace CountedStrings

/-! ## 1.  Adding up -/

namespace Event

/-- Whether an event tells of the end of a string. -/
def isFreed : Event → Bool
  | .freed _ => true
  | _ => false

/-- Whether an event tells of an owner who came. -/
def isRetained : Event → Bool
  | .retained _ => true
  | _ => false

/-- Whether an event tells of an owner who went, and was not the last. -/
def isReleased : Event → Bool
  | .referenceReleased _ => true
  | _ => false

/-- The count in an event about an owner. -/
def count? : Event → Option Int
  | .retained refcount | .referenceReleased refcount => some refcount
  | _ => none

/-- The number of owners besides the first, as they came and went. -/
def owners (events : List Event) : Int :=
  (events.countP isRetained : Int) - (events.countP isReleased : Int)

/-- The count in the last event about an owner; at the beginning it is 0. -/
def lastCount (events : List Event) : Int := (events.filterMap count?).getLast?.getD 0

theorem owners_append (first second : List Event) :
    owners (first ++ second) = owners first + owners second := by
  simp only [owners, List.countP_append]
  omega

theorem lastCount_append (first second : List Event) :
    lastCount (first ++ second) =
      ((second.filterMap count?).getLast?).getD (lastCount first) := by
  rw [lastCount, List.filterMap_append, List.getLast?_append, Option.getD_or]
  rfl

/-- Events that tell of no block neither make nor free a string. -/
theorem filter_of_isBlock {events : List Event} (h : ∀ e ∈ events, e.isBlock = false) :
    events.filter isAllocated = [] ∧ events.filter isFreed = [] := by
  simp only [List.filter_eq_nil_iff]
  refine ⟨fun e he => by simp [isAllocated_of_isBlock (h e he)], fun e he => ?_⟩
  cases e with
  | freed => cases h _ he
  | _ => simp [isFreed]

/-- Events about something else tell nothing about blocks. -/
theorem filter_of_isOwnership {events : List Event} (h : ∀ e ∈ events, e.isOwnership = false) :
    events.filter isAllocated = [] ∧ events.filter isFreed = [] :=
  filter_of_isBlock fun e he => isBlock_of_isOwnership (h e he)

/-- An event that does not speak of owners counts none. -/
theorem quiet_of_isOwnership {e : Event} (h : e.isOwnership = false) :
    e.isRetained = false ∧ e.isReleased = false ∧ e.count? = none := by
  cases e with
  | allocated | retained | referenceReleased | freed => cases h
  | _ => exact ⟨rfl, rfl, rfl⟩

/-- Events about something else tell nothing about owners. -/
theorem owners_of_isOwnership {events : List Event} (h : ∀ e ∈ events, e.isOwnership = false) :
    owners events = 0 ∧ events.filterMap count? = [] := by
  have hretained : events.countP isRetained = 0 :=
    List.countP_eq_zero.mpr fun e he => by simp [(quiet_of_isOwnership (h e he)).1]
  have hreleased : events.countP isReleased = 0 :=
    List.countP_eq_zero.mpr fun e he => by simp [(quiet_of_isOwnership (h e he)).2.1]
  refine ⟨?_, List.filterMap_eq_nil_iff.mpr fun e he => (quiet_of_isOwnership (h e he)).2.2⟩
  rw [owners, hretained, hreleased]
  rfl

end Event

namespace Str

/-- What the log tells of a string since it was made is what the string is: it was allocated once,
with its capacity, and not freed; and the last count that was reported is the one in its word. -/
structure Booked (s : Str) (capacity : Nat) (events : List Event) : Prop where
  ownedCapacity_eq : s.ownedCapacity = some capacity
  allocated_eq : events.filter Event.isAllocated = [.allocated capacity]
  freed_eq : events.filter Event.isFreed = []
  lastCount_eq : Event.lastCount events = s.refcount.toInt

/-- A booked string whose count word goes with the balance of its owners.  It does so as a word,
which comes round after its limit; and as a number, if no owner came at the limit, where one is
reported with the lowest count. -/
structure Balanced (s : Str) (capacity : Nat) (events : List Event) : Prop
    extends s.Booked capacity events where
  refcount_eq : s.refcount = Int32.ofInt (Event.owners events)
  toInt_refcount_eq (hlimit : .retained (-2147483648) ∉ events) :
    s.refcount.toInt = Event.owners events

namespace Balanced

variable {s t : Str} {capacity : Nat} {events es : List Event}

/-- Events that go with a change of the count go with it in the book. -/
theorem append (h : s.Balanced capacity events)
    (hblock : es.filter Event.isAllocated = [] ∧ es.filter Event.isFreed = [])
    (hinfo : t.info = s.info) (hword : t.refcount = s.refcount + Int32.ofInt (Event.owners es))
    (hcount : .retained (-2147483648) ∉ es →
      t.refcount.toInt = s.refcount.toInt + Event.owners es)
    (hlast : (es.filterMap Event.count?).getLast?.getD s.refcount.toInt = t.refcount.toInt) :
    t.Balanced capacity (events ++ es) := by
  refine ⟨⟨?_, ?_, ?_, ?_⟩, ?_, fun hlimit => ?_⟩
  · rw [ownedCapacity, hinfo]
    exact h.ownedCapacity_eq
  · rw [List.filter_append, hblock.1, List.append_nil, h.allocated_eq]
  · rw [List.filter_append, hblock.2, List.append_nil, h.freed_eq]
  · rw [Event.lastCount_append, h.lastCount_eq, hlast]
  · rw [Event.owners_append, Int32.ofInt_add, hword, h.refcount_eq]
  · obtain ⟨hbefore, hnow⟩ := not_or.mp (mt List.mem_append.mpr hlimit)
    rw [Event.owners_append, hcount hnow, h.toInt_refcount_eq hbefore]

/-- Events about something else change nothing. -/
theorem append_quiet (h : s.Balanced capacity events) (hquiet : ∀ e ∈ es, e.isOwnership = false)
    (hinfo : t.info = s.info) (hcount : t.refcount = s.refcount) :
    t.Balanced capacity (events ++ es) := by
  obtain ⟨howners, hcounts⟩ := Event.owners_of_isOwnership hquiet
  refine h.append (Event.filter_of_isOwnership hquiet) hinfo ?_ (fun _ => ?_) ?_
  · rw [howners, hcount]
    exact (Int32.add_zero _).symm
  · rw [howners, hcount, Int.add_zero]
  · rw [hcounts, hcount]
    rfl

/-- Every act is booked, and changes the balance as it changes the count. -/
theorem act (h : s.Balanced capacity events) (ha : Act s es t) :
    t.Balanced capacity (events ++ es) := by
  cases ha with
  | retain ho =>
    refine h.append ⟨rfl, rfl⟩ rfl rfl (fun hlimit => toInt_add_one fun hmax => hlimit ?_) rfl
    rw [toInt_add_one_eq_min.mpr hmax]
    exact List.mem_singleton_self _
  | release ho hr =>
    exact h.append ⟨rfl, rfl⟩ rfl (Int32.sub_eq_add_neg _ _) (fun _ => toInt_sub_one hr) rfl
  | write hi => exact h.append_quiet (by simp) rfl rfl
  | refuse index bound => exact h.append_quiet (by simp [Event.isOwnership]) rfl rfl

/-- **Whatever happens to a string is booked.** -/
theorem life (h : s.Balanced capacity events) (hlife : Life s es t) :
    t.Balanced capacity (events ++ es) := by
  induction hlife with
  | rest =>
    rw [List.append_nil]
    exact h
  | act _ ha ih =>
    rw [← List.append_assoc]
    exact ih.act ha

/-- A new string is booked. -/
theorem ofPayload {payload : Array UInt8} {notes : List Event}
    (hnotes : ∀ e ∈ notes, e.isNote = true) (hsize : payload.size ≤ maxCapacity) :
    (Str.ofPayload payload).Balanced payload.size (notes ++ [.allocated payload.size]) := by
  have hquiet : ∀ e ∈ notes, e.isOwnership = false :=
    fun e he => Event.isOwnership_of_isNote (hnotes e he)
  obtain ⟨hallocated, hfreed⟩ := Event.filter_of_isOwnership hquiet
  obtain ⟨howners, hcounts⟩ := Event.owners_of_isOwnership hquiet
  have hbalance : Event.owners (notes ++ [.allocated payload.size]) = 0 := by
    rw [Event.owners_append, howners]
    rfl
  refine ⟨⟨capacityOf_ownedInfo hsize, ?_, ?_, ?_⟩, ?_, fun _ => hbalance.symm⟩
  · rw [List.filter_append, hallocated]
    rfl
  · rw [List.filter_append, hfreed]
    rfl
  · rw [Event.lastCount, List.filterMap_append, hcounts]
    rfl
  · rw [hbalance]
    rfl

end Balanced

end Str

/-! ## 2.  Entries -/

/-- Whether a step is one whose owners can be followed in the log: nobody overwrites a count word or
lays out a string that looks like one of the library, and owners come and go one at a time. -/
def Step.isBooked : Step → Bool
  | .place _ (.counted s) => s.ownedCapacity.isNone
  | .poke _ _ | .call _ (.share _ _ _) => false
  | _ => true

/-- What looks like a string of the library is one. -/
inductive Cell.IsSound : Cell → Prop
  | made {s : Str} {capacity : Nat} (ho : s.ownedCapacity = some capacity) :
      IsSound ⟨some (.counted s), true⟩
  | other {b : Option Binding} (h : ∀ s, b = some (.counted s) → s.ownedCapacity = none) :
      IsSound ⟨b, false⟩

/-- A free cell is not one of a string of the library. -/
theorem Cell.IsSound.eq_of_isFree {c : Cell} (h : c.IsSound) (hfree : c.IsFree) :
    ∃ b, c = ⟨b, false⟩ := by
  cases h with
  | made => exact absurd hfree Cell.not_isFree_counted
  | @other b => exact ⟨b, rfl⟩

/-- What a step can enter about a name, with the cell before and after it. -/
inductive Entry : Cell → List Event → Cell → Prop
  /-- There is no string of the library, and none is made. -/
  | other {b b' : Option Binding} {es : List Event} (h : ∀ e ∈ es, e.isOwnership = false) :
      Entry ⟨b, false⟩ es ⟨b', false⟩
  /-- A string keeps its header. -/
  | keeps {s t : Str} {es : List Event} (h : ∀ e ∈ es, e.isOwnership = false)
      (hinfo : t.info = s.info) (hcount : t.refcount = s.refcount) :
      Entry ⟨some (.counted s), true⟩ es ⟨some (.counted t), true⟩
  /-- A string is made. -/
  | born {b : Option Binding} {notes : List Event} {payload : Array UInt8}
      (h : ∀ e ∈ notes, e.isNote = true) (hsize : payload.size ≤ maxCapacity) :
      Entry ⟨b, false⟩ (notes ++ [.allocated payload.size])
        ⟨some (.counted (Str.ofPayload payload)), true⟩
  /-- A string lives on. -/
  | lives {s t : Str} {es : List Event} (h : s.Life es t) :
      Entry ⟨some (.counted s), true⟩ es ⟨some (.counted t), true⟩
  /-- A string ends. -/
  | ends {s t : Str} {es : List Event} {capacity : Nat} (h : s.Life es t)
      (ho : s.ownedCapacity = some capacity) :
      Entry ⟨some (.counted s), true⟩ (es ++ [.freed capacity]) ⟨none, false⟩

/-- Nothing that happens to a string without the flag speaks of owners. -/
theorem Str.Life.isOwnership_eq {s t : Str} {es : List Event} (h : Life s es t)
    (hforeign : s.ownedCapacity = none) : ∀ e ∈ es, e.isOwnership = false := by
  induction h with
  | rest => simp
  | act hlife ha ih =>
    intro e he
    rcases List.mem_append.mp he with he | he
    · exact ih e he
    · have hnone := hlife.ownedCapacity_eq.trans hforeign
      cases ha with
      | retain ho => cases hnone.symm.trans ho
      | release ho => cases hnone.symm.trans ho
      | write => cases he
      | refuse =>
        rw [List.mem_singleton.mp he]
        rfl

/-- **A turn enters one of these things**, and leaves a cell sound. -/
theorem Turn.entry {name : String} {step : Step} {c c' : Cell} {es : List Event}
    (h : Turn name step c es c') (hc : c.IsSound) (hs : step.isBooked = true) :
    Entry c es c' ∧ c'.IsSound := by
  cases h with
  | idle hquiet =>
    refine ⟨?_, hc⟩
    cases hc with
    | made => exact Entry.keeps hquiet rfl rfl
    | other => exact Entry.other hquiet
  | @place _ b hfree =>
    obtain ⟨b₀, rfl⟩ := hc.eq_of_isFree hfree
    refine ⟨Entry.other (by simp), Cell.IsSound.other fun s hb => ?_⟩
    cases hb
    exact Option.isNone_iff_eq_none.mp hs
  | absent hfree hquiet =>
    obtain ⟨b₀, rfl⟩ := hc.eq_of_isFree hfree
    exact ⟨Entry.other hquiet, Cell.IsSound.other fun s hb => nomatch hb⟩
  | born hfree hnotes hsize =>
    obtain ⟨b₀, rfl⟩ := hc.eq_of_isFree hfree
    exact ⟨Entry.born hnotes hsize, Cell.IsSound.made (capacityOf_ownedInfo hsize)⟩
  | lives hleaves =>
    have hlife := hleaves.life
    cases hc with
    | made ho => exact ⟨Entry.lives hlife, Cell.IsSound.made (hlife.ownedCapacity_eq.trans ho)⟩
    | other hforeign =>
      have hnone := hforeign _ rfl
      refine ⟨Entry.other (hlife.isOwnership_eq hnone), Cell.IsSound.other fun t ht => ?_⟩
      cases ht
      exact hlife.ownedCapacity_eq.trans hnone
  | ends hend =>
    cases hc with
    | made ho =>
      obtain ⟨t, es', hlife, -, rfl⟩ := hend.eq_concat_freed ho
      exact ⟨Entry.ends hlife ho, Cell.IsSound.other fun s hb => nomatch hb⟩
    | other hforeign =>
      -- a string without the flag has no last owner
      cases hend with
      | ends hlife ho _ =>
        cases (hlife.ownedCapacity_eq.trans (hforeign _ rfl)).symm.trans ho
  | poke => cases hs
  | @overwrite _ b buffer _ _ _ hquiet =>
    cases hc with
    | made ho => exact ⟨Entry.keeps hquiet rfl rfl, Cell.IsSound.made ho⟩
    | other hforeign =>
      refine ⟨Entry.other hquiet, Cell.IsSound.other fun t ht => ?_⟩
      cases b with
      | counted s =>
        cases ht
        exact hforeign s rfl
      | null => cases ht
      | plain => cases ht

namespace Entry

variable {c c' : Cell} {es : List Event}

/-- **The balance of an entry**: the strings that were there and those that are reported as new are
those that are there now and those that are reported as freed. -/
theorem balance (h : Entry c es c') :
    c.made.toNat + es.countP Event.isAllocated = c'.made.toNat + es.countP Event.isFreed := by
  have hcounts : ∀ {es : List Event}, es.filter Event.isAllocated = [] ∧
      es.filter Event.isFreed = [] →
        es.countP Event.isAllocated = 0 ∧ es.countP Event.isFreed = 0 := by
    intro es hes
    rw [List.countP_eq_length_filter, List.countP_eq_length_filter, hes.1, hes.2]
    exact ⟨rfl, rfl⟩
  cases h with
  | other hquiet =>
    obtain ⟨hallocated, hfreed⟩ := hcounts (Event.filter_of_isOwnership hquiet)
    rw [hallocated, hfreed]
  | keeps hquiet =>
    obtain ⟨hallocated, hfreed⟩ := hcounts (Event.filter_of_isOwnership hquiet)
    rw [hallocated, hfreed]
  | lives hlife =>
    obtain ⟨hallocated, hfreed⟩ := hcounts (Event.filter_of_isBlock hlife.isBlock_eq)
    rw [hallocated, hfreed]
  | born hnotes =>
    obtain ⟨hallocated, hfreed⟩ := hcounts
      (Event.filter_of_isOwnership fun e he => Event.isOwnership_of_isNote (hnotes e he))
    rw [List.countP_append, List.countP_append, hallocated, hfreed]
    rfl
  | ends hlife =>
    obtain ⟨hallocated, hfreed⟩ := hcounts (Event.filter_of_isBlock hlife.isBlock_eq)
    rw [List.countP_append, List.countP_append, hallocated, hfreed]
    rfl

/-- What speaks of owners is about a string of the library, which was there before or is there
now. -/
theorem made_of_isOwnership (h : Entry c es c') {e : Event} (he : e ∈ es)
    (howner : e.isOwnership = true) : c.made = true ∨ c'.made = true := by
  cases h with
  | other hquiet => exact absurd howner (by simp [hquiet e he])
  | keeps => exact Or.inl rfl
  | born => exact Or.inr rfl
  | lives => exact Or.inl rfl
  | ends => exact Or.inl rfl

/-- A string that was not there before is a new one. -/
theorem balanced_of_new (h : Entry c es c') (hold : c.made = false) (hnew : c'.made = true) :
    ∃ s capacity, c' = ⟨some (.counted s), true⟩ ∧ s.Balanced capacity es := by
  cases h with
  | born hnotes hsize => exact ⟨_, _, rfl, Str.Balanced.ofPayload hnotes hsize⟩
  | other => cases hnew
  | keeps | lives | ends => cases hold

/-- A string that is still there is booked as it was before. -/
theorem balanced_of_old {s : Str} (h : Entry ⟨some (.counted s), true⟩ es c') {capacity : Nat}
    {events : List Event} (hbalanced : s.Balanced capacity events) (hnew : c'.made = true) :
    ∃ t, c' = ⟨some (.counted t), true⟩ ∧ t.Balanced capacity (events ++ es) := by
  cases h with
  | keeps hquiet hinfo hcount => exact ⟨_, rfl, hbalanced.append_quiet hquiet hinfo hcount⟩
  | lives hlife => exact ⟨_, rfl, hbalanced.life hlife⟩
  | ends => cases hnew

/-- The account of a string that is gone is closed: it was allocated once and freed once, with the
same capacity, and that was the last thing. -/
theorem closed_of_gone {s : Str} (h : Entry ⟨some (.counted s), true⟩ es c') {capacity : Nat}
    {events : List Event} (hbooked : s.Booked capacity events) (hgone : c'.made = false) :
    (events ++ es).filter Event.isAllocated = [.allocated capacity] ∧
      (events ++ es).filter Event.isFreed = [.freed capacity] ∧
      (events ++ es).getLast? = some (.freed capacity) := by
  cases h with
  | keeps | lives => cases hgone
  | @ends _ _ es _ hlife ho =>
    cases ho.symm.trans hbooked.ownedCapacity_eq
    obtain ⟨hallocated, hfreed⟩ := Event.filter_of_isBlock hlife.isBlock_eq
    refine ⟨?_, ?_, ?_⟩
    · rw [List.filter_append, List.filter_append, hallocated, hbooked.allocated_eq]
      rfl
    · rw [List.filter_append, List.filter_append, hfreed, hbooked.freed_eq]
      rfl
    · rw [← List.append_assoc, List.getLast?_concat]

end Entry

end CountedStrings
