import CountedStrings.Proofs.Entries
import Mathlib.Data.Finset.Card
import Mathlib.Data.List.Induction

/-!
# The log is a ledger

Whoever adds up the log gets what is in memory: the number of strings that are there, the count of
each of them, and for each of them where it begins and ends.

## 1.  Sound processes

`Program.IsSound`: what looks like a string of the library is one, in every run of booked steps
(`IsSound.after`).  So an event about owners is about a string of the library
(`subject_of_isOwnership`).

## 2.  The balance

`count_reported`: new strings, less freed ones, are the strings that there are.

## 3.  The account of one string

A `Lifetime` is a stretch of a run in which there is a string under a name.  `balanced_of_lifetime`:
over its lifetime a string is booked, and its count is the balance of its owners, unless one of them
came at the limit of the count word.  `closed_of_gone`: the step that takes it away closes its
account.

## 4.  The law

`log_is_a_ledger`, and a run after which the balance of a string is not its count
(`balance_beyond_count_word`).
-/

namespace CountedStrings

namespace Program

/-! ## 1.  Sound processes -/

variable {p : Program} {name : String} {steps : List (Nat × Step)}

/-- Whether all that looks like a string of the library is one. -/
def IsSound (p : Program) : Prop := ∀ name, (p.cell name).IsSound

/-- A process that holds nothing is sound. -/
theorem isSound_of_empty (hstrings : p.strings = ∅) (hmade : p.made = []) : p.IsSound := by
  intro name
  have hcell : p.cell name = ⟨none, false⟩ := by
    rw [cell, binding?, hstrings, hmade]
    rfl
  rw [hcell]
  exact Cell.IsSound.other (by simp)

/-- A step about a name makes an entry about it. -/
theorem IsSound.entry (h : p.IsSound) (thread : Nat) {s : Step} (hs : s.isBooked = true)
    (hsubject : s.subject = some name) :
    Entry (p.cell name) (p.step thread s).1.events ((p.step thread s).2.cell name) :=
  ((p.effect_turn thread hsubject).entry (h name) hs).1

theorem IsSound.step (h : p.IsSound) (thread : Nat) {s : Step} (hs : s.isBooked = true) :
    (p.step thread s).2.IsSound := by
  intro name
  by_cases hsubject : s.subject = some name
  · exact ((p.effect_turn thread hsubject).entry (h name) hs).2
  · have hcell : (p.step thread s).2.cell name = p.cell name := p.cell_effect_of_ne thread hsubject
    rw [hcell]
    exact h name

/-- **Soundness is kept by every run.** -/
theorem IsSound.after (h : p.IsSound) (hsteps : ∀ x ∈ steps, x.2.isBooked = true) :
    (p.after steps).IsSound := by
  induction steps generalizing p with
  | nil => exact h
  | cons x rest ih =>
    obtain ⟨hx, hrest⟩ := List.forall_mem_cons.mp hsteps
    exact ih (h.step x.1 hx) hrest

/-- The strings of the library are the strings with the flag. -/
theorem IsSound.mem_made_iff (h : p.IsSound) :
    name ∈ p.made ↔ ∃ s capacity, p.binding? name = some (.counted s) ∧
      s.ownedCapacity = some capacity := by
  have hname := h name
  generalize hc : p.cell name = c at hname
  have hb : p.binding? name = c.binding := congrArg Cell.binding hc
  have hmade : decide (name ∈ p.made) = c.made := congrArg Cell.made hc
  cases hname with
  | @made s capacity ho => exact ⟨fun _ => ⟨s, capacity, hb, ho⟩, fun _ => of_decide_eq_true hmade⟩
  | other hforeign =>
    refine ⟨fun hmem => absurd hmem (of_decide_eq_false hmade), fun ⟨s, capacity, hs, ho⟩ => ?_⟩
    cases (hforeign s (hb.symm.trans hs)).symm.trans ho

/-- A step that is not about a name does not speak of owners. -/
theorem isOwnership_of_subject {thread : Nat} {s : Step} (h : s.subject = none) {e : Event}
    (he : e ∈ (p.step thread s).1.events) : e.isOwnership = false := by
  cases hs : s.counts with
  | false => exact isOwnership_of_counts hs he
  | true =>
    cases s with
    | callThrough interface name c =>
      obtain rfl : name = none := h
      cases interface with
      | plain => cases hs
      | counted =>
        rcases p.callCounted_cases thread none c with ⟨reply, hx, -⟩ | ⟨n, s, hn, -⟩
        · have hevents : (p.step thread (.callThrough .counted none c)).1.events = [] :=
            congrArg Effect.events hx
          rw [hevents] at he
          cases he
        · cases hn
    | make | makeThrough | call => cases h
    | _ => cases hs

/-- **An entry about owners is about a string of the library.** -/
theorem IsSound.subject_of_isOwnership (h : p.IsSound) {thread : Nat} {s : Step}
    (hs : s.isBooked = true) {e : Event} (he : e ∈ (p.step thread s).1.events)
    (howner : e.isOwnership = true) :
    ∃ name, s.subject = some name ∧ (name ∈ p.made ∨ name ∈ (p.step thread s).2.made) := by
  cases hsubject : s.subject with
  | none => cases (isOwnership_of_subject hsubject he).symm.trans howner
  | some name =>
    refine ⟨name, rfl, ?_⟩
    rcases (h.entry thread hs hsubject).made_of_isOwnership he howner with hmade | hmade
    · exact Or.inl (of_decide_eq_true hmade)
    · exact Or.inr (of_decide_eq_true hmade)

/-! ## 2.  The balance -/

/-- The number of strings: those under other names, and the one under this name if there is one. -/
theorem card_made (p : Program) (name : String) :
    p.made.toFinset.card = (p.made.toFinset.erase name).card + (p.cell name).made.toNat := by
  by_cases h : name ∈ p.made
  · have hmem : name ∈ p.made.toFinset := List.mem_toFinset.mpr h
    have hmade : (p.cell name).made = true := decide_eq_true h
    rw [hmade, ← Finset.card_erase_add_one hmem]
    rfl
  · have hmem : name ∉ p.made.toFinset := fun hmem => h (List.mem_toFinset.mp hmem)
    have hmade : (p.cell name).made = false := decide_eq_false h
    rw [hmade, Finset.erase_eq_of_notMem hmem]
    rfl

/-- **The balance of a step.** -/
theorem IsSound.balance (h : p.IsSound) (thread : Nat) {s : Step} (hs : s.isBooked = true) :
    p.made.toFinset.card + (p.step thread s).1.events.countP Event.isAllocated =
      (p.step thread s).2.made.toFinset.card +
        (p.step thread s).1.events.countP Event.isFreed := by
  cases hsubject : s.subject with
  | none =>
    have hsame : (p.step thread s).2.made.toFinset = p.made.toFinset := by
      ext name
      rw [List.mem_toFinset, List.mem_toFinset]
      exact p.mem_made_of_ne thread fun hname => nomatch hsubject.symm.trans hname
    obtain ⟨hallocated, hfreed⟩ :=
      Event.filter_of_isOwnership fun e he => isOwnership_of_subject hsubject he
    rw [hsame, List.countP_eq_length_filter, List.countP_eq_length_filter, hallocated, hfreed]
  | some name =>
    have hothers : (p.step thread s).2.made.toFinset.erase name = p.made.toFinset.erase name := by
      ext other
      rw [Finset.mem_erase, Finset.mem_erase, List.mem_toFinset, List.mem_toFinset]
      refine and_congr_right fun hne => p.mem_made_of_ne thread fun hname => hne ?_
      exact (Option.some.inj (hsubject.symm.trans hname)).symm
    have hentry := (h.entry thread hs hsubject).balance
    rw [p.card_made name, (p.step thread s).2.card_made name, hothers]
    omega

/-- All that a run reports. -/
def reported (p : Program) (steps : List (Nat × Step)) : List Event :=
  (p.history steps).flatMap (·.answer.events)

theorem reported_concat (p : Program) (steps : List (Nat × Step)) (x : Nat × Step) :
    p.reported (steps ++ [x]) =
      p.reported steps ++ ((p.after steps).step x.1 x.2).1.events := by
  rw [reported, history_concat, List.flatMap_append, List.flatMap_singleton]
  rfl

/-- **The balance of a run**: new strings, less freed ones, are the strings that there are. -/
theorem IsSound.count_reported (h : p.IsSound) (hmade : p.made = [])
    (hsteps : ∀ x ∈ steps, x.2.isBooked = true) :
    (p.reported steps).countP Event.isAllocated =
      (p.after steps).made.toFinset.card + (p.reported steps).countP Event.isFreed := by
  induction steps using List.reverseRecOn with
  | nil =>
    rw [after_nil, hmade]
    rfl
  | append_singleton steps x ih =>
    obtain ⟨hbefore, hx⟩ := List.forall_mem_append.mp hsteps
    have hstep := (h.after hbefore).balance x.1 (hx x List.mem_cons_self)
    have hrun := ih hbefore
    rw [reported_concat, after_concat, List.countP_append, List.countP_append]
    omega

/-! ## 3.  The account of one string -/

/-- A stretch of a run in which there is one string of the library under a name, from the step that
makes it on. -/
structure Lifetime (p : Program) (name : String) (stretch : List (Nat × Step)) : Prop where
  absent : name ∉ p.made
  begins : stretch ≠ []
  stays : p.Along (fun q thread s => name ∈ (q.step thread s).2.made) stretch

/-- Each string of the library is in its lifetime. -/
theorem exists_lifetime (hp : p.made = []) (h : name ∈ (p.after steps).made) :
    ∃ before stretch, steps = before ++ stretch ∧ (p.after before).Lifetime name stretch := by
  induction steps using List.reverseRecOn with
  | nil =>
    rw [after_nil, hp] at h
    cases h
  | append_singleton steps x ih =>
    rw [after_concat] at h
    by_cases hold : name ∈ (p.after steps).made
    · obtain ⟨before, stretch, rfl, hlife⟩ := ih hold
      refine ⟨before, stretch ++ [x], List.append_assoc .., hlife.absent, by simp, ?_⟩
      rw [along_append, ← after_append]
      exact ⟨hlife.stays, h, trivial⟩
    · exact ⟨steps, [x], rfl, hold, by simp, h, trivial⟩

/-- **The account of one string**: during its lifetime the log tells what it is. -/
theorem IsSound.balanced_of_lifetime (h : p.IsSound) (hsteps : ∀ x ∈ steps, x.2.isBooked = true)
    (hlife : p.Lifetime name steps) :
    ∃ s capacity, (p.after steps).cell name = ⟨some (.counted s), true⟩ ∧
      s.Balanced capacity (Taken.eventsOn name (p.history steps)) := by
  induction steps using List.reverseRecOn with
  | nil => exact absurd rfl hlife.begins
  | append_singleton steps x ih =>
    obtain ⟨hbefore, hx⟩ := List.forall_mem_append.mp hsteps
    obtain ⟨hstays, hnow, -⟩ := along_append.mp hlife.stays
    have hsound := h.after hbefore
    have hnew : (((p.after steps).step x.1 x.2).2.cell name).made = true := decide_eq_true hnow
    rw [after_concat, history_concat]
    by_cases hsubject : x.2.subject = some name
    · have hentry := hsound.entry x.1 (hx x List.mem_cons_self) hsubject
      rw [Taken.eventsOn_concat (decide_eq_true hsubject)]
      by_cases hfirst : steps = []
      · subst hfirst
        exact hentry.balanced_of_new (decide_eq_false hlife.absent) hnew
      · obtain ⟨s, capacity, hcell, hbalanced⟩ := ih hbefore ⟨hlife.absent, hfirst, hstays⟩
        rw [hcell] at hentry
        obtain ⟨t, ht, hbalanced'⟩ := hentry.balanced_of_old hbalanced hnew
        exact ⟨t, capacity, ht, hbalanced'⟩
    · rw [Taken.eventsOn_concat_of_not (decide_eq_false hsubject)]
      have hcell := (p.after steps).cell_effect_of_ne x.1 hsubject
      have hfirst : steps ≠ [] := by
        rintro rfl
        exact hlife.absent ((p.mem_made_of_ne x.1 hsubject).mp hnow)
      obtain ⟨s, capacity, hold, hbalanced⟩ := ih hbefore ⟨hlife.absent, hfirst, hstays⟩
      exact ⟨s, capacity, hcell.trans hold, hbalanced⟩

/-- The account of a string that goes is closed by the step that takes it away. -/
theorem IsSound.closed_of_gone (h : p.IsSound) {x : Nat × Step}
    (hsteps : ∀ x ∈ steps, x.2.isBooked = true) (hx : x.2.isBooked = true)
    (hlife : p.Lifetime name steps) (hgone : name ∉ ((p.after steps).step x.1 x.2).2.made) :
    ∃ capacity,
      (Taken.eventsOn name (p.history (steps ++ [x]))).filter Event.isAllocated =
        [.allocated capacity] ∧
      (Taken.eventsOn name (p.history (steps ++ [x]))).filter Event.isFreed =
        [.freed capacity] ∧
      (Taken.eventsOn name (p.history (steps ++ [x]))).getLast? = some (.freed capacity) := by
  obtain ⟨s, capacity, hcell, hbalanced⟩ := h.balanced_of_lifetime hsteps hlife
  have hsubject := subject_of_gone (mem_made_of_cell hcell) hgone
  have hentry := (h.after hsteps).entry x.1 hx hsubject
  rw [hcell] at hentry
  rw [history_concat, Taken.eventsOn_concat (decide_eq_true hsubject)]
  exact ⟨capacity, hentry.closed_of_gone hbalanced.toBooked (decide_eq_false hgone)⟩

/-- **Every retain is an owner in the log**, whatever the count word does. -/
theorem owners_after_retains {s : Str} {capacity : Nat}
    (hc : p.cell name = ⟨some (.counted s), true⟩) (ho : s.ownedCapacity = some capacity)
    (thread : Nat) (door : Door) (n : Nat) :
    Event.owners
      (Taken.eventsOn name (p.history (List.replicate n (thread, door.retain name)))) = n := by
  have habout : (door.retain name).subject = some name := by cases door <;> rfl
  induction n with
  | zero => rfl
  | succ n ih =>
    have hs := binding?_of_cell (cell_after_retains hc ho thread door n)
    rw [List.replicate_succ', history_concat, Taken.eventsOn_concat (decide_eq_true habout),
      Event.owners_append, ih]
    dsimp only
    rw [events_retain hs ho thread door]
    show (n : Int) + 1 = (n + 1 : Nat)
    omega

/-! ## 4.  The law -/

/-- **The log is a ledger.**  Take a process that holds nothing, as every process starts
(`Program.start`), and let it do whatever it does, on whatever threads, as long as nobody overwrites
a count word or lays out a string with the flag, and owners come and go one at a time.  After every
step:

* as many strings were reported as new as there are strings of the library, and as were reported as
  freed; and the strings of the library are those with the flag;
* each string of the library is in a lifetime, and over the events of the steps about it, from the
  one that made it on, its account is right (`Str.Booked`): there is one report that it was
  allocated, with its capacity, and none that it was freed, and its count word is what the last
  event about an owner says;
* the count word of such a string is the word for the number of owners that came, less those that
  went, and its count is that number if none of them came while it was at its limit of 2147483647;
* if the step takes a string away, then over its lifetime and this step there is one report that it
  was allocated and one that it was freed, both with its capacity, and the latter is the last event;
* what the step reports about owners is about a string of the library, which was there before the
  step or is there after it: other strings and absent addresses are not in the log. -/
theorem log_is_a_ledger {p : Program} (hstrings : p.strings = ∅) (hmade : p.made = [])
    {steps : List (Nat × Step)} (hsteps : ∀ x ∈ steps, x.2.isBooked = true) :
    ((p.reported steps).countP Event.isAllocated =
        (p.after steps).made.toFinset.card + (p.reported steps).countP Event.isFreed ∧
      ∀ name, name ∈ (p.after steps).made ↔ ∃ s capacity,
        (p.after steps).binding? name = some (.counted s) ∧ s.ownedCapacity = some capacity) ∧
    ((∀ name ∈ (p.after steps).made, ∃ before stretch, steps = before ++ stretch ∧
        (p.after before).Lifetime name stretch) ∧
      ∀ before stretch name, steps = before ++ stretch →
        (p.after before).Lifetime name stretch →
          let history := (p.after before).history stretch
          let events := Taken.eventsOn name history
          ∃ s capacity, (p.after steps).binding? name = some (.counted s) ∧
            s.Booked capacity events ∧ s.refcount = Int32.ofInt (Event.owners events) ∧
            ((∀ x ∈ history, x.isAbout name = true → ¬x.RetainsAtLimit) →
              s.refcount.toInt = Event.owners events)) ∧
    (∀ before stretch x name, steps = before ++ (stretch ++ [x]) →
      (p.after before).Lifetime name stretch → name ∉ (p.after steps).made →
        let events := Taken.eventsOn name ((p.after before).history (stretch ++ [x]))
        ∃ capacity, events.filter Event.isAllocated = [.allocated capacity] ∧
          events.filter Event.isFreed = [.freed capacity] ∧
          events.getLast? = some (.freed capacity)) ∧
    ∀ before x, steps = before ++ [x] →
      ∀ e ∈ ((p.after before).step x.1 x.2).1.events, e.isOwnership = true →
        ∃ name, x.2.subject = some name ∧
          (name ∈ (p.after before).made ∨ name ∈ (p.after steps).made) := by
  have hsound := isSound_of_empty hstrings hmade
  refine ⟨⟨hsound.count_reported hmade hsteps, fun name => (hsound.after hsteps).mem_made_iff⟩,
    ⟨fun name hname => exists_lifetime hmade hname, ?_⟩, ?_, ?_⟩
  · rintro before stretch name rfl hlife history events
    obtain ⟨hbefore, hstretch⟩ := List.forall_mem_append.mp hsteps
    obtain ⟨s, capacity, hcell, hbalanced⟩ :=
      (hsound.after hbefore).balanced_of_lifetime hstretch hlife
    rw [after_append]
    refine ⟨s, capacity, binding?_of_cell hcell, hbalanced.toBooked, hbalanced.refcount_eq,
      fun hlimit => hbalanced.toInt_refcount_eq fun he => ?_⟩
    obtain ⟨x, hx, habout, he⟩ := Taken.mem_eventsOn.mp he
    exact hlimit x hx habout he
  · rintro before stretch x name rfl hlife hgone events
    obtain ⟨hbefore, hrest⟩ := List.forall_mem_append.mp hsteps
    obtain ⟨hstretch, hx⟩ := List.forall_mem_append.mp hrest
    rw [after_append, after_concat] at hgone
    exact (hsound.after hbefore).closed_of_gone hstretch (hx x List.mem_cons_self) hlife hgone
  · rintro before x rfl e he howner
    obtain ⟨hbefore, hx⟩ := List.forall_mem_append.mp hsteps
    rw [after_concat]
    exact (hsound.after hbefore).subject_of_isOwnership (hx x List.mem_cons_self) he howner

/-- Two threads share a string, while another string comes and goes, a string without the flag gets
an owner that is not counted, and a string that is too long is not made. -/
theorem ledger_of_two_strings :
    let p : Program := start (.filledWith 7 64) ⟨∅⟩ [] .silent true
    let before : List (Nat × Step) := [(0, .make "abc" (.bytes [104, 105]))]
    let stretch : List (Nat × Step) :=
      [(1, .makeThrough "other" (.zeros 3)), (0, .call "abc" .retain),
        (1, .place "foreign" (.counted ⟨0, 3, #[97, 98, 99, 0]⟩)),
        (1, .callThrough .counted (some "foreign") .retain), (0, .make "long" (.zeros 2147483648)),
        (1, .callThrough .counted (some "abc") .retain), (1, .callThrough .counted none .release),
        (0, .callThrough .counted (some "abc") .release)]
    let last : Nat × Step := (1, .call "other" .release)
    let steps := before ++ (stretch ++ [last])
    let events := Taken.eventsOn "abc" (p.history steps)
    p.strings = ∅ ∧ p.made = [] ∧ (∀ x ∈ steps, x.2.isBooked = true) ∧
      (p.reported steps).countP Event.isAllocated =
        1 + (p.reported steps).countP Event.isFreed ∧
      (p.Lifetime "abc" steps ∧ ∃ s, (p.after steps).binding? "abc" = some (.counted s) ∧
        s.Booked 2 events ∧ s.refcount.toInt = 1) ∧
      (p.after before).Lifetime "other" stretch ∧
      (Taken.eventsOn "other" ((p.after before).history (stretch ++ [last]))).getLast? =
        some (.freed 3) := by
  intro p before stretch last steps events
  have hsteps : ∀ x ∈ steps, x.2.isBooked = true := by decide
  have habc : p.Lifetime "abc" steps := ⟨by decide, by decide, by decide⟩
  have hother : (p.after before).Lifetime "other" stretch := ⟨by decide, by decide, by decide⟩
  have hgone : "other" ∉ (p.after steps).made := by decide
  have hone : (p.after steps).made = ["abc"] := by decide
  obtain ⟨⟨hbalance, -⟩, ⟨-, haccount⟩, hclosed, -⟩ :=
    log_is_a_ledger (p := p) rfl rfl hsteps
  rw [hone] at hbalance
  obtain ⟨s, capacity, hb, hbooked, -, hcount⟩ := haccount [] steps "abc" rfl habc
  obtain ⟨capacity', hallocated, -, hend⟩ := hclosed before stretch last "other" rfl hother hgone
  have htwo : events.filter Event.isAllocated = [.allocated 2] := by decide
  have howners : Event.owners events = 1 := by decide
  have hthree : (Taken.eventsOn "other" ((p.after before).history (stretch ++ [last]))).filter
      Event.isAllocated = [.allocated 3] := by decide
  cases htwo.symm.trans hbooked.allocated_eq
  cases hthree.symm.trans hallocated
  exact ⟨rfl, rfl, hsteps, hbalance, ⟨habc, s, hb, hbooked, (hcount (by decide)).trans howners⟩,
    hother, hend⟩

/-- **The balance of the owners is not always the count**: a string that got one owner more than the
count word can hold has the lowest count, although none of its owners went. -/
theorem balance_beyond_count_word :
    let p : Program := start (.filledWith 7 64) ⟨∅⟩ [] .silent true
    let steps : List (Nat × Step) :=
      [(0, .make "abc" (.bytes [104, 105]))] ++ List.replicate 2147483648 (0, .call "abc" .retain)
    p.strings = ∅ ∧ p.made = [] ∧ (∀ x ∈ steps, x.2.isBooked = true) ∧ p.Lifetime "abc" steps ∧
      ∃ s, (p.after steps).binding? "abc" = some (.counted s) ∧
        s.refcount.toInt = -2147483648 ∧
        Event.owners (Taken.eventsOn "abc" (p.history steps)) = 2147483648 := by
  intro p steps
  have hborn : (p.after [(0, .make "abc" (.bytes [104, 105]))]).cell "abc" =
      ⟨some (.counted (Str.ofPayload #[104, 105])), true⟩ := rfl
  have hcell := cell_after_retains hborn rfl 0 .library 2147483648
  have howners := owners_after_retains hborn rfl 0 .library 2147483648
  have hstays := made_along_retains hborn rfl 0 .library 2147483648
  rw [← after_append] at hcell
  dsimp only [Door.retain] at hcell howners hstays
  refine ⟨rfl, rfl, List.forall_mem_append.mpr
    ⟨by decide, List.forall_mem_replicate.mpr (Or.inr rfl)⟩,
    ⟨by decide, nofun, along_append.mpr ⟨by decide, hstays⟩⟩, _, binding?_of_cell hcell,
    by decide, ?_⟩
  have hfirst : Event.owners
      (Taken.eventsOn "abc" (p.history [(0, .make "abc" (.bytes [104, 105]))])) = 0 := rfl
  rw [history_append, Taken.eventsOn_append, Event.owners_append, hfirst, howners]
  omega

end Program

end CountedStrings
