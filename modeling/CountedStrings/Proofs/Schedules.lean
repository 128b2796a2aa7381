import CountedStrings.Proofs.Entries
import CountedStrings.Proofs.Independence
import CountedStrings.Proofs.Ownership
import Mathlib.Algebra.BigOperators.Group.Finset.Piecewise
import Mathlib.Algebra.Order.BigOperators.Group.Finset
import Mathlib.Algebra.Order.Ring.Int

/-!
# Sharing threads end alike in every schedule

Some threads share a string, and each of them adds a number of owners and then takes a number of
owners away.  A thread may take away more than it added: it then lives on what others added.  Nobody
controls in which order the threads take their steps.  This file proves that the order does not
matter, as long as what is taken away altogether is not more than what is there: it is enough to
know the total.

## 1.  Acts and their balance

An `OwnerAct` adds an owner or takes one away, and `balance` is what a list of acts adds up to.
`turns` are the acts of one sharing thread.  In the middle of them the balance is at most what it
was after the last owner was added, and at least what it is at the start or at the end, whichever
is less (`le_balance_of_prefix`, `balance_le_of_prefix`).  If it is less at the end, then it is
there for the first time at the end (`lt_balance_of_prefix`).

## 2.  Schedules

`SharedBy` says what the threads do.  The balance of a run is the sum over the threads
(`balance_eq_sum`), so the bounds for the single threads, which hold for every part of a run, are
bounds for every part of every schedule (`SharedBy.le_balance`, `SharedBy.balance_le`,
`SharedBy.lt_balance`).

## 3.  The count word

`binding?_of_acts`: as long as no part of a run brings the count below zero or beyond what a count
word can hold, the count word goes with the balance and nothing is freed.

## 4.  Thread by thread

`shareBetween_of_total` computes what the threads leave if they run one after the other.

## 5.  Every schedule

`every_schedule_ends_alike` puts this together.
-/

namespace CountedStrings

/-! ## 1.  Acts and their balance -/

/-- What a thread does with the owners of a string. -/
inductive OwnerAct where
  | retain
  | release
  deriving DecidableEq

namespace OwnerAct

/-- What an act adds to the number of owners. -/
def change : OwnerAct → Int
  | .retain => 1
  | .release => -1

/-- The step that an act is, through either door. -/
def step (name : String) (door : Door) : OwnerAct → Step
  | .retain => door.retain name
  | .release => door.release name

/-- What a list of acts adds to the number of owners. -/
def balance (acts : List OwnerAct) : Int := (acts.map change).sum

/-- The acts of a thread that first adds owners and then takes owners away. -/
def turns (retains releases : Nat) : List OwnerAct :=
  List.replicate retains .retain ++ List.replicate releases .release

@[simp] theorem balance_nil : balance [] = 0 := rfl

@[simp] theorem balance_cons (a : OwnerAct) (rest : List OwnerAct) :
    balance (a :: rest) = a.change + balance rest := rfl

@[simp] theorem balance_append (first second : List OwnerAct) :
    balance (first ++ second) = balance first + balance second := by
  rw [balance, List.map_append, List.sum_append]
  rfl

@[simp] theorem balance_replicate (n : Nat) (a : OwnerAct) :
    balance (List.replicate n a) = n * a.change := by
  rw [balance, List.map_replicate, List.sum_replicate]
  simp

@[simp] theorem length_turns (retains releases : Nat) :
    (turns retains releases).length = retains + releases := by
  rw [turns, List.length_append, List.length_replicate, List.length_replicate]

theorem balance_turns (retains releases : Nat) :
    balance (turns retains releases) = (retains : Int) - releases := by
  rw [turns, balance_append, balance_replicate, balance_replicate]
  simp only [change]
  omega

section Prefix

variable {acts : List OwnerAct} {retains releases : Nat}

/-- Some of the acts of a thread, from the first on: owners are added until none is to be added any
more, and taken away from then on. -/
theorem balance_of_prefix (h : acts <+: turns retains releases) :
    balance acts = min (acts.length : Int) retains - (acts.length - retains : Nat) := by
  have hlength := h.length_le
  rw [length_turns] at hlength
  have hbalance : balance acts = balance ((turns retains releases).take acts.length) :=
    congrArg balance (List.prefix_iff_eq_take.mp h)
  rw [turns, List.take_append, List.take_replicate, List.take_replicate, balance_append,
    balance_replicate, balance_replicate, List.length_replicate] at hbalance
  simp only [change] at hbalance
  omega

theorem balance_le_of_prefix (h : acts <+: turns retains releases) :
    balance acts ≤ retains := by
  have hbalance := balance_of_prefix h
  omega

theorem le_balance_of_prefix (h : acts <+: turns retains releases) :
    min 0 ((retains : Int) - releases) ≤ balance acts := by
  have hbalance := balance_of_prefix h
  have hlength := h.length_le
  rw [length_turns] at hlength
  omega

/-- A thread that takes away more than it adds has done so only when it is done. -/
theorem lt_balance_of_prefix (h : acts <+: turns retains releases) (hless : retains < releases)
    (hpart : acts.length < retains + releases) : (retains : Int) - releases < balance acts := by
  have hbalance := balance_of_prefix h
  omega

end Prefix

end OwnerAct

/-! ## 2.  Schedules -/

/-- What a step does with the owners of the string under a name. -/
def Step.ownerAct? (name : String) : Step → Option OwnerAct
  | .call n .retain => if n = name then some .retain else none
  | .call n .release => if n = name then some .release else none
  | .callThrough .counted (some n) .retain => if n = name then some .retain else none
  | .callThrough .counted (some n) .release => if n = name then some .release else none
  | _ => none

/-- An act is one of the two steps through one of the two doors. -/
theorem Step.eq_of_ownerAct? {name : String} {s : Step} {a : OwnerAct}
    (h : s.ownerAct? name = some a) : ∃ door : Door, s = a.step name door := by
  unfold ownerAct? at h
  split at h
  · obtain ⟨rfl, ha⟩ := Option.ite_none_right_eq_some.mp h
    cases ha
    exact ⟨.library, rfl⟩
  · obtain ⟨rfl, ha⟩ := Option.ite_none_right_eq_some.mp h
    cases ha
    exact ⟨.library, rfl⟩
  · obtain ⟨rfl, ha⟩ := Option.ite_none_right_eq_some.mp h
    cases ha
    exact ⟨.entryPoint, rfl⟩
  · obtain ⟨rfl, ha⟩ := Option.ite_none_right_eq_some.mp h
    cases ha
    exact ⟨.entryPoint, rfl⟩
  · cases h

/-- A step is about the string with whose owners it does something. -/
theorem Step.subject_of_ownerAct? {name : String} {s : Step} {a : OwnerAct}
    (h : s.ownerAct? name = some a) : s.subject = some name := by
  obtain ⟨door, rfl⟩ := eq_of_ownerAct? h
  cases a <;> cases door <;> rfl

/-- The acts in a list of steps, in order. -/
def actsOn (name : String) (steps : List Step) : List OwnerAct :=
  steps.filterMap (Step.ownerAct? name)

/-- The acts in a run, in order. -/
def actsOf (name : String) (steps : List (Nat × Step)) : List OwnerAct :=
  actsOn name (steps.map Prod.snd)

@[simp] theorem actsOf_append (name : String) (first second : List (Nat × Step)) :
    actsOf name (first ++ second) = actsOf name first ++ actsOf name second := by
  rw [actsOf, actsOn, List.map_append, List.filterMap_append]
  rfl

theorem actsOf_cons (name : String) (x : Nat × Step) (rest : List (Nat × Step)) :
    actsOf name (x :: rest) = (x.2.ownerAct? name).toList ++ actsOf name rest := by
  rw [actsOf, actsOn, List.map_cons, List.filterMap_cons]
  cases x.2.ownerAct? name <;> rfl

theorem actsOf_singleton {name : String} {x : Nat × Step} {a : OwnerAct}
    (h : x.2.ownerAct? name = some a) : actsOf name [x] = [a] := by
  rw [actsOf_cons, h]
  rfl

/-- Steps about something else are no acts. -/
theorem actsOf_eq_nil {name : String} {steps : List (Nat × Step)}
    (h : ∀ x ∈ steps, x.2.subject ≠ some name) : actsOf name steps = [] := by
  rw [actsOf, actsOn, List.filterMap_eq_nil_iff]
  intro s hs
  obtain ⟨x, hx, rfl⟩ := List.mem_map.mp hs
  exact Option.eq_none_iff_forall_ne_some.mpr fun a ha => h x hx (Step.subject_of_ownerAct? ha)

/-- **What happens to the owners in a run is the sum of what its threads do to them.** -/
theorem balance_eq_sum {name : String} {threads : Finset Nat} {steps : List (Nat × Step)}
    (h : ∀ x ∈ steps, x.2.subject = some name → x.1 ∈ threads) :
    OwnerAct.balance (actsOf name steps) =
      ∑ thread ∈ threads, OwnerAct.balance (actsOf name (steps.filter (·.1 = thread))) := by
  induction steps with
  | nil => exact Finset.sum_const_zero.symm
  | cons x rest ih =>
    obtain ⟨hx, hrest⟩ := List.forall_mem_cons.mp h
    -- the first step adds to the balance of its own thread only
    have hpart : ∀ thread, OwnerAct.balance (actsOf name ((x :: rest).filter (·.1 = thread))) =
        (if x.1 = thread then OwnerAct.balance (x.2.ownerAct? name).toList else 0) +
          OwnerAct.balance (actsOf name (rest.filter (·.1 = thread))) := by
      intro thread
      by_cases heq : x.1 = thread
      · rw [List.filter_cons_of_pos (by simpa using heq), actsOf_cons, OwnerAct.balance_append,
          if_pos heq]
      · rw [List.filter_cons_of_neg (by simpa using heq), if_neg heq, Int.zero_add]
    have hfirst : (if x.1 ∈ threads then OwnerAct.balance (x.2.ownerAct? name).toList else 0) =
        OwnerAct.balance (x.2.ownerAct? name).toList := by
      cases hact : x.2.ownerAct? name with
      | none => exact ite_self _
      | some a => exact if_pos (hx (Step.subject_of_ownerAct? hact))
    rw [Finset.sum_congr rfl fun thread _ => hpart thread, Finset.sum_add_distrib,
      Finset.sum_ite_eq, hfirst, ← ih hrest, actsOf_cons, OwnerAct.balance_append]

/-- Some threads share the string under a name: each of them adds a number of owners and then takes
a number of owners away, and does nothing else with the string.  Other threads have nothing to do
with it. -/
structure SharedBy (name : String) (threads : Finset Nat) (retains releases : Nat)
    (lists : Nat → List Step) : Prop where
  actsOn_eq : ∀ thread ∈ threads, actsOn name (lists thread) = OwnerAct.turns retains releases
  isSome_ownerAct? : ∀ thread, ∀ s ∈ lists thread, s.subject = some name →
    (s.ownerAct? name).isSome = true
  mem_threads : ∀ thread, ∀ s ∈ lists thread, s.subject = some name → thread ∈ threads

namespace SharedBy

variable {name : String} {threads : Finset Nat} {retains releases : Nat} {lists : Nat → List Step}
  {steps before rest : List (Nat × Step)}

/-- In a schedule, each thread makes its acts. -/
theorem actsOf_filter (h : SharedBy name threads retains releases lists)
    (hsteps : Interleaves lists steps) {thread : Nat} (hthread : thread ∈ threads) :
    actsOf name (steps.filter (·.1 = thread)) = OwnerAct.turns retains releases := by
  have hlist : (alone thread (lists thread)).map Prod.snd = lists thread := by simp [alone]
  rw [hsteps thread, actsOf, hlist]
  exact h.actsOn_eq thread hthread

/-- In a part of a schedule, each thread makes its first acts. -/
theorem actsOf_prefix (h : SharedBy name threads retains releases lists)
    (hsteps : Interleaves lists (before ++ rest)) {thread : Nat} (hthread : thread ∈ threads) :
    actsOf name (before.filter (·.1 = thread)) <+: OwnerAct.turns retains releases := by
  rw [← h.actsOf_filter hsteps hthread, List.filter_append, actsOf_append]
  exact List.prefix_append _ _

/-- Whoever does something with the string in a schedule is one of the threads. -/
theorem thread_mem (h : SharedBy name threads retains releases lists)
    (hsteps : Interleaves lists steps) :
    ∀ x ∈ steps, x.2.subject = some name → x.1 ∈ threads :=
  fun x hx hname => h.mem_threads x.1 x.2 (hsteps.mem hx) hname

theorem thread_mem_left (h : SharedBy name threads retains releases lists)
    (hsteps : Interleaves lists (before ++ rest)) :
    ∀ x ∈ before, x.2.subject = some name → x.1 ∈ threads :=
  fun x hx => h.thread_mem hsteps x (List.mem_append_left _ hx)

/-- What all threads together do to the owners. -/
theorem balance_eq (h : SharedBy name threads retains releases lists)
    (hsteps : Interleaves lists steps) :
    OwnerAct.balance (actsOf name steps) = threads.card * ((retains : Int) - releases) := by
  have hpart : ∀ thread ∈ threads,
      OwnerAct.balance (actsOf name (steps.filter (·.1 = thread))) = (retains : Int) - releases :=
    fun thread hthread => by rw [h.actsOf_filter hsteps hthread, OwnerAct.balance_turns]
  rw [balance_eq_sum (h.thread_mem hsteps), Finset.sum_congr rfl hpart, Finset.sum_const,
    nsmul_eq_mul]

/-- No part of a schedule adds more owners than all threads add together. -/
theorem balance_le (h : SharedBy name threads retains releases lists)
    (hsteps : Interleaves lists (before ++ rest)) :
    OwnerAct.balance (actsOf name before) ≤ threads.card * retains := by
  rw [balance_eq_sum (h.thread_mem_left hsteps), ← nsmul_eq_mul]
  exact Finset.sum_le_card_nsmul _ _ _ fun thread hthread =>
    OwnerAct.balance_le_of_prefix (h.actsOf_prefix hsteps hthread)

/-- No part of a schedule takes more owners away than all threads together, or than none. -/
theorem le_balance (h : SharedBy name threads retains releases lists)
    (hsteps : Interleaves lists (before ++ rest)) :
    threads.card * min 0 ((retains : Int) - releases) ≤ OwnerAct.balance (actsOf name before) := by
  rw [balance_eq_sum (h.thread_mem_left hsteps), ← nsmul_eq_mul]
  exact Finset.card_nsmul_le_sum _ _ _ fun thread hthread =>
    OwnerAct.le_balance_of_prefix (h.actsOf_prefix hsteps hthread)

/-- As long as some thread is not done, fewer owners were taken away than in the end. -/
theorem lt_balance (h : SharedBy name threads retains releases lists)
    (hsteps : Interleaves lists (before ++ rest)) (hless : retains < releases) {thread : Nat}
    (hthread : thread ∈ threads)
    (hpart : (actsOf name (before.filter (·.1 = thread))).length < retains + releases) :
    threads.card * ((retains : Int) - releases) < OwnerAct.balance (actsOf name before) := by
  have hsum : ∑ _thread ∈ threads, ((retains : Int) - releases) <
      ∑ thread ∈ threads, OwnerAct.balance (actsOf name (before.filter (·.1 = thread))) := by
    refine Finset.sum_lt_sum (fun t ht => ?_) ⟨thread, hthread, ?_⟩
    · have hleast := OwnerAct.le_balance_of_prefix (h.actsOf_prefix hsteps ht)
      omega
    · exact OwnerAct.lt_balance_of_prefix (h.actsOf_prefix hsteps hthread) hless hpart
  rwa [Finset.sum_const, nsmul_eq_mul, ← balance_eq_sum (h.thread_mem_left hsteps)] at hsum

end SharedBy

/-! ## 3.  The count word -/

namespace Program

variable {p : Program} {name : String} {s : Str} {capacity : Nat}

/-- **An act changes the count word by what it adds**, and frees nothing, if the count stays inside
what a count word can hold. -/
theorem step_ownerAct {n : Int32} (hs : p.binding? name = some (.counted (s.withRefcount n)))
    (ho : s.ownedCapacity = some capacity) (thread : Nat) {step : Step} {a : OwnerAct}
    (hact : step.ownerAct? name = some a) (hlow : 0 ≤ n.toInt + a.change)
    (hhigh : n.toInt + a.change ≤ 2147483647) :
    ∃ m : Int32, (p.step thread step).2.binding? name = some (.counted (s.withRefcount m)) ∧
      m.toInt = n.toInt + a.change ∧ ∀ e ∈ (p.step thread step).1.events, e.isFreed = false := by
  obtain ⟨door, rfl⟩ := Step.eq_of_ownerAct? hact
  cases a with
  | retain =>
    have hne : n ≠ maxCount := by
      rintro rfl
      exact absurd hhigh (by decide)
    refine ⟨n + 1, binding?_of_cell (cell_retain hs ho thread door), toInt_add_one hne, ?_⟩
    show ∀ e ∈ (p.step thread (door.retain name)).1.events, _
    rw [events_retain hs ho thread door]
    exact List.forall_mem_singleton.mpr rfl
  | release =>
    have hpos : 0 < n := pos_iff_toInt_pos.mpr (by simp only [OwnerAct.change] at hlow; omega)
    refine ⟨n - 1, binding?_release_of_pos hs ho hpos thread door, toInt_sub_one hpos, ?_⟩
    show ∀ e ∈ (p.step thread (door.release name)).1.events, _
    rw [events_release_of_pos hs ho hpos thread door]
    exact List.forall_mem_singleton.mpr rfl

/-- The release of the last owner frees the string, and that is what it reports. -/
theorem step_last_release (hs : p.binding? name = some (.counted s))
    (ho : s.ownedCapacity = some capacity) (hr : ¬ 0 < s.refcount) (thread : Nat) {step : Step}
    (hact : step.ownerAct? name = some .release) :
    (p.step thread step).2.binding? name = none ∧
      (p.step thread step).1.events = [.freed capacity] := by
  obtain ⟨door, rfl⟩ := Step.eq_of_ownerAct? hact
  exact binding?_release_of_not_pos hs ho hr thread door

/-- **The count word goes with the acts**, and nothing is freed, as long as every part of the run
keeps the count inside what a count word can hold.  What is done elsewhere does not matter. -/
theorem binding?_of_acts (hs : p.binding? name = some (.counted s))
    (ho : s.ownedCapacity = some capacity) {steps : List (Nat × Step)}
    (hacts : ∀ x ∈ steps, x.2.subject = some name → (x.2.ownerAct? name).isSome = true)
    (hroom : ∀ before rest, steps = before ++ rest →
      0 ≤ s.refcount.toInt + OwnerAct.balance (actsOf name before) ∧
        s.refcount.toInt + OwnerAct.balance (actsOf name before) ≤ 2147483647) :
    ∃ n : Int32, (p.after steps).binding? name = some (.counted (s.withRefcount n)) ∧
      n.toInt = s.refcount.toInt + OwnerAct.balance (actsOf name steps) ∧
      ∀ e ∈ Taken.eventsOn name (p.history steps), e.isFreed = false := by
  induction steps using List.reverseRecOn with
  | nil => exact ⟨s.refcount, hs, (Int.add_zero _).symm, by simp [Taken.eventsOn, history]⟩
  | append_singleton before x ih =>
    obtain ⟨hbefore, hx⟩ := List.forall_mem_append.mp hacts
    have hpart : ∀ first rest, before = first ++ rest → before ++ [x] = first ++ (rest ++ [x]) :=
      fun first rest hsplit => by rw [hsplit, List.append_assoc]
    obtain ⟨n, hb, hn, hfreed⟩ := ih hbefore fun first rest hsplit =>
      hroom first (rest ++ [x]) (hpart first rest hsplit)
    rw [after_concat, history_concat]
    by_cases hsubject : x.2.subject = some name
    · obtain ⟨a, hact⟩ := Option.isSome_iff_exists.mp (hx x (List.mem_singleton.mpr rfl) hsubject)
      have hbalance : OwnerAct.balance (actsOf name (before ++ [x])) =
          OwnerAct.balance (actsOf name before) + a.change := by
        rw [actsOf_append, actsOf_singleton hact, OwnerAct.balance_append, OwnerAct.balance_cons,
          OwnerAct.balance_nil, Int.add_zero]
      obtain ⟨hlow, hhigh⟩ := hroom (before ++ [x]) [] (List.append_nil _).symm
      rw [hbalance] at hlow hhigh ⊢
      obtain ⟨m, hstep, hm, hevents⟩ := step_ownerAct hb ho x.1 hact (by omega) (by omega)
      refine ⟨m, hstep, by omega, ?_⟩
      rw [Taken.eventsOn_concat (decide_eq_true hsubject)]
      exact List.forall_mem_append.mpr ⟨hfreed, hevents⟩
    · refine ⟨n, (congrArg Cell.binding (cell_effect_of_ne _ x.1 hsubject)).trans hb, ?_, ?_⟩
      · rw [actsOf_append, actsOf_eq_nil (List.forall_mem_singleton.mpr hsubject), List.append_nil]
        exact hn
      · rw [Taken.eventsOn_concat_of_not (decide_eq_false hsubject)]
        exact hfreed

end Program

/-! ## 4.  Thread by thread -/

namespace Str

variable {s : Str} {capacity : Nat}

/-- Owners that are added one after the other are counted, if there is room for them. -/
theorem retainTimes_of_le (ho : s.ownedCapacity = some capacity) {n : Nat}
    (h : s.refcount.toInt + n ≤ 2147483647) :
    ∃ m : Int32, (retainTimes n s).result = .ok (s.withRefcount m) ∧
      m.toInt = s.refcount.toInt + n := by
  induction n generalizing s with
  | zero => exact ⟨s.refcount, rfl, (Int.add_zero _).symm⟩
  | succ n ih =>
    have hne : s.refcount ≠ maxCount := by
      intro heq
      rw [heq] at h
      have hmax : maxCount.toInt = 2147483647 := rfl
      omega
    have hcount := toInt_add_one hne
    obtain ⟨m, hrun, hm⟩ := ih (s := s.withRefcount (s.refcount + 1)) ho (by
      rw [refcount_withRefcount]
      omega)
    refine ⟨m, ?_, ?_⟩
    · rw [retainTimes, Outcome.bind_ok (congrArg Outcome.result (retain_of_owned ho))]
      exact hrun
    · rw [hm, refcount_withRefcount]
      omega

/-- Owners that are taken away one after the other are counted, as long as there are some left. -/
theorem releaseTimes_of_le (ho : s.ownedCapacity = some capacity) {n : Nat}
    (h : n ≤ s.refcount.toInt) :
    ∃ m : Int32, (releaseTimes n s).result = .ok (.kept (s.withRefcount m)) ∧
      m.toInt = s.refcount.toInt - n := by
  induction n generalizing s with
  | zero => exact ⟨s.refcount, rfl, (Int.sub_zero _).symm⟩
  | succ n ih =>
    have hpos : 0 < s.refcount := pos_iff_toInt_pos.mpr (by omega)
    have hcount := toInt_sub_one hpos
    obtain ⟨m, hrun, hm⟩ := ih (s := s.withRefcount (s.refcount - 1)) ho (by
      rw [refcount_withRefcount]
      omega)
    refine ⟨m, ?_, ?_⟩
    · rw [releaseTimes, Outcome.bind_ok (congrArg Outcome.result (release_of_pos ho hpos))]
      exact hrun
    · rw [hm, refcount_withRefcount]
      omega

/-- If all owners are taken away one after the other, the string is freed. -/
theorem releaseTimes_of_last (ho : s.ownedCapacity = some capacity) {n : Nat}
    (h : (n : Int) = s.refcount.toInt + 1) (hr : 0 ≤ s.refcount.toInt) :
    ∃ block, (releaseTimes n s).result = .ok (.freed block) := by
  induction n generalizing s with
  | zero => omega
  | succ n ih =>
    by_cases hpos : 0 < s.refcount
    · have hcount := toInt_sub_one hpos
      have hsome := pos_iff_toInt_pos.mp hpos
      rw [releaseTimes, Outcome.bind_ok (congrArg Outcome.result (release_of_pos ho hpos))]
      refine ih (s := s.withRefcount (s.refcount - 1)) ho ?_ ?_
      · rw [refcount_withRefcount]
        omega
      · rw [refcount_withRefcount]
        omega
    · obtain ⟨block, -, hfree⟩ := release_of_not_pos ho hpos
      rw [releaseTimes, Outcome.bind_ok (congrArg Outcome.result hfree)]
      exact ⟨block, rfl⟩

variable {retains releases : Nat}

/-- The first of several threads, if it leaves the string there. -/
theorem shareBetween_succ (ho : s.ownedCapacity = some capacity) (threads : Nat)
    (hmax : s.refcount.toInt + retains ≤ 2147483647)
    (hleft : releases ≤ s.refcount.toInt + retains) :
    ∃ m : Int32, (shareBetween (threads + 1) retains releases s).result =
        (shareBetween threads retains releases (s.withRefcount m)).result ∧
      m.toInt = s.refcount.toInt + ((retains : Int) - releases) := by
  obtain ⟨n, hretain, hn⟩ := retainTimes_of_le ho hmax
  obtain ⟨m, hrelease, hm⟩ := releaseTimes_of_le (s := s.withRefcount n) (n := releases) ho (by
    rw [refcount_withRefcount]
    omega)
  refine ⟨m, ?_, ?_⟩
  · rw [shareBetween, Outcome.bind_ok hretain, Outcome.bind_ok hrelease]
    rfl
  · rw [hm, refcount_withRefcount]
    omega

/-- **What threads leave that share a string one after the other.** -/
theorem shareBetween_of_total (ho : s.ownedCapacity = some capacity) {threads : Nat}
    (hr : 0 ≤ s.refcount.toInt) (hmax : s.refcount.toInt + threads * retains ≤ 2147483647)
    (releases : Nat) :
    (0 ≤ s.refcount.toInt + threads * ((retains : Int) - releases) →
      ∃ m : Int32, (shareBetween threads retains releases s).result =
          .ok (.kept (s.withRefcount m)) ∧
        m.toInt = s.refcount.toInt + threads * ((retains : Int) - releases)) ∧
    (s.refcount.toInt + threads * ((retains : Int) - releases) = -1 →
      ∃ block, (shareBetween threads retains releases s).result = .ok (.freed block)) := by
  induction threads generalizing s with
  | zero =>
    rw [Int.natCast_zero, Int.zero_mul, Int.add_zero]
    exact ⟨fun _ => ⟨s.refcount, rfl, rfl⟩, fun h => by omega⟩
  | succ threads ih =>
    have hadd : s.refcount.toInt + (threads + 1 : Nat) * ((retains : Int) - releases) =
        s.refcount.toInt + ((retains : Int) - releases) +
          threads * ((retains : Int) - releases) := by
      rw [Int.natCast_succ, Int.add_mul, Int.one_mul]
      omega
    have hroom : s.refcount.toInt + retains + (threads : Int) * retains ≤ 2147483647 := by
      rw [Int.natCast_succ, Int.add_mul, Int.one_mul] at hmax
      omega
    have hothers : 0 ≤ (threads : Int) * retains :=
      Int.mul_nonneg (Int.natCast_nonneg threads) (Int.natCast_nonneg retains)
    rw [hadd]
    by_cases hleft : (releases : Int) ≤ s.refcount.toInt + retains
    · obtain ⟨m, hrun, hm⟩ := shareBetween_succ ho threads (by omega) hleft
      rw [hrun, ← hm]
      exact ih (s := s.withRefcount m) ho (by rw [refcount_withRefcount]; omega)
        (by rw [refcount_withRefcount]; omega)
    · -- the first thread takes away all owners, and then no other one can take away any
      have hsome : (threads : Int) * ((retains : Int) - releases) ≤ 0 :=
        Int.mul_nonpos_of_nonneg_of_nonpos (by omega) (by omega)
      refine ⟨fun h => by omega, fun h => ?_⟩
      obtain ⟨n, hretain, hn⟩ := retainTimes_of_le (n := retains) ho (by omega)
      obtain ⟨block, hfree⟩ := releaseTimes_of_last (s := s.withRefcount n) (n := releases) ho
        (by rw [refcount_withRefcount]; omega) (by rw [refcount_withRefcount]; omega)
      rw [shareBetween, Outcome.bind_ok hretain, Outcome.bind_ok hfree]
      exact ⟨block, rfl⟩

end Str

/-! ## 5.  Every schedule -/

/-- A list with an element of some kind has a last one. -/
theorem exists_last {α : Type} {P : α → Prop} {l : List α} (h : ∃ x ∈ l, P x) :
    ∃ before x rest, l = before ++ x :: rest ∧ P x ∧ ∀ y ∈ rest, ¬ P y := by
  induction l using List.reverseRecOn with
  | nil =>
    obtain ⟨x, hx, -⟩ := h
    cases hx
  | append_singleton l x ih =>
    by_cases hx : P x
    · exact ⟨l, x, [], rfl, hx, by simp⟩
    · obtain ⟨y, hy, hP⟩ := h
      have hmem : y ∈ l := by
        rcases List.mem_append.mp hy with hy | hy
        · exact hy
        · rw [List.mem_singleton.mp hy] at hP
          exact absurd hP hx
      obtain ⟨before, z, rest, rfl, hz, hrest⟩ := ih ⟨y, hmem, hP⟩
      refine ⟨before, z, rest ++ [x], by simp, hz, ?_⟩
      exact List.forall_mem_append.mpr ⟨hrest, List.forall_mem_singleton.mpr hx⟩

/-- The acts of a thread that takes owners away end with that. -/
theorem OwnerAct.eq_release_of_concat {acts : List OwnerAct} {a : OwnerAct}
    {retains releases : Nat} (h : acts ++ [a] = turns retains releases) (hsome : 0 < releases) :
    a = .release := by
  obtain ⟨n, rfl⟩ := Nat.exists_eq_succ_of_ne_zero (Nat.ne_of_gt hsome)
  rw [turns, List.replicate_succ', ← List.append_assoc] at h
  exact (List.cons.inj (List.append_inj_right' h rfl)).1

/-- **The last of all steps of sharing threads** takes an owner away, and its thread is done only
with it. -/
theorem SharedBy.exists_last {name : String} {threads : Finset Nat} {retains releases : Nat}
    {lists : Nat → List Step} {steps : List (Nat × Step)}
    (h : SharedBy name threads retains releases lists) (hsteps : Interleaves lists steps)
    (hthreads : threads.Nonempty) (hsome : 0 < releases) :
    ∃ before thread s rest, steps = before ++ (thread, s) :: rest ∧
      s.ownerAct? name = some .release ∧ thread ∈ threads ∧
      (∀ y ∈ rest, y.2.subject ≠ some name) ∧
      (actsOf name (before.filter (·.1 = thread))).length + 1 = retains + releases := by
  have hany : ∃ x ∈ steps, x.2.subject = some name := by
    refine Decidable.byContradiction fun hnone => ?_
    obtain ⟨thread, hthread⟩ := hthreads
    have hacts := h.actsOf_filter hsteps hthread
    rw [actsOf_eq_nil fun x hx hname => hnone ⟨x, (List.mem_filter.mp hx).1, hname⟩] at hacts
    have hlength := congrArg List.length hacts
    rw [OwnerAct.length_turns, List.length_nil] at hlength
    omega
  obtain ⟨before, ⟨thread, s⟩, rest, rfl, hname, hrest⟩ := CountedStrings.exists_last hany
  have hmem : (thread, s) ∈ before ++ (thread, s) :: rest := by simp
  have hthread := h.thread_mem hsteps (thread, s) hmem hname
  obtain ⟨a, hact⟩ := Option.isSome_iff_exists.mp
    (h.isSome_ownerAct? thread s (hsteps.mem hmem) hname)
  have hacts : actsOf name (before.filter (·.1 = thread)) ++ [a] =
      OwnerAct.turns retains releases := by
    rw [← h.actsOf_filter hsteps hthread, List.filter_append, actsOf_append,
      List.filter_cons_of_pos (by simp), actsOf_cons, hact,
      actsOf_eq_nil fun x hx => hrest x (List.mem_filter.mp hx).1]
    rfl
  rw [OwnerAct.eq_release_of_concat hacts hsome] at hact
  have hlength := congrArg List.length hacts
  rw [List.length_append, List.length_singleton, OwnerAct.length_turns] at hlength
  exact ⟨before, thread, s, rest, rfl, hact, hthread, hrest, hlength⟩

/-- Before the last of all steps its thread is not done, so fewer owners were taken away than in the
end. -/
theorem SharedBy.lt_balance_of_last {name : String} {threads : Finset Nat} {retains releases : Nat}
    {lists : Nat → List Step} {before rest first later : List (Nat × Step)} {thread : Nat}
    {s : Step} (h : SharedBy name threads retains releases lists)
    (hsteps : Interleaves lists (before ++ (thread, s) :: rest)) (hless : retains < releases)
    (hthread : thread ∈ threads)
    (hlength : (actsOf name (before.filter (·.1 = thread))).length + 1 = retains + releases)
    (hsplit : before = first ++ later) :
    threads.card * ((retains : Int) - releases) < OwnerAct.balance (actsOf name first) := by
  subst hsplit
  rw [List.append_assoc] at hsteps
  rw [List.filter_append, actsOf_append, List.length_append] at hlength
  exact h.lt_balance hsteps hless hthread (by omega)

/-- Only threads that take away more than they add can have a negative balance. -/
theorem pos_and_lt_of_mul_neg {threads retains releases : Nat}
    (h : (threads : Int) * ((retains : Int) - releases) < 0) :
    0 < threads ∧ retains < releases := by
  refine ⟨Nat.pos_of_ne_zero ?_, Nat.lt_of_not_le fun hmore => ?_⟩
  · rintro rfl
    rw [Int.natCast_zero, Int.zero_mul] at h
    exact Int.lt_irrefl 0 h
  · have hnonneg : 0 ≤ (threads : Int) * ((retains : Int) - releases) :=
      Int.mul_nonneg (Int.natCast_nonneg threads) (by omega)
    omega

namespace Program

variable {p : Program} {name : String} {s : Str} {capacity : Nat} {threads : Finset Nat}
  {retains releases : Nat} {lists : Nat → List Step} {steps : List (Nat × Step)}

/-- Whether a name stands for a string that differs from a given one in its count word only, and
has a given count. -/
def HasCount (p : Program) (name : String) (s : Str) (count : Int) : Prop :=
  ∃ t, p.binding? name = some (.counted t) ∧ t.refcount.toInt = count ∧ t.info = s.info ∧
    t.storage = s.storage

/-- Strings that differ in their count words only are the same if they have the same count. -/
theorem HasCount.binding?_eq {q : Program} {count : Int} (hp : p.HasCount name s count)
    (hq : q.HasCount name s count) : p.binding? name = q.binding? name := by
  obtain ⟨⟨r, i, b⟩, ht, hr, rfl, rfl⟩ := hp
  obtain ⟨⟨r', i', b'⟩, hu, hr', rfl, rfl⟩ := hq
  obtain rfl : r = r' := Int32.toInt_inj.mp (hr.trans hr'.symm)
  rw [ht, hu]

/-- A run without steps about a name reports nothing about it. -/
theorem eventsOn_history_of_ne (p : Program) {steps : List (Nat × Step)}
    (h : ∀ x ∈ steps, x.2.subject ≠ some name) : Taken.eventsOn name (p.history steps) = [] := by
  induction steps using List.reverseRecOn with
  | nil => rfl
  | append_singleton before x ih =>
    obtain ⟨hbefore, hx⟩ := List.forall_mem_append.mp h
    rw [history_concat, Taken.eventsOn_concat_of_not
      (decide_eq_false (hx x (List.mem_singleton.mpr rfl))), ih hbefore]

/-- A run reports nothing about a name after the last step about it. -/
theorem eventsOn_history_of_last (p : Program) {before rest : List (Nat × Step)} {thread : Nat}
    {step : Step} (hname : step.subject = some name)
    (hrest : ∀ x ∈ rest, x.2.subject ≠ some name) :
    Taken.eventsOn name (p.history (before ++ (thread, step) :: rest)) =
      Taken.eventsOn name (p.history before) ++ ((p.after before).step thread step).1.events := by
  rw [List.append_cons, history_append, Taken.eventsOn_append, eventsOn_history_of_ne _ hrest,
    List.append_nil, history_concat, Taken.eventsOn_concat (decide_eq_true hname)]

/-- What threads leave that share a string one after the other. -/
theorem binding?_share (hs : p.binding? name = some (.counted s)) (thread : Nat)
    {left : Release}
    (hrun : (Str.shareBetween threads.card retains releases s).result = .ok left) :
    (p.step thread (.call name (.share threads.card retains releases))).2.binding? name =
      left.remaining.map .counted := by
  have hcall : (StrCall.run s (.share threads.card retains releases)).result =
      .ok (left.remaining, .done) := by
    rw [StrCall.run, Outcome.bind_ok hrun]
    rfl
  show (p.call name (.share threads.card retains releases)).after.binding? name = _
  rw [call_of_ok hs rfl hcall]
  exact p.binding?_leave name _

section Shared

variable (hs : p.binding? name = some (.counted s)) (ho : s.ownedCapacity = some capacity)
  (hr : 0 ≤ s.refcount.toInt) (hmax : s.refcount.toInt + threads.card * retains ≤ 2147483647)
  (hshared : SharedBy name threads retains releases lists)

include hs ho hmax hshared

/-- In a part of a schedule, the count goes with the acts, as long as none of its parts brings it
below zero. -/
theorem hasCount_of_part {part rest : List (Nat × Step)}
    (hsteps : Interleaves lists (part ++ rest))
    (hlow : ∀ first later, part = first ++ later →
      0 ≤ s.refcount.toInt + OwnerAct.balance (actsOf name first)) :
    (p.after part).HasCount name s (s.refcount.toInt + OwnerAct.balance (actsOf name part)) ∧
      ∀ e ∈ Taken.eventsOn name (p.history part), e.isFreed = false := by
  have hacts : ∀ x ∈ part, x.2.subject = some name → (x.2.ownerAct? name).isSome = true :=
    fun x hx => hshared.isSome_ownerAct? x.1 x.2 (hsteps.mem (List.mem_append_left _ hx))
  obtain ⟨n, hb, hn, hfreed⟩ := binding?_of_acts hs ho hacts fun first later hsplit => by
    have hparts : part ++ rest = first ++ (later ++ rest) := by rw [hsplit, List.append_assoc]
    have hmost := hshared.balance_le (hparts ▸ hsteps)
    exact ⟨hlow first later hsplit, by omega⟩
  exact ⟨⟨_, hb, hn, rfl, rfl⟩, hfreed⟩

/-- The same for every part of a part. -/
theorem exists_hasCount {part rest : List (Nat × Step)}
    (hsteps : Interleaves lists (part ++ rest))
    (hlow : ∀ first later, part = first ++ later →
      0 ≤ s.refcount.toInt + OwnerAct.balance (actsOf name first)) :
    ∀ first later, part = first ++ later →
      ∃ count, 0 ≤ count ∧ (p.after first).HasCount name s count := by
  rintro first later rfl
  have hfirst : ∀ before later', first = before ++ later' →
      0 ≤ s.refcount.toInt + OwnerAct.balance (actsOf name before) :=
    fun before later' hsplit => hlow before (later' ++ later) (by rw [hsplit, List.append_assoc])
  have hfirst' : Interleaves lists (first ++ (later ++ rest)) := by rwa [← List.append_assoc]
  have hcount := hasCount_of_part hs ho hmax hshared hfirst' hfirst
  exact ⟨_, hfirst first [] (List.append_nil _).symm, hcount.1⟩

include hr

/-- If the total is not negative, no schedule frees the string, and all of them leave it with the
total as its count. -/
theorem stays_of_total_nonneg (hsteps : Interleaves lists steps)
    (htotal : 0 ≤ s.refcount.toInt + threads.card * ((retains : Int) - releases)) :
    (∀ before rest, steps = before ++ rest →
      ∃ count, 0 ≤ count ∧ (p.after before).HasCount name s count) ∧
    (∀ e ∈ Taken.eventsOn name (p.history steps), e.isFreed = false) ∧
    (p.after steps).HasCount name s
      (s.refcount.toInt + threads.card * ((retains : Int) - releases)) := by
  have hlow : ∀ before rest, steps = before ++ rest →
      0 ≤ s.refcount.toInt + OwnerAct.balance (actsOf name before) := by
    rintro before rest rfl
    have hleast := hshared.le_balance hsteps
    rcases Int.le_total 0 ((retains : Int) - releases) with hmore | hless
    · rw [Int.min_eq_left hmore, Int.mul_zero] at hleast
      omega
    · rw [Int.min_eq_right hless] at hleast
      omega
  have hall : Interleaves lists (steps ++ []) := by rwa [List.append_nil]
  obtain ⟨hend, hfreed⟩ := hasCount_of_part hs ho hmax hshared hall hlow
  rw [hshared.balance_eq hsteps] at hend
  exact ⟨exists_hasCount hs ho hmax hshared hall hlow, hfreed, hend⟩

/-- If the total is -1, every schedule frees the string once, and with its last step that is about
the string. -/
theorem freed_of_total_neg_one (hsteps : Interleaves lists steps)
    (htotal : s.refcount.toInt + threads.card * ((retains : Int) - releases) = -1) :
    ∃ before thread step rest, steps = before ++ (thread, step) :: rest ∧
      step.ownerAct? name = some .release ∧
      (∀ first later, before = first ++ later →
        ∃ count, 0 ≤ count ∧ (p.after first).HasCount name s count) ∧
      ((p.after before).step thread step).1.events = [.freed capacity] ∧
      (∀ y ∈ rest, y.2.subject ≠ some name) ∧
      (Taken.eventsOn name (p.history steps)).filter Event.isFreed = [.freed capacity] ∧
      (p.after steps).binding? name = none := by
  obtain ⟨hthreads, hless⟩ := pos_and_lt_of_mul_neg
    (show (threads.card : Int) * ((retains : Int) - releases) < 0 by omega)
  obtain ⟨before, thread, step, rest, rfl, hact, hthread, hrest, hlength⟩ :=
    hshared.exists_last hsteps (Finset.card_pos.mp hthreads) (by omega)
  have hlow : ∀ first later, before = first ++ later →
      0 ≤ s.refcount.toInt + OwnerAct.balance (actsOf name first) := by
    intro first later hsplit
    have hmore := hshared.lt_balance_of_last hsteps hless hthread hlength hsplit
    omega
  obtain ⟨⟨t, hb, hcount, hinfo, hstorage⟩, hfreed⟩ :=
    hasCount_of_part hs ho hmax hshared hsteps hlow
  have hzero : ¬ 0 < t.refcount := by
    have hall := hshared.balance_eq hsteps
    rw [actsOf_append, actsOf_cons, hact, actsOf_eq_nil hrest, OwnerAct.balance_append] at hall
    have hlast : OwnerAct.balance ((some OwnerAct.release).toList ++ []) = -1 := rfl
    rw [pos_iff_toInt_pos]
    omega
  have hto : t.ownedCapacity = some capacity := by
    rw [Str.ownedCapacity, hinfo]
    exact ho
  obtain ⟨hgone, hevents⟩ := step_last_release hb hto hzero thread hact
  refine ⟨before, thread, step, rest, rfl, hact, exists_hasCount hs ho hmax hshared hsteps hlow,
    hevents, hrest, ?_, ?_⟩
  · have hnone : (Taken.eventsOn name (p.history before)).filter Event.isFreed = [] :=
      List.filter_eq_nil_iff.mpr fun e he => Bool.eq_false_iff.mp (hfreed e he)
    rw [eventsOn_history_of_last p (Step.subject_of_ownerAct? hact) hrest, hevents,
      List.filter_append, hnone]
    rfl
  · rw [after_append, after_cons]
    exact (congrArg Cell.binding (cell_after_of_ne _ hrest)).trans hgone

end Shared

/-- **Sharing threads end alike in every schedule.**  Let a string of the library have a count that
is not negative.  Let some threads share it: each of them adds a number of owners and then takes a
number of owners away, through the library or the entry points, in steps that nothing divides, and
in between it may do anything elsewhere.  Let the count word have room for all owners that are
added.  Then all that matters is the total, and not the schedule:

* If the total is not negative, then no step frees the string, its count is never negative, and it
  is the total in the end; the string is otherwise as it was.
* If the total is -1, then the string is freed exactly once, by the last of all steps that are about
  it; until then it is there, its count is never negative, and it is otherwise as it was.
* So what is left is what is left if the threads take their turns one after the other. -/
theorem every_schedule_ends_alike (hs : p.binding? name = some (.counted s))
    (ho : s.ownedCapacity = some capacity) (hr : 0 ≤ s.refcount.toInt)
    (hmax : s.refcount.toInt + threads.card * retains ≤ 2147483647)
    (hshared : SharedBy name threads retains releases lists) (hsteps : Interleaves lists steps) :
    let total : Int := s.refcount.toInt + threads.card * ((retains : Int) - releases)
    (0 ≤ total →
      (∀ before rest, steps = before ++ rest →
        ∃ count, 0 ≤ count ∧ (p.after before).HasCount name s count) ∧
      (∀ e ∈ Taken.eventsOn name (p.history steps), e.isFreed = false) ∧
      (p.after steps).HasCount name s total) ∧
    (total = -1 →
      ∃ before thread step rest, steps = before ++ (thread, step) :: rest ∧
        step.ownerAct? name = some .release ∧
        (∀ first later, before = first ++ later →
          ∃ count, 0 ≤ count ∧ (p.after first).HasCount name s count) ∧
        ((p.after before).step thread step).1.events = [.freed capacity] ∧
        (∀ y ∈ rest, y.2.subject ≠ some name) ∧
        (Taken.eventsOn name (p.history steps)).filter Event.isFreed = [.freed capacity] ∧
        (p.after steps).binding? name = none) ∧
    (0 ≤ total ∨ total = -1 → ∀ thread, (p.after steps).binding? name =
      (p.step thread (.call name (.share threads.card retains releases))).2.binding? name) := by
  intro total
  have hstays : 0 ≤ total → _ := stays_of_total_nonneg hs ho hr hmax hshared hsteps
  have hgone : total = -1 → _ := freed_of_total_neg_one hs ho hr hmax hshared hsteps
  obtain ⟨hkept, hfreed⟩ := Str.shareBetween_of_total ho hr hmax releases
  refine ⟨hstays, hgone, ?_⟩
  rintro (htotal | htotal) thread
  · obtain ⟨m, hrun, hm⟩ := hkept htotal
    exact (hstays htotal).2.2.binding?_eq ⟨_, binding?_share hs thread hrun, hm, rfl, rfl⟩
  · obtain ⟨block, hrun⟩ := hfreed htotal
    obtain ⟨-, -, -, -, -, -, -, -, -, -, hnone⟩ := hgone htotal
    rw [binding?_share hs thread hrun, hnone]
    rfl

/-- Three threads take away two owners for each that they add.  Two of them share one string, which
nobody keeps; the other one has a string of its own, of which the first owner is left. -/
theorem schedule_of_three_threads :
    let s : Str := ⟨1, ownedInfo 3, #[97, 98, 99, 0]⟩
    let p : Program :=
      ((start (.filledWith 7 64) ⟨∅⟩ [] .silent true).bindMade "abc" s).bindMade "other" s
    let lists : Nat → List Step := fun
      | 0 => [.callThrough .counted (some "abc") .retain, .call "abc" .release, .readSlot,
          .call "abc" .release]
      | 1 => [.call "abc" .retain, .callThrough .counted (some "abc") .release,
          .call "abc" .release]
      | 2 => [.call "other" .retain, .call "other" .release, .call "other" .release]
      | _ => []
    let steps : List (Nat × Step) :=
      [(1, .call "abc" .retain), (0, .callThrough .counted (some "abc") .retain),
        (2, .call "other" .retain), (0, .call "abc" .release), (0, .readSlot),
        (0, .call "abc" .release), (1, .callThrough .counted (some "abc") .release),
        (2, .call "other" .release), (1, .call "abc" .release), (2, .call "other" .release)]
    SharedBy "abc" {0, 1} 1 2 lists ∧ SharedBy "other" {2} 1 2 lists ∧ Interleaves lists steps ∧
      (Taken.eventsOn "abc" (p.history steps)).filter Event.isFreed = [.freed 3] ∧
      (p.after steps).binding? "abc" = none ∧
      (∀ e ∈ Taken.eventsOn "other" (p.history steps), e.isFreed = false) ∧
      (p.after steps).HasCount "other" s 0 ∧
      (p.after steps).binding? "other" =
        (p.step 0 (.call "other" (.share 1 1 2))).2.binding? "other" := by
  intro s p lists steps
  have hsteps : Interleaves lists steps := by
    rintro (_ | _ | _ | thread) <;> rfl
  have habc : SharedBy "abc" {0, 1} 1 2 lists := by
    refine ⟨by decide, ?_, ?_⟩
    · rintro (_ | _ | _ | thread)
      iterate 3 decide
      exact fun s hs => absurd hs List.not_mem_nil
    · rintro (_ | _ | _ | thread)
      iterate 3 decide
      exact fun s hs => absurd hs List.not_mem_nil
  have hother : SharedBy "other" {2} 1 2 lists := by
    refine ⟨by decide, ?_, ?_⟩
    · rintro (_ | _ | _ | thread)
      iterate 3 decide
      exact fun s hs => absurd hs List.not_mem_nil
    · rintro (_ | _ | _ | thread)
      iterate 3 decide
      exact fun s hs => absurd hs List.not_mem_nil
  have hp : p.binding? "abc" = some (.counted s) ∧ p.binding? "other" = some (.counted s) := by
    decide
  have ho : s.ownedCapacity = some 3 := by decide
  obtain ⟨-, hgone, -⟩ :=
    every_schedule_ends_alike hp.1 ho (by decide) (by decide) habc hsteps
  obtain ⟨hstays, -, halone⟩ :=
    every_schedule_ends_alike hp.2 ho (by decide) (by decide) hother hsteps
  obtain ⟨-, hnone, hcount⟩ := hstays (by decide)
  obtain ⟨-, -, -, -, -, -, -, -, -, hfreed, habsent⟩ := hgone (by decide)
  exact ⟨habc, hother, hsteps, hfreed, habsent, hnone, hcount, halone (Or.inl (by decide)) 0⟩

end Program

end CountedStrings
