import CountedStrings.Proofs.Doors
import Mathlib.Data.Multiset.AddSub

/-!
# The last owner frees a string

Threads that share a counted string hold references to it.  A thread that holds a reference may make
another one, give one up, or pass one to another thread, and the threads do so in any order, with
anything else happening in between that is not about the string.  Nobody sees all references: the
string itself only has a count word.  This file proves that the count word is enough.

## 1.  References and moves

A `Sharing` is a process with the threads that hold references, each as often as it holds one.
`Move` lists what threads may do, `Move.Allowed` when they may: only a holder retains, releases or
passes, and no owner is added where the count word is at its limit.  `Sharing.play` makes the moves
of a list.

## 2.  The accounting

`Sharing.Accounts` says that the string is there exactly as long as somebody holds a reference, that
its count is one less than the number of references, and that it is otherwise as it was.
`Accounts.perform`: every allowed move keeps this.

## 3.  Schedules

`freed_exactly_by_last_release`: along every allowed list of moves the accounting holds at every
point; the release that gives up the last reference frees the string, no other move does, and
nothing is done with the string afterwards.
-/

namespace CountedStrings

/-! ## 1.  References and moves -/

/-- What a thread may do while strings are shared. -/
inductive Move where
  /-- A thread makes another reference for itself. -/
  | retain (thread : Nat) (door : Door)
  /-- A thread gives up a reference. -/
  | release (thread : Nat) (door : Door)
  /-- A thread passes a reference to another one. -/
  | pass (giver taker : Nat)
  /-- A thread takes any step that is not about the string. -/
  | elsewhere (thread : Nat) (s : Step)

/-- A process, and the threads that hold references to one of its strings, each as often as it holds
one. -/
structure Sharing where
  program : Program
  holders : Multiset Nat

namespace Move

/-- What a move leaves. -/
def perform (name : String) (σ : Sharing) : Move → Sharing
  | .retain thread door => ⟨(σ.program.step thread (door.retain name)).2, thread ::ₘ σ.holders⟩
  | .release thread door =>
    ⟨(σ.program.step thread (door.release name)).2, σ.holders.erase thread⟩
  | .pass giver taker => ⟨σ.program, taker ::ₘ σ.holders.erase giver⟩
  | .elsewhere thread s => ⟨(σ.program.step thread s).2, σ.holders⟩

/-- What a move reports. -/
def events (name : String) (σ : Sharing) : Move → List Event
  | .retain thread door => (σ.program.step thread (door.retain name)).1.events
  | .release thread door => (σ.program.step thread (door.release name)).1.events
  | .pass _ _ => []
  | .elsewhere thread s => (σ.program.step thread s).1.events

/-- When a move may be made: only a holder of a reference does something with it, and there is room
in the count word for one owner more. -/
def Allowed (name : String) (σ : Sharing) : Move → Prop
  | .retain thread _ => thread ∈ σ.holders ∧ σ.program.count? name ≠ some maxCount
  | .release thread _ => thread ∈ σ.holders
  | .pass giver _ => giver ∈ σ.holders
  | .elsewhere _ s => s.subject ≠ some name

instance (name : String) (σ : Sharing) : (m : Move) → Decidable (m.Allowed name σ)
  | .retain _ _ => inferInstanceAs (Decidable (_ ∧ _))
  | .release thread _ => inferInstanceAs (Decidable (thread ∈ σ.holders))
  | .pass giver _ => inferInstanceAs (Decidable (giver ∈ σ.holders))
  | .elsewhere _ s => inferInstanceAs (Decidable (s.subject ≠ some name))

/-- Whether a move gives up a reference. -/
def isRelease : Move → Bool
  | .release _ _ => true
  | _ => false

/-- Whether a move has nothing to do with the string. -/
def isElsewhere : Move → Bool
  | .elsewhere _ _ => true
  | _ => false

/-- Whether a move frees the string: it was there before, and is not there afterwards. -/
def Frees (name : String) (σ : Sharing) (m : Move) : Prop :=
  σ.program.binding? name ≠ none ∧ (m.perform name σ).program.binding? name = none

instance (name : String) (σ : Sharing) (m : Move) : Decidable (m.Frees name σ) :=
  inferInstanceAs (Decidable (_ ∧ _))

end Move

namespace Sharing

/-- What the moves of a list leave. -/
def play (name : String) (σ : Sharing) (moves : List Move) : Sharing :=
  moves.foldl (fun σ m => m.perform name σ) σ

/-- Every move of a list may be made when its turn comes. -/
def Allowed (name : String) (σ : Sharing) : List Move → Prop
  | [] => True
  | m :: rest => m.Allowed name σ ∧ Allowed name (m.perform name σ) rest

/-- How many moves of a list free the string. -/
def frees (name : String) (σ : Sharing) : List Move → Nat
  | [] => 0
  | m :: rest => (if m.Frees name σ then 1 else 0) + frees name (m.perform name σ) rest

instance decidableAllowed (name : String) :
    (σ : Sharing) → (moves : List Move) → Decidable (σ.Allowed name moves)
  | _, [] => isTrue trivial
  | σ, m :: rest =>
    have := decidableAllowed name (m.perform name σ) rest
    inferInstanceAs (Decidable (_ ∧ _))

theorem play_cons (name : String) (σ : Sharing) (m : Move) (rest : List Move) :
    σ.play name (m :: rest) = (m.perform name σ).play name rest := rfl

theorem allowed_append {name : String} {σ : Sharing} {first second : List Move} :
    σ.Allowed name (first ++ second) ↔
      σ.Allowed name first ∧ (σ.play name first).Allowed name second := by
  induction first generalizing σ with
  | nil => simp [Allowed, play]
  | cons m rest ih =>
    rw [List.cons_append, Allowed, ih, Allowed, play_cons, and_assoc]

/-! ## 2.  The accounting -/

/-- The books of a shared string: it is there as long as somebody holds a reference to it, its count
is one less than the number of references, and otherwise it is as it was. -/
inductive Accounts (name : String) (s : Str) (σ : Sharing) : Prop
  | held (n : Int32) (hb : σ.program.binding? name = some (.counted (s.withRefcount n)))
      (hn : 0 ≤ n.toInt) (hh : (σ.holders.card : Int) = n.toInt + 1)
  | gone (hb : σ.program.binding? name = none) (hh : σ.holders = 0)

end Sharing

namespace Sharing

variable {name : String} {s : Str} {σ : Sharing}

/-- By the books, a string is gone exactly when nobody holds a reference to it. -/
theorem Accounts.binding?_eq_none_iff (h : Accounts name s σ) :
    σ.program.binding? name = none ↔ σ.holders = 0 := by
  cases h with
  | held n hb hn hh =>
    rw [hb]
    constructor
    · intro h0
      cases h0
    · intro h0
      rw [h0, Multiset.card_zero] at hh
      omega
  | gone hb hh => exact ⟨fun _ => hh, fun _ => hb⟩

/-- By the books, a string to which somebody holds a reference is there. -/
theorem Accounts.exists_of_mem (h : Accounts name s σ) {thread : Nat}
    (hmem : thread ∈ σ.holders) :
    ∃ n, σ.program.binding? name = some (.counted (s.withRefcount n)) ∧ 0 ≤ n.toInt ∧
      (σ.holders.card : Int) = n.toInt + 1 := by
  cases h with
  | held n hb hn hh => exact ⟨n, hb, hn, hh⟩
  | gone hb hh =>
    rw [hh] at hmem
    exact absurd hmem (Multiset.notMem_zero thread)

/-- **Every allowed move keeps the books.** -/
theorem Accounts.perform {capacity : Nat} (h : Accounts name s σ)
    (ho : s.ownedCapacity = some capacity) {m : Move} (hm : m.Allowed name σ) :
    Accounts name s (m.perform name σ) := by
  cases m with
  | retain thread door =>
    obtain ⟨n, hb, hn, hh⟩ := h.exists_of_mem hm.1
    have hroom : n ≠ maxCount := by
      intro hmax
      exact hm.2 ((Program.count?_of_counted hb).trans (congrArg some hmax))
    have hb' := Program.binding?_of_cell (Program.cell_retain hb ho thread door)
    refine Accounts.held (n + 1) hb' ?_ ?_
    · rw [toInt_add_one hroom]
      omega
    · rw [toInt_add_one hroom, Move.perform, Multiset.card_cons]
      omega
  | release thread door =>
    obtain ⟨n, hb, hn, hh⟩ := h.exists_of_mem hm
    have hcard := Multiset.card_erase_add_one (show thread ∈ σ.holders from hm)
    by_cases hr : 0 < n
    · refine Accounts.held (n - 1) (Program.binding?_release_of_pos hb ho hr thread door) ?_ ?_
      · have := pos_iff_toInt_pos.mp hr
        rw [toInt_sub_one hr]
        omega
      · rw [toInt_sub_one hr, Move.perform]
        show ((σ.holders.erase thread).card : Int) = _
        omega
    · refine Accounts.gone (Program.binding?_release_of_not_pos hb ho hr thread door).1 ?_
      have hle : n.toInt ≤ 0 := Int.not_lt.mp fun hpos => hr (pos_iff_toInt_pos.mpr hpos)
      exact Multiset.card_eq_zero.mp (show (σ.holders.erase thread).card = 0 by omega)
  | pass giver taker =>
    obtain ⟨n, hb, hn, hh⟩ := h.exists_of_mem (show giver ∈ σ.holders from hm)
    have hcard := Multiset.card_erase_add_one (show giver ∈ σ.holders from hm)
    refine Accounts.held n hb hn ?_
    rw [Move.perform, Multiset.card_cons]
    omega
  | elsewhere thread step =>
    have hcell := congrArg Cell.binding (σ.program.cell_effect_of_ne thread hm)
    cases h with
    | held n hb hn hh => exact Accounts.held n (hcell.trans hb) hn hh
    | gone hb hh => exact Accounts.gone (hcell.trans hb) hh

/-- The books are kept along every allowed list of moves. -/
theorem Accounts.play {capacity : Nat} (ho : s.ownedCapacity = some capacity) {moves : List Move}
    (h : Accounts name s σ) (hm : σ.Allowed name moves) : Accounts name s (σ.play name moves) := by
  induction moves generalizing σ with
  | nil => exact h
  | cons m rest ih => exact ih (h.perform ho hm.1) hm.2

/-! ## 3.  Schedules -/

/-- The move that frees is the release that leaves nobody with a reference. -/
theorem Accounts.frees_iff {capacity : Nat} (h : Accounts name s σ)
    (ho : s.ownedCapacity = some capacity) {m : Move} (hm : m.Allowed name σ) :
    m.Frees name σ ↔ m.isRelease = true ∧ (m.perform name σ).holders = 0 := by
  rw [Move.Frees, Ne, h.binding?_eq_none_iff, (h.perform ho hm).binding?_eq_none_iff]
  constructor
  · rintro ⟨hsome, hnone⟩
    refine ⟨?_, hnone⟩
    cases m with
    | retain thread door => exact absurd hnone Multiset.cons_ne_zero
    | release thread door => rfl
    | pass giver taker => exact absurd hnone Multiset.cons_ne_zero
    | elsewhere thread step => exact absurd hnone hsome
  · rintro ⟨hrelease, hnone⟩
    refine ⟨?_, hnone⟩
    cases m with
    | release thread door =>
      intro h0
      rw [Move.Allowed, h0] at hm
      exact Multiset.notMem_zero thread hm
    | retain thread door => cases hrelease
    | pass giver taker => cases hrelease
    | elsewhere thread step => cases hrelease

/-- The move that frees reports the capacity of the string, and nothing else. -/
theorem Accounts.events_of_frees {capacity : Nat} (h : Accounts name s σ)
    (ho : s.ownedCapacity = some capacity) {m : Move} (hm : m.Allowed name σ)
    (hfrees : m.Frees name σ) : m.events name σ = [.freed capacity] := by
  obtain ⟨hrelease, hnone⟩ := (h.frees_iff ho hm).mp hfrees
  cases m with
  | release thread door =>
    obtain ⟨n, hb, hn, hh⟩ := h.exists_of_mem hm
    by_cases hr : 0 < n
    · have hthere := Program.binding?_release_of_pos hb ho hr thread door
      cases hthere.symm.trans hfrees.2
    · exact (Program.binding?_release_of_not_pos hb ho hr thread door).2
  | retain thread door => cases hrelease
  | pass giver taker => cases hrelease
  | elsewhere thread step => cases hrelease

/-- Where nobody holds a reference, nothing can be done with the string any more. -/
theorem isElsewhere_of_gone {moves : List Move} (h : σ.holders = 0)
    (hm : σ.Allowed name moves) : ∀ m ∈ moves, m.isElsewhere = true := by
  induction moves generalizing σ with
  | nil => simp
  | cons m rest ih =>
    obtain ⟨hfirst, hrest⟩ := hm
    have helse : m.isElsewhere = true ∧ (m.perform name σ).holders = 0 := by
      cases m with
      | retain thread door =>
        rw [Move.Allowed, h] at hfirst
        exact absurd hfirst.1 (Multiset.notMem_zero thread)
      | release thread door =>
        rw [Move.Allowed, h] at hfirst
        exact absurd hfirst (Multiset.notMem_zero thread)
      | pass giver taker =>
        rw [Move.Allowed, h] at hfirst
        exact absurd hfirst (Multiset.notMem_zero giver)
      | elsewhere thread step => exact ⟨rfl, h⟩
    intro m' hm'
    rcases List.mem_cons.mp hm' with rfl | hm'
    · exact helse.1
    · exact ih helse.2 hrest m' hm'

/-- Nobody gets a reference out of nothing. -/
theorem holders_play_of_gone {moves : List Move} (h : σ.holders = 0)
    (hm : σ.Allowed name moves) : (σ.play name moves).holders = 0 := by
  induction moves generalizing σ with
  | nil => exact h
  | cons m rest ih =>
    have helse := isElsewhere_of_gone h hm m List.mem_cons_self
    cases m with
    | elsewhere thread step => exact ih h hm.2
    | retain thread door => cases helse
    | release thread door => cases helse
    | pass giver taker => cases helse

/-- A string to which there are references is freed once if they are all given up, and not at all
otherwise. -/
theorem Accounts.frees_eq {capacity : Nat} (ho : s.ownedCapacity = some capacity)
    {moves : List Move} (h : Accounts name s σ) (hm : σ.Allowed name moves) :
    σ.frees name moves =
      if σ.holders ≠ 0 ∧ (σ.play name moves).holders = 0 then 1 else 0 := by
  induction moves generalizing σ with
  | nil =>
    have hnot : ¬(σ.holders ≠ 0 ∧ σ.holders = 0) := fun hboth => hboth.1 hboth.2
    rw [frees, Sharing.play, List.foldl_nil, if_neg hnot]
  | cons m rest ih =>
    have hnext := h.perform ho hm.1
    rw [frees, ih hnext hm.2, play_cons]
    have hfrees : m.Frees name σ ↔ σ.holders ≠ 0 ∧ (m.perform name σ).holders = 0 := by
      rw [Move.Frees, Ne, h.binding?_eq_none_iff, hnext.binding?_eq_none_iff]
    by_cases hnow : (m.perform name σ).holders = 0
    · -- freed by now, so the rest of the moves has nothing left to free
      have hend := holders_play_of_gone hnow hm.2
      by_cases hbefore : σ.holders = 0 <;> simp [hfrees, hnow, hend, hbefore]
    · have hbefore : σ.holders ≠ 0 := by
        intro h0
        have hlone : σ.Allowed name [m] := ⟨hm.1, trivial⟩
        exact hnow (holders_play_of_gone h0 hlone)
      simp [hfrees, hnow, hbefore]

/-- **The last owner frees a string, and nobody else.**  Let a counted string have one reference
more than its count word says, however they are distributed over threads.  Along every allowed list
of moves:

* as long as there is a reference, the string is there, its count word is one less than the number
  of references, and its info word and its bytes are as they were;
* a move frees the string exactly if it is the release that gives up the last reference; it reports
  just that, and all that comes afterwards is elsewhere;
* in the end the string was freed once if no reference is left, and not at all otherwise. -/
theorem freed_exactly_by_last_release {p : Program} {capacity : Nat} {holders : Multiset Nat}
    {moves : List Move} (hs : p.binding? name = some (.counted s))
    (ho : s.ownedCapacity = some capacity) (hr : 0 ≤ s.refcount.toInt)
    (hh : (holders.card : Int) = s.refcount.toInt + 1)
    (hm : Allowed name ⟨p, holders⟩ moves) :
    (∀ before rest, moves = before ++ rest →
      let σ := play name ⟨p, holders⟩ before
      σ.holders ≠ 0 → ∃ t, σ.program.binding? name = some (.counted t) ∧
        t.refcount.toInt = σ.holders.card - 1 ∧ t.info = s.info ∧ t.storage = s.storage) ∧
    (∀ before m rest, moves = before ++ m :: rest →
      let σ := play name ⟨p, holders⟩ before
      (m.Frees name σ ↔ m.isRelease = true ∧ (m.perform name σ).holders = 0) ∧
        (m.Frees name σ → m.events name σ = [.freed capacity] ∧
          ∀ later ∈ rest, later.isElsewhere = true)) ∧
    frees name ⟨p, holders⟩ moves =
      if (play name ⟨p, holders⟩ moves).holders = 0 then 1 else 0 := by
  have hstart : Accounts name s ⟨p, holders⟩ := Accounts.held s.refcount hs hr hh
  refine ⟨?_, ?_, ?_⟩
  · intro before rest hsplit σ hsome
    rw [hsplit, allowed_append] at hm
    cases hstart.play ho hm.1 with
    | held n hb hn hcard =>
      have hcount : n.toInt = (σ.holders.card : Int) - 1 := by
        show n.toInt = ((play name ⟨p, holders⟩ before).holders.card : Int) - 1
        omega
      exact ⟨s.withRefcount n, hb, hcount, rfl, rfl⟩
    | gone hb hnone => exact absurd hnone hsome
  · intro before m rest hsplit σ
    rw [hsplit, allowed_append] at hm
    obtain ⟨hbefore, hmove, hrest⟩ := hm
    have hbooks : Accounts name s σ := hstart.play ho hbefore
    have hiff := hbooks.frees_iff ho hmove
    refine ⟨hiff, fun hfrees => ⟨hbooks.events_of_frees ho hmove hfrees, ?_⟩⟩
    exact isElsewhere_of_gone (hiff.mp hfrees).2 hrest
  · have hsome : holders ≠ 0 := by
      rintro rfl
      rw [Multiset.card_zero] at hh
      omega
    rw [hstart.frees_eq ho hm]
    simp [hsome]

/-- Three references to a new string, made by two threads, passed on and given up by three, while a
fourth thread makes a string of its own. -/
theorem freed_once_by_three_threads :
    let s : Str := ⟨0, ownedInfo 3, #[97, 98, 99, 0]⟩
    let p : Program := (Program.start (.filledWith 7 64) ⟨∅⟩ [] .silent true).bindMade "abc" s
    let moves : List Move :=
      [.retain 0 .library, .pass 0 1, .retain 1 .entryPoint,
        .elsewhere 3 (.make "other" (.zeros 5)), .release 1 .entryPoint, .pass 1 2,
        .release 0 .library, .release 2 .entryPoint, .elsewhere 3 (.call "other" .retain)]
    Allowed "abc" ⟨p, {0}⟩ moves ∧ (play "abc" ⟨p, {0}⟩ moves).holders = 0 ∧
      frees "abc" ⟨p, {0}⟩ moves = 1 := by
  intro s p moves
  have hm : Allowed "abc" ⟨p, {0}⟩ moves := by decide
  have hend : (play "abc" ⟨p, {0}⟩ moves).holders = 0 := by decide
  have hs : p.binding? "abc" = some (.counted s) := by decide
  have ho : s.ownedCapacity = some 3 := by decide
  have hfreed := (freed_exactly_by_last_release hs ho (by decide) (by decide) hm).2.2
  exact ⟨hm, hend, hfreed.trans (if_pos hend)⟩

end Sharing

end CountedStrings
