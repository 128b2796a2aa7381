import CountedStrings.Proofs.Slots
import Mathlib.Data.List.Induction

/-!
# Threads with strings of their own do not meet

Threads take turns in an order that nobody controls.  If each of them uses names that no other one
uses, the order does not matter: each thread is told, step by step, what it would be told if it ran
alone.  The one condition is that nobody changes what all threads share, the world of the process
(`Program.world`).

## 1.  What a thread sees

`Program.Alike`: two processes differ in nothing that a thread can find out with some names.
`effect_alike`: then a step of that thread about such a name tells the same in both, and leaves
processes that are alike again.  `alike_of_other`: a step of another thread about another name is
not noticed.

## 2.  Runs

`Interleaves` says that a run consists of the steps of some lists, one for each thread, each in its
own order.  `alike_alone` follows such a run next to the runs of the single lists, and
`threads_are_independent` is the law.
-/

namespace CountedStrings

namespace Program

/-! ## 1.  What a thread sees -/

/-- Two processes look alike to a thread that uses some names only. -/
structure Alike (thread : Nat) (names : List String) (p q : Program) : Prop where
  world_eq : p.world = q.world
  slot_eq : p.slots.read thread = q.slots.read thread
  cell_eq : ∀ name ∈ names, p.cell name = q.cell name

section Alike

variable {thread : Nat} {names : List String} {p q : Program}

theorem Alike.refl (thread : Nat) (names : List String) (p : Program) : Alike thread names p p :=
  ⟨rfl, rfl, fun _ _ => rfl⟩

/-- Processes that look alike differ in their strings and slots only. -/
theorem Alike.exists_eq (h : Alike thread names p q) :
    ∃ strings made slots, q = { p with strings := strings, made := made, slots := slots } := by
  obtain ⟨strings, made, slots, allocator, environment, arguments, config, logging, package,
    recorder⟩ := q
  have hworld := h.world_eq
  cases hworld
  exact ⟨strings, made, slots, rfl⟩

theorem Alike.binding?_eq (h : Alike thread names p q) {name : String} (hn : name ∈ names) :
    p.binding? name = q.binding? name :=
  congrArg Cell.binding (h.cell_eq name hn)

theorem Alike.isFree_eq (h : Alike thread names p q) {name : String} (hn : name ∈ names) :
    p.isFree name = q.isFree name := by
  rw [isFree, isFree, h.binding?_eq hn]

/-- Whatever is done to one name alike leaves processes alike. -/
theorem Alike.change (h : Alike thread names p q) {p' q' : Program} (name : String)
    (hworld : p'.world = q'.world) (hp : p'.slots = p.slots) (hq : q'.slots = q.slots)
    (hname : name ∈ names → p'.cell name = q'.cell name)
    (hp' : ∀ n, name ≠ n → p'.cell n = p.cell n) (hq' : ∀ n, name ≠ n → q'.cell n = q.cell n) :
    Alike thread names p' q' := by
  refine ⟨hworld, ?_, fun n hn => ?_⟩
  · rw [hp, hq]
    exact h.slot_eq
  · by_cases heq : name = n
    · subst heq
      exact hname hn
    · rw [hp' n heq, hq' n heq]
      exact h.cell_eq n hn

theorem Alike.bind (h : Alike thread names p q) (name : String) (b : Binding) :
    Alike thread names (p.bind name b) (q.bind name b) := by
  refine h.change name h.world_eq rfl rfl (fun hn => ?_) (fun n hne => p.cell_bind_of_ne hne b)
    fun n hne => q.cell_bind_of_ne hne b
  rw [cell_bind, cell_bind, h.cell_eq name hn]

theorem Alike.bindNew (h : Alike thread names p q) (name : String) (s : Option Str) :
    Alike thread names (p.bindNew name s) (q.bindNew name s) := by
  cases s with
  | none => exact h.bind name .null
  | some s =>
    refine h.change name h.world_eq rfl rfl (fun _ => ?_)
      (fun n hne => p.cell_bindMade_of_ne hne s) fun n hne => q.cell_bindMade_of_ne hne s
    exact (p.cell_bindMade name s).trans (q.cell_bindMade name s).symm

theorem Alike.leave (h : Alike thread names p q) (name : String) (left : Option Str) :
    Alike thread names (p.leave name left) (q.leave name left) := by
  cases left with
  | some s => exact h.bind name (.counted s)
  | none =>
    refine h.change name h.world_eq rfl rfl (fun _ => ?_) (fun n hne => p.cell_unbind_of_ne hne)
      fun n hne => q.cell_unbind_of_ne hne
    exact (p.cell_unbind name).trans (q.cell_unbind name).symm

theorem Alike.absorb (h : Alike thread names p q) (actor : Nat) (code : Option ErrorCode) :
    Alike thread names (p.absorb actor code) (q.absorb actor code) := by
  refine ⟨h.world_eq, ?_, h.cell_eq⟩
  show (p.slots.absorb actor code).read thread = (q.slots.absorb actor code).read thread
  rw [Slots.read_absorb, Slots.read_absorb, h.slot_eq]

end Alike

end Program

/-- Two effects are one effect on two processes that look alike. -/
structure Effect.Alike (thread : Nat) (names : List String) (e f : Effect) : Prop where
  result_eq : e.result = f.result
  events_eq : e.events = f.events
  after_alike : Program.Alike thread names e.after f.after

namespace Program

section Alike

variable {thread : Nat} {names : List String} {p q : Program}

theorem Alike.tell (h : Alike thread names p q) {reply reply' : Reply} (hr : reply = reply') :
    Effect.Alike thread names (Effect.tell p reply) (Effect.tell q reply') :=
  ⟨congrArg Except.ok hr, rfl, h⟩

theorem Alike.make (h : Alike thread names p q) {name : String} (hn : name ∈ names)
    (source : Source) : Effect.Alike thread names (p.make name source) (q.make name source) := by
  have hbuild : p.build source = q.build source := by
    obtain ⟨strings, made, slots, rfl⟩ := h.exists_eq
    rfl
  rw [Program.make, Program.make, h.isFree_eq hn, hbuild]
  split
  · cases hx : (q.build source).result with
    | ok s =>
      simp only [hx]
      exact ⟨rfl, rfl, h.bindNew name s⟩
    | error error =>
      simp only [hx]
      exact ⟨rfl, rfl, h.bindNew name none⟩
  · exact h.tell rfl

theorem Alike.makeThrough (h : Alike thread names p q) {name : String} (hn : name ∈ names)
    (actor : Nat) (source : CountedSource) :
    Effect.Alike thread names (p.makeThrough actor name source)
      (q.makeThrough actor name source) := by
  have hbuild : p.buildThrough source = q.buildThrough source := by
    obtain ⟨strings, made, slots, rfl⟩ := h.exists_eq
    rfl
  rw [Program.makeThrough, Program.makeThrough, h.isFree_eq hn, hbuild]
  split
  · exact ⟨rfl, rfl, (h.bindNew name _).absorb actor _⟩
  · exact h.tell rfl

theorem Alike.call (h : Alike thread names p q) {name : String} (hn : name ∈ names)
    (c : StrCall) : Effect.Alike thread names (p.call name c) (q.call name c) := by
  rw [Program.call, Program.call, h.binding?_eq hn]
  split
  · next s _ =>
    split
    · cases hx : (c.run s).result with
      | ok x =>
        simp only [hx]
        exact ⟨rfl, rfl, h.leave name x.1⟩
      | error error =>
        simp only [hx]
        exact ⟨rfl, rfl, h⟩
    · exact h.tell rfl
  · exact h.tell rfl

theorem Alike.readPlain (h : Alike thread names p q) {name : String} (hn : name ∈ names)
    (index : Int) :
    Effect.Alike thread names (p.readPlain name index) (q.readPlain name index) := by
  rw [Program.readPlain, Program.readPlain, h.binding?_eq hn]
  split
  · exact h.tell rfl
  · split
    · exact ⟨rfl, rfl, h⟩
    · exact h.tell rfl

theorem Alike.writePlain (h : Alike thread names p q) {name : String} (hn : name ∈ names)
    (index : Int) (value : UInt8) :
    Effect.Alike thread names (p.writePlain name index value) (q.writePlain name index value) := by
  rw [Program.writePlain, Program.writePlain, h.binding?_eq hn]
  split
  · exact h.tell rfl
  · next b _ =>
    split
    · exact h.tell rfl
    · next buffer _ =>
      split
      · cases hx : (buffer.writeAt index value).result with
        | ok written =>
          simp only [hx]
          exact ⟨rfl, rfl, h.bind name _⟩
        | error error =>
          simp only [hx]
          exact ⟨rfl, rfl, h⟩
      · exact h.tell rfl

theorem Alike.pointee_eq (h : Alike thread names p q) {name : Option String}
    (hn : ∀ n ∈ name, n ∈ names) : p.pointee name = q.pointee name := by
  cases name with
  | none => rfl
  | some n => exact h.binding?_eq (hn n rfl)

theorem Alike.callCounted (h : Alike thread names p q) {name : Option String}
    (hn : ∀ n ∈ name, n ∈ names) (actor : Nat) (c : PointerCall) :
    Effect.Alike thread names (p.callCounted actor name c) (q.callCounted actor name c) := by
  unfold Program.callCounted
  rw [h.pointee_eq hn]
  split
  · exact ⟨rfl, rfl, h.absorb actor _⟩
  · next s n _ =>
    split
    · exact ⟨rfl, rfl, (h.leave n _).absorb actor _⟩
    · exact h.tell rfl
  · exact h.tell rfl

theorem Alike.callPlain (h : Alike thread names p q) {name : Option String}
    (hn : ∀ n ∈ name, n ∈ names) (actor : Nat) (c : PointerCall) :
    Effect.Alike thread names (p.callPlain actor name c) (q.callPlain actor name c) := by
  unfold Program.callPlain
  rw [h.pointee_eq hn]
  split
  · exact h.tell rfl
  · next b _ =>
    split
    · exact h.tell rfl
    · exact h.tell rfl
    · next x _ _ =>
      refine ⟨rfl, rfl, Alike.absorb ?_ actor _⟩
      cases name with
      | none => exact h
      | some n =>
        cases x.value.1 with
        | none => exact h
        | some buffer => exact h.bind n _

/-- **A thread cannot tell processes apart that look alike to it**: its steps about its own names
do the same to both. -/
theorem effect_alike (h : Alike thread names p q) {s : Step}
    (hs : ∀ name ∈ s.subject, name ∈ names) :
    Effect.Alike thread names (p.effect thread s) (q.effect thread s) := by
  cases s with
  | place name b =>
    rw [effect, effect, h.isFree_eq (hs name rfl)]
    split
    · exact (h.bind name b).tell rfl
    · exact h.tell rfl
  | poke name refcount =>
    rw [effect, effect, h.binding?_eq (hs name rfl)]
    split
    · exact (h.bind name _).tell rfl
    · exact h.tell rfl
  | look name => exact h.tell rfl
  | make name source => exact h.make (hs name rfl) source
  | call name c => exact h.call (hs name rfl) c
  | readPlain name index => exact h.readPlain (hs name rfl) index
  | writePlain name index value => exact h.writePlain (hs name rfl) index value
  | makeThrough name source => exact h.makeThrough (hs name rfl) thread source
  | callThrough interface name c =>
    cases interface with
    | counted => exact h.callCounted hs thread c
    | plain => exact h.callPlain hs thread c
  | entry argv index => exact ⟨rfl, rfl, h⟩
  | entryThrough argv index => exact ⟨rfl, rfl, h.absorb thread _⟩
  | wordError error => exact h.tell rfl
  | recordError error => exact (h.absorb thread _).tell rfl
  | orRecord result neutral => exact ⟨rfl, rfl, h.absorb thread _⟩
  | readSlot => exact h.tell (congrArg Reply.code h.slot_eq)
  | readSlotThrough => exact h.tell (congrArg (fun code => Reply.number code.toInt) h.slot_eq)
  | clearSlot => exact (h.absorb thread _).tell rfl
  | removeThrough path status =>
    cases path with
    | none => exact h.tell rfl
    | some path => exact ⟨rfl, rfl, h⟩
  | runCommand command status => cases command <;> exact ⟨rfl, rfl, h⟩
  | _ =>
    -- what is read and what is changed here is the same in both, as it is nobody's own
    obtain ⟨strings, made, slots, rfl⟩ := h.exists_eq
    exact ⟨rfl, rfl, rfl, h.slot_eq, h.cell_eq⟩

/-- A thread is told the same by processes that look alike to it, and they go on to look alike. -/
theorem step_alike (h : Alike thread names p q) {s : Step}
    (hs : ∀ name ∈ s.subject, name ∈ names) :
    (p.step thread s).1 = (q.step thread s).1 ∧
      Alike thread names (p.step thread s).2 (q.step thread s).2 := by
  obtain ⟨hresult, hevents, hafter⟩ := effect_alike h hs
  refine ⟨?_, hafter⟩
  have hsubject : s.subject.bind (p.effect thread s).after.binding? =
      s.subject.bind (q.effect thread s).after.binding? := by
    cases hname : s.subject with
    | none => rfl
    | some name => exact hafter.binding?_eq (hs name hname)
  have hlines : (p.effect thread s).after.printed (p.effect thread s).events =
      (q.effect thread s).after.printed (p.effect thread s).events := by
    generalize (p.effect thread s).after = p', (q.effect thread s).after = q' at hafter
    obtain ⟨strings, made, slots, rfl⟩ := hafter.exists_eq
    rfl
  rw [step, step, hresult, hafter.slot_eq, hsubject, hlines, hevents]

/-- A thread does not notice what another thread does with a name that is not its own. -/
theorem alike_of_other (h : Alike thread names p q) {actor : Nat} (hne : actor ≠ thread) {s : Step}
    (hs : ∀ name ∈ s.subject, name ∉ names) (hworld : q.KeepsWorld actor s) :
    Alike thread names p (q.step actor s).2 := by
  refine ⟨h.world_eq.trans hworld.symm, ?_, fun name hn => ?_⟩
  · rw [q.read_step_of_ne hne]
    exact h.slot_eq
  · have hsubject : s.subject ≠ some name := fun hname => hs name hname hn
    exact (h.cell_eq name hn).trans (q.cell_effect_of_ne actor hsubject).symm

end Alike

end Program

/-! ## 2.  Runs -/

/-- The steps of one thread, as a run of its own. -/
def alone (thread : Nat) (steps : List Step) : List (Nat × Step) := steps.map (thread, ·)

/-- Whether a run consists of the steps of some lists, one for each thread, each in its order. -/
def Interleaves (lists : Nat → List Step) (steps : List (Nat × Step)) : Prop :=
  ∀ thread, steps.filter (·.1 = thread) = alone thread (lists thread)

/-- The names that some steps are about. -/
def subjects (steps : List Step) : List String := steps.filterMap Step.subject

/-- Whether each thread keeps to names of its own. -/
def KeepApart (lists : Nat → List Step) : Prop :=
  ∀ first second, first ≠ second →
    ∀ name ∈ subjects (lists first), name ∉ subjects (lists second)

/-- A step of a run is in the list of its thread. -/
theorem Interleaves.mem {lists : Nat → List Step} {steps : List (Nat × Step)}
    (h : Interleaves lists steps) {x : Nat × Step} (hx : x ∈ steps) : x.2 ∈ lists x.1 := by
  have hpart : x ∈ steps.filter (·.1 = x.1) := List.mem_filter.mpr ⟨hx, by simp⟩
  rw [h x.1, alone, List.mem_map] at hpart
  obtain ⟨s, hs, heq⟩ := hpart
  rw [← heq]
  exact hs

namespace Program

/-- A name that no step is about goes on to stand for what it stood for. -/
theorem cell_after_of_ne (p : Program) {name : String} {steps : List (Nat × Step)}
    (h : ∀ x ∈ steps, x.2.subject ≠ some name) : (p.after steps).cell name = p.cell name := by
  induction steps generalizing p with
  | nil => rfl
  | cons x rest ih =>
    obtain ⟨hx, hrest⟩ := List.forall_mem_cons.mp h
    exact (ih (p.step x.1 x.2).2 hrest).trans (p.cell_effect_of_ne x.1 hx)

/-- **A run looks to each thread like the run of its own steps**, if each of them keeps to names of
its own and changes nothing that is shared. -/
theorem alike_alone {p : Program} (names : Nat → List String)
    (hapart : ∀ first second, first ≠ second → ∀ name ∈ names first, name ∉ names second)
    {steps : List (Nat × Step)} (hnames : ∀ x ∈ steps, ∀ name ∈ x.2.subject, name ∈ names x.1)
    (hworld : ∀ thread, p.Along KeepsWorld (steps.filter (·.1 = thread))) (thread : Nat) :
    (p.history steps).filter (·.thread = thread) = p.history (steps.filter (·.1 = thread)) ∧
      Alike thread (names thread) (p.after (steps.filter (·.1 = thread))) (p.after steps) := by
  -- the step at the end is compared with the step at the end of the run of its thread
  induction steps using List.reverseRecOn generalizing thread with
  | nil => exact ⟨rfl, Alike.refl thread _ p⟩
  | append_singleton before x ih =>
    obtain ⟨actor, s⟩ := x
    have hown : [(actor, s)].filter (·.1 = actor) = [(actor, s)] := by simp
    have hbefore := ih (fun x hx => hnames x (List.mem_append_left _ hx)) fun t => by
      have h := hworld t
      rw [List.filter_append, along_append] at h
      exact h.1
    have hs : ∀ name ∈ s.subject, name ∈ names actor := hnames (actor, s) (by simp)
    have hlone : (p.after (before.filter (·.1 = actor))).KeepsWorld actor s := by
      have h := hworld actor
      rw [List.filter_append, along_append, hown] at h
      exact h.2.1
    obtain ⟨hanswer, hstep⟩ := step_alike (hbefore actor).2 hs
    obtain ⟨hhistory, halike⟩ := hbefore thread
    rw [history_append, List.filter_append, List.filter_append, hhistory]
    by_cases heq : actor = thread
    · subst heq
      rw [hown, history_append, after_append, after_append]
      refine ⟨congrArg _ ?_, hstep⟩
      rw [history, history, history, history, hanswer]
      simp
    · have hkeeps : (p.after before).KeepsWorld actor s :=
        (hstep.world_eq.symm.trans hlone).trans (hbefore actor).2.world_eq
      have hothers : [(actor, s)].filter (·.1 = thread) = [] := by simp [heq]
      rw [hothers, List.append_nil, after_append]
      refine ⟨?_, alike_of_other halike heq (fun name hname => ?_) hkeeps⟩
      · simp [history, heq]
      · exact hapart actor thread heq name (hs name hname)

/-- **Threads with strings of their own do not meet.**  Let each of any number of threads have a
list of steps, such that no two of them use one name, and none of them, on its own, changes what
threads share: what the host provides, the configuration, and the state of logging.  Let their
steps be taken in any order that keeps the order of each list.

* Each thread is answered, step by step, as if it ran alone from the start: with the same result,
  the same code in its slot, the same events, and the same string under the name that it used.
* In the end, its slot and its strings are those of its run alone.
* What nobody used is as it was at the start, and so is what threads share.
* So all strings and all slots are the same for any two such orders. -/
theorem threads_are_independent {p : Program} {lists : Nat → List Step} (hapart : KeepApart lists)
    (hworld : ∀ thread, p.Along KeepsWorld (alone thread (lists thread)))
    {steps : List (Nat × Step)} (h : Interleaves lists steps) :
    (∀ thread, (p.history steps).filter (·.thread = thread) =
      p.history (alone thread (lists thread))) ∧
    (∀ thread, (p.after steps).slots.read thread =
        (p.after (alone thread (lists thread))).slots.read thread ∧
      ∀ name ∈ subjects (lists thread), (p.after steps).cell name =
        (p.after (alone thread (lists thread))).cell name) ∧
    (∀ name, (∀ thread, name ∉ subjects (lists thread)) →
      (p.after steps).cell name = p.cell name) ∧
    (p.after steps).world = p.world ∧
    ∀ steps', Interleaves lists steps' →
      (∀ thread, (p.after steps').slots.read thread = (p.after steps).slots.read thread) ∧
      ∀ name, (p.after steps').cell name = (p.after steps).cell name := by
  have key : ∀ {run : List (Nat × Step)}, Interleaves lists run → ∀ thread,
      (p.history run).filter (·.thread = thread) = p.history (alone thread (lists thread)) ∧
        Alike thread (subjects (lists thread)) (p.after (alone thread (lists thread)))
          (p.after run) := by
    intro run hrun thread
    have hparts : ∀ t, p.Along KeepsWorld (run.filter (·.1 = t)) := fun t => by
      rw [hrun t]
      exact hworld t
    rw [← hrun thread]
    refine alike_alone (fun t => subjects (lists t)) hapart (fun x hx name hname => ?_) hparts
      thread
    exact List.mem_filterMap.mpr ⟨x.2, hrun.mem hx, hname⟩
  have hunused : ∀ {run : List (Nat × Step)}, Interleaves lists run → ∀ name,
      (∀ thread, name ∉ subjects (lists thread)) → (p.after run).cell name = p.cell name := by
    intro run hrun name hname
    refine p.cell_after_of_ne fun x hx hsubject => hname x.1 ?_
    exact List.mem_filterMap.mpr ⟨x.2, hrun.mem hx, hsubject⟩
  refine ⟨fun thread => (key h thread).1, fun thread => ⟨(key h thread).2.slot_eq.symm,
    fun name hname => ((key h thread).2.cell_eq name hname).symm⟩, hunused h, ?_,
    fun steps' h' => ⟨fun thread => ?_, fun name => ?_⟩⟩
  · rw [← (key h 0).2.world_eq]
    exact world_after (hworld 0)
  · rw [← (key h thread).2.slot_eq, ← (key h' thread).2.slot_eq]
  · by_cases hname : ∃ thread, name ∈ subjects (lists thread)
    · obtain ⟨thread, hthread⟩ := hname
      rw [← (key h thread).2.cell_eq name hthread, ← (key h' thread).2.cell_eq name hthread]
    · have hnobody : ∀ thread, name ∉ subjects (lists thread) :=
        fun thread hthread => hname ⟨thread, hthread⟩
      rw [hunused h name hnobody, hunused h' name hnobody]

/-- Two threads make, write, share and free strings of their own, fail on them, and look at their
slots, while a third name stands for something that neither of them uses. -/
theorem independence_of_two_threads :
    let p : Program := (start (.filledWith 7 20) ⟨∅⟩ [] .silent true).bind "literal"
      (.counted ⟨-7, 5, #[104, 0]⟩)
    let lists : Nat → List Step := fun
      | 0 => [.make "abc" (.bytes [104, 105]), .callThrough .counted (some "abc") (.setByte 2 7),
          .readSlot, .call "abc" .retain, .poke "abc" 0, .call "abc" .release]
      | 1 => [.makeThrough "other" (.zeros 100), .place "buffer" (.plain #[1, 2, 3]),
          .clearSlot, .callThrough .plain (some "buffer") (.fill 0 [9, 8]), .look "buffer"]
      | _ => []
    let steps : List (Nat × Step) :=
      [(1, .makeThrough "other" (.zeros 100)), (0, .make "abc" (.bytes [104, 105])),
        (0, .callThrough .counted (some "abc") (.setByte 2 7)),
        (1, .place "buffer" (.plain #[1, 2, 3])), (1, .clearSlot), (0, .readSlot),
        (0, .call "abc" .retain), (1, .callThrough .plain (some "buffer") (.fill 0 [9, 8])),
        (0, .poke "abc" 0), (1, .look "buffer"), (0, .call "abc" .release)]
    KeepApart lists ∧ (∀ thread, p.Along KeepsWorld (alone thread (lists thread))) ∧
      Interleaves lists steps ∧
      (p.after steps).slots.read 0 = .invalidIndex ∧ (p.after steps).slots.read 1 = .none ∧
      (p.after steps).binding? "abc" = none ∧
      (p.after steps).binding? "buffer" = some (.plain #[9, 8, 3]) ∧
      (p.after steps).binding? "literal" = some (.counted ⟨-7, 5, #[104, 0]⟩) := by
  intro p lists steps
  have howner : ∀ thread, ∀ name ∈ subjects (lists thread),
      (if name = "abc" then 0 else 1) = thread := by
    rintro (_ | _ | thread)
    · decide
    · decide
    · exact fun name hname => nomatch hname
  have hapart : KeepApart lists := fun first second hne name hfirst hsecond =>
    hne ((howner first name hfirst).symm.trans (howner second name hsecond))
  have hworld : ∀ thread, p.Along KeepsWorld (alone thread (lists thread)) := by
    rintro (_ | _ | thread)
    · exact p.along_of_isSetting (by decide)
    · exact p.along_of_isSetting (by decide)
    · trivial
  have hsteps : Interleaves lists steps := by
    rintro (_ | _ | thread) <;> rfl
  obtain ⟨-, hown, hunused, -, -⟩ := threads_are_independent hapart hworld hsteps
  refine ⟨hapart, hworld, hsteps, (hown 0).1.trans (by decide), (hown 1).1.trans (by decide),
    ?_, ?_, ?_⟩
  · rw [← binding_cell, (hown 0).2 "abc" (by decide)]
    decide
  · rw [← binding_cell, (hown 1).2 "buffer" (by decide)]
    decide
  · have hnobody : ∀ thread, "literal" ∉ subjects (lists thread) := by
      rintro (_ | _ | thread)
      · decide
      · decide
      · exact List.not_mem_nil
    rw [← binding_cell, hunused "literal" hnobody]
    decide

end Program

end CountedStrings
