import CountedStrings.Proofs.Failures
import CountedStrings.Proofs.Runs

/-!
# What a step can change

A state has three parts: what the names stand for, which belongs to the names; the slots, which
belong to the threads; and all the rest, its *world*, which belongs to nobody.  Little of that is
within the reach of one step.

## 1.  The world

`Program.world` is the third part, and `Program.within` is a state with another world.  The steps
that are about it are its settings (`Step.isSetting`).

## 2.  Codes

`Program.recorded` lists the failures that a step leaves in the slot of its thread.  They are those
that an entry point passes on, and those that somebody records by hand.  `Program.codeLeft` is the
code that the slot gets from them.

## 3.  Changes

`effect_change` goes through all steps once: a step rebinds at most the name that it is about, puts
`codeLeft` into the slot of its thread, and leaves the world as it is unless it is about settings.
What that means for each of the three parts is read off it: `cell_effect_of_ne`, `slots_effect` and
`world_effect`.

## 4.  What a run leaves alone

`KeepsWorld`: a step leaves the world as it is.  Every step does that is not about settings
(`along_of_isSetting`), and a run of such steps leaves it as it is, too (`world_after`).  The
allocator and the package that prints the log are the same for good, whatever the steps
(`given_after`).
-/

namespace CountedStrings

/-! ## 1.  The world -/

/-- What a process knows besides its strings and slots. -/
structure World where
  allocator : Allocator
  environment : Environment
  arguments : List Bytes
  config : Option Config
  logging : Logging
  package : LogPackage
  recorder : Bool

/-- Whether a step is about the settings of the process: its environment, its configuration and the
receiver of its log. -/
def Step.isSetting : Step → Bool
  | .configInForce | .setUpLogging _ _ | .setUpProgram | .embed => true
  | .isWindowsHost | .isWindowsThrough | .setVariable _ _ | .unsetVariable _ => true
  | _ => false

/-- Whether a step clears the slot of its thread. -/
def Step.clears : Step → Bool
  | .clearSlot => true
  | _ => false

namespace Program

/-- The part of a process that belongs to no name and to no thread. -/
def world (p : Program) : World :=
  ⟨p.allocator, p.environment, p.arguments, p.config, p.logging, p.package, p.recorder⟩

/-- A process in another world. -/
def within (p : Program) (w : World) : Program where
  strings := p.strings
  made := p.made
  slots := p.slots
  allocator := w.allocator
  environment := w.environment
  arguments := w.arguments
  config := w.config
  logging := w.logging
  package := w.package
  recorder := w.recorder

@[simp] theorem world_within (p : Program) (w : World) : (p.within w).world = w := rfl

/-- Names do not belong to the world. -/
theorem Rebinds.world_eq {p q : Program} {subject : Option String} (h : p.Rebinds subject q) :
    q.world = p.world := by
  cases h <;> rfl

/-! ## 2.  Codes -/

/-- The failures that a step leaves in the slot of its thread, in order. -/
def recorded (p : Program) : Step → List StringError
  | .recordError error => [error]
  | .orRecord result _ => (Outcome.mk result []).failures
  | s => p.failuresBehind s

/-- The code that a step leaves in the slot of its thread: that of the last of its failures, if it
has any, and the code for none if it clears the slot. -/
def codeLeft (p : Program) (s : Step) : Option ErrorCode :=
  if s.clears then some .none else lastCode? (p.recorded s)

/-! ## 3.  Changes -/

/-- A step that is not about settings rebinds at most its name and leaves its code. -/
theorem effect_rebinds (p : Program) (thread : Nat) {s : Step} (hs : s.isSetting = false) :
    ∃ held, p.Rebinds s.subject held ∧
      (p.effect thread s).after = held.absorb thread (p.codeLeft s) := by
  cases s with
  | place name b =>
    rw [effect]
    split
    · exact ⟨_, .bind name b, rfl⟩
    · exact ⟨p, .same, rfl⟩
  | poke name refcount =>
    rw [effect]
    split
    · exact ⟨_, .bind name _, rfl⟩
    · exact ⟨p, .same, rfl⟩
  | make name source =>
    rcases p.make_cases name source with ⟨reply, hx⟩ | ⟨-, ⟨s, -, hx⟩ | ⟨error, -, hx⟩⟩
    · rw [effect, hx]
      exact ⟨p, .same, rfl⟩
    · rw [effect, hx]
      exact ⟨_, p.rebinds_bindNew name s, rfl⟩
    · rw [effect, hx]
      exact ⟨_, p.rebinds_bindNew name none, rfl⟩
  | call name c =>
    rcases p.call_cases name c with ⟨reply, hx⟩ | ⟨s, -, ⟨left, reply, -, hx⟩ | ⟨error, -, hx⟩⟩
    · rw [effect, hx]
      exact ⟨p, .same, rfl⟩
    · rw [effect, hx]
      exact ⟨_, p.rebinds_leave name left, rfl⟩
    · rw [effect, hx]
      exact ⟨p, .same, rfl⟩
  | readPlain name index =>
    rcases p.readPlain_cases name index with ⟨reply, hx⟩ | ⟨buffer, hx⟩
    · rw [effect, hx]
      exact ⟨p, .same, rfl⟩
    · rw [effect, hx]
      exact ⟨p, .same, rfl⟩
  | writePlain name index value =>
    rcases p.writePlain_cases name index value with
      ⟨reply, hx⟩ | ⟨b, buffer, -, -, ⟨written, -, hx⟩ | ⟨error, -, hx⟩⟩
    · rw [effect, hx]
      exact ⟨p, .same, rfl⟩
    · rw [effect, hx]
      exact ⟨_, .bind name _, rfl⟩
    · rw [effect, hx]
      exact ⟨p, .same, rfl⟩
  | makeThrough name source => exact (p.tells_makeThrough thread name source).after_eq
  | callThrough interface name c =>
    cases interface with
    | counted => exact (p.tells_callCounted thread name c).after_eq
    | plain => exact (p.tells_callPlain thread name c).after_eq
  | entryThrough argv index => exact (p.tells_entryThrough thread argv index).after_eq
  | orRecord result neutral => cases result <;> exact ⟨p, .same, rfl⟩
  | removeThrough path status => cases path <;> exact ⟨p, .same, rfl⟩
  | runCommand command status => cases command <;> exact ⟨p, .same, rfl⟩
  | configInForce | setUpLogging | setUpProgram | embed => cases hs
  | isWindowsHost | isWindowsThrough | setVariable | unsetVariable => cases hs
  | _ => exact ⟨p, .same, rfl⟩

/-- **What a step can change**: the name that it is about, the slot of its thread, and, if it is
about settings, the world. -/
theorem effect_change (p : Program) (thread : Nat) (s : Step) :
    ∃ held w, p.Rebinds s.subject held ∧ (s.isSetting = false → w = p.world) ∧
      (p.effect thread s).after = (held.absorb thread (p.codeLeft s)).within w := by
  cases hs : s.isSetting with
  | true =>
    refine ⟨p, (p.effect thread s).after.world, .same, nofun, ?_⟩
    cases s <;> first | rfl | cases hs
  | false =>
    obtain ⟨held, hheld, hafter⟩ := p.effect_rebinds thread hs
    refine ⟨held, p.world, hheld, fun _ => rfl, ?_⟩
    rw [hafter, ← hheld.world_eq]
    rfl

/-- **What a step about something else does to a name**: nothing. -/
theorem cell_effect_of_ne (p : Program) (thread : Nat) {s : Step} {name : String}
    (h : s.subject ≠ some name) : (p.effect thread s).after.cell name = p.cell name := by
  obtain ⟨held, w, hheld, -, hafter⟩ := p.effect_change thread s
  rw [hafter]
  exact hheld.cell_eq h

/-- **What a step does to the slots**: it leaves its code to its thread. -/
theorem slots_effect (p : Program) (thread : Nat) (s : Step) :
    (p.effect thread s).after.slots = p.slots.absorb thread (p.codeLeft s) := by
  obtain ⟨held, w, hheld, -, hafter⟩ := p.effect_change thread s
  rw [hafter, ← hheld.slots_eq]
  rfl

/-- **What a step does to the world**: nothing, unless it is about settings. -/
theorem world_effect (p : Program) (thread : Nat) {s : Step} (hs : s.isSetting = false) :
    (p.effect thread s).after.world = p.world := by
  obtain ⟨held, w, -, hw, hafter⟩ := p.effect_change thread s
  rw [hafter, world_within, hw hs]

/-- A step about something else neither makes a string under a name nor frees one. -/
theorem mem_made_of_ne (p : Program) (thread : Nat) {s : Step} {name : String}
    (h : s.subject ≠ some name) : name ∈ (p.step thread s).2.made ↔ name ∈ p.made :=
  decide_eq_decide.mp (congrArg Cell.made (p.cell_effect_of_ne thread h))

/-- A step that takes a string away is about its name. -/
theorem subject_of_gone {p : Program} {thread : Nat} {s : Step} {name : String}
    (hmade : name ∈ p.made) (hgone : name ∉ (p.step thread s).2.made) : s.subject = some name :=
  Decidable.byContradiction fun hne => hgone ((p.mem_made_of_ne thread hne).mpr hmade)

/-! ## 4.  What a run leaves alone -/

/-- Whether a step leaves what threads share as it is. -/
def KeepsWorld (p : Program) (thread : Nat) (s : Step) : Prop :=
  (p.step thread s).2.world = p.world

/-- The steps of a run that are not about settings all leave what threads share as it is. -/
theorem along_of_isSetting (p : Program) {steps : List (Nat × Step)}
    (h : ∀ x ∈ steps, x.2.isSetting = false) : p.Along KeepsWorld steps :=
  along_of_mem (fun x hx q => q.world_effect x.1 (h x hx)) p

/-- A run whose steps all leave what threads share leaves it as it is. -/
theorem world_after {p : Program} {steps : List (Nat × Step)} (h : p.Along KeepsWorld steps) :
    (p.after steps).world = p.world := by
  induction steps generalizing p with
  | nil => rfl
  | cons x rest ih => exact (ih h.2).trans h.1

/-- No step changes what a process was given to work with. -/
theorem given_step (p : Program) (thread : Nat) (s : Step) :
    (p.step thread s).2.allocator = p.allocator ∧ (p.step thread s).2.package = p.package := by
  cases hs : s.isSetting with
  | false =>
    have hworld : (p.step thread s).2.world = p.world := p.world_effect thread hs
    exact ⟨congrArg World.allocator hworld, congrArg World.package hworld⟩
  | true => cases s <;> first | exact ⟨rfl, rfl⟩ | cases hs

/-- **The allocator and the package that prints the log are the same for good.** -/
theorem given_after (p : Program) (steps : List (Nat × Step)) :
    (p.after steps).allocator = p.allocator ∧ (p.after steps).package = p.package := by
  induction steps generalizing p with
  | nil => exact ⟨rfl, rfl⟩
  | cons x rest ih =>
    obtain ⟨hallocator, hpackage⟩ := p.given_step x.1 x.2
    rw [after_cons, ← hallocator, ← hpackage]
    exact ih _

end Program

end CountedStrings
