import CountedStrings.Program.Step

/-!
# Runs of a process

`Program.run` takes the steps of a list in turn.  A statement about whole runs needs three things
more: the state that a run leaves, the steps that were taken with their answers, and a way to ask
something of every step at the moment at which it is taken.

* `Program.after`: the state that a run leaves.
* `Program.history`: the steps of a run with their answers, and `Taken.eventsOn`: what was reported
  about one name.
* `Program.Along`: a condition on every step of a run, in the state in which it is taken.
* `Program.invariant_along`: what the start has and every admitted step keeps is had by every state
  of an admitted run.  The invariant may speak about the history as well.
-/

namespace CountedStrings

/-- A step that was taken, with its answer. -/
structure Taken where
  thread : Nat
  step : Step
  answer : Answer

namespace Taken

/-- Whether a step was about a name. -/
def isAbout (x : Taken) (name : String) : Bool := x.step.subject = some name

/-- What was reported about a name, oldest first. -/
def eventsOn (name : String) (history : List Taken) : List Event :=
  (history.filter (·.isAbout name)).flatMap (·.answer.events)

theorem eventsOn_append (name : String) (older newer : List Taken) :
    eventsOn name (older ++ newer) = eventsOn name older ++ eventsOn name newer := by
  rw [eventsOn, List.filter_append, List.flatMap_append]
  rfl

/-- A step about something else reports nothing about a name. -/
theorem eventsOn_concat_of_not {name : String} {x : Taken} (h : x.isAbout name = false)
    (history : List Taken) : eventsOn name (history ++ [x]) = eventsOn name history := by
  have hx : eventsOn name [x] = [] := by simp [eventsOn, h]
  rw [eventsOn_append, hx, List.append_nil]

/-- A step about a name adds its report. -/
theorem eventsOn_concat {name : String} {x : Taken} (h : x.isAbout name = true)
    (history : List Taken) :
    eventsOn name (history ++ [x]) = eventsOn name history ++ x.answer.events := by
  have hx : eventsOn name [x] = x.answer.events := by simp [eventsOn, h]
  rw [eventsOn_append, hx]

theorem mem_eventsOn {name : String} {history : List Taken} {e : Event} :
    e ∈ eventsOn name history ↔
      ∃ x ∈ history, x.isAbout name = true ∧ e ∈ x.answer.events := by
  simp only [eventsOn, List.mem_flatMap, List.mem_filter, and_assoc]

end Taken

namespace Program

/-! ## States and histories -/

/-- The state that a run leaves. -/
def after (p : Program) (steps : List (Nat × Step)) : Program := (p.run steps).2

@[simp] theorem after_nil (p : Program) : p.after [] = p := rfl

@[simp] theorem after_cons (p : Program) (thread : Nat) (s : Step) (rest : List (Nat × Step)) :
    p.after ((thread, s) :: rest) = (p.step thread s).2.after rest := rfl

/-- A run goes on from the state that it left. -/
theorem after_append (p : Program) (first second : List (Nat × Step)) :
    p.after (first ++ second) = (p.after first).after second := by
  induction first generalizing p with
  | nil => rfl
  | cons x rest ih => exact ih (p.step x.1 x.2).2

/-- The state after one step more. -/
theorem after_concat (p : Program) (steps : List (Nat × Step)) (x : Nat × Step) :
    p.after (steps ++ [x]) = ((p.after steps).step x.1 x.2).2 :=
  p.after_append steps [x]

/-- The steps of a run with their answers. -/
def history (p : Program) : List (Nat × Step) → List Taken
  | [] => []
  | (thread, s) :: rest => ⟨thread, s, (p.step thread s).1⟩ :: history (p.step thread s).2 rest

theorem history_append (p : Program) (first second : List (Nat × Step)) :
    p.history (first ++ second) = p.history first ++ (p.after first).history second := by
  induction first generalizing p with
  | nil => rfl
  | cons x rest ih => exact congrArg (_ :: ·) (ih (p.step x.1 x.2).2)

/-- The history after one step more. -/
theorem history_concat (p : Program) (steps : List (Nat × Step)) (x : Nat × Step) :
    p.history (steps ++ [x]) =
      p.history steps ++ [⟨x.1, x.2, ((p.after steps).step x.1 x.2).1⟩] :=
  p.history_append steps [x]

/-! ## Conditions on the steps of a run -/

/-- A condition on every step of a run, in the state in which it is taken. -/
def Along (P : Program → Nat → Step → Prop) (p : Program) : List (Nat × Step) → Prop
  | [] => True
  | (thread, s) :: rest => P p thread s ∧ Along P (p.step thread s).2 rest

instance decidableAlong {P : Program → Nat → Step → Prop} [∀ p thread s, Decidable (P p thread s)] :
    (p : Program) → (steps : List (Nat × Step)) → Decidable (p.Along P steps)
  | _, [] => isTrue trivial
  | p, (thread, s) :: rest =>
    have := decidableAlong (P := P) (p.step thread s).2 rest
    inferInstanceAs (Decidable (_ ∧ _))

theorem along_append {P : Program → Nat → Step → Prop} {p : Program}
    {first second : List (Nat × Step)} :
    p.Along P (first ++ second) ↔ p.Along P first ∧ (p.after first).Along P second := by
  induction first generalizing p with
  | nil => exact ⟨fun h => ⟨trivial, h⟩, fun h => h.2⟩
  | cons x rest ih => exact (and_congr_right fun _ => ih).trans and_assoc.symm

/-- What the steps of a run have in every state they have along the run. -/
theorem along_of_mem {P : Program → Nat → Step → Prop} {steps : List (Nat × Step)}
    (h : ∀ x ∈ steps, ∀ p, P p x.1 x.2) (p : Program) : p.Along P steps := by
  induction steps generalizing p with
  | nil => trivial
  | cons x rest ih =>
    obtain ⟨hx, hrest⟩ := List.forall_mem_cons.mp h
    exact ⟨hx p, ih hrest _⟩

/-- **Invariants of runs.**  What the start has and every admitted step keeps is had by the state
and the history that an admitted run leaves. -/
theorem invariant_along {P : Program → Nat → Step → Prop} {I : Program → List Taken → Prop}
    (hstep : ∀ p history thread s, I p history → P p thread s →
      I (p.step thread s).2 (history ++ [⟨thread, s, (p.step thread s).1⟩]))
    {p : Program} {older : List Taken} (h0 : I p older) {steps : List (Nat × Step)}
    (hP : p.Along P steps) : I (p.after steps) (older ++ p.history steps) := by
  -- the history so far is carried along, so that the induction can follow the run
  induction steps generalizing p older with
  | nil =>
    rw [history, List.append_nil]
    exact h0
  | cons x rest ih =>
    obtain ⟨hx, hrest⟩ := hP
    have h1 := ih (hstep p older x.1 x.2 h0 hx) hrest
    rw [List.append_assoc] at h1
    exact h1

end Program

end CountedStrings
