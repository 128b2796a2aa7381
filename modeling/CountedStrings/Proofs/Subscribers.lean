import CountedStrings.Proofs.Atomicity
import CountedStrings.Proofs.Changes

/-!
# The first to ask gets the log

The place of the receiver of the log is given away once.  The library asks for it when logging is
first set up, and remembers what became of that; a program that embeds the library may have asked
before, or ask later.

## 1.  Who asks

`Step.wantsLog` are the steps that ask for the place, and `Taken.installs` tells from outside
whether a step got it.

## 2.  The place of the receiver

Of the place nothing is used but that it is given to whoever comes while it is free
(`subscribe_of_none`), and to nobody afterwards (`subscribe_of_some`).  So a set-up is one of two
things: the first one, which asks for the place (`setUp_of_none`), or a repetition of its answer.

## 3.  Runs

Before anybody asks, the place stays free (`logging_after_of_quiet`); once it is given away, it
stays with its receiver (`subscriber_after_of_some`); and once the library asked, its answer stays
(`answer_after_of_some`).  The two need not go together: the answer is remembered also if it was no,
and then no later set-up asks again.  What the receiver was given is what `Program.InEffect` speaks
of.  `first_subscriber_stays` is the law.
-/

namespace CountedStrings

/-! ## 1.  Who asks -/

/-- Whether the embedding program installs a receiver of its own. -/
def Step.embeds : Step → Bool
  | .embed => true
  | _ => false

/-- Whether a step asks for the place of the receiver. -/
def Step.wantsLog (s : Step) : Bool := s.setsUpLogging || s.embeds

/-- A step sets logging up, or is that of the embedding program, or does not ask. -/
theorem Step.asks_cases (s : Step) :
    s.setsUpLogging = true ∨ s = .embed ∨ s.wantsLog = false := by
  cases s with
  | setUpLogging | setUpProgram => exact .inl rfl
  | embed => exact .inr (.inl rfl)
  | _ => exact .inr (.inr rfl)

/-- Whether an event tells that the library became the receiver. -/
def Event.tellsInstalled : Event → Bool
  | .loggingInitialized installed _ => installed
  | _ => false

/-- Whether a step that was taken tells that it got the place of the receiver. -/
def Taken.installs (x : Taken) : Bool :=
  match x.step, x.answer.result with
  | .embed, .ok (.flag installed) => installed
  | .setUpLogging _ _, _ | .setUpProgram, _ => x.answer.events.any Event.tellsInstalled
  | _, _ => false

namespace Logging

/-! ## 2.  The place of the receiver -/

variable {l : Logging}

/-- The place is given to whoever comes while it is free. -/
theorem subscribe_of_none (h : l.subscriber = none) (s : Subscriber) :
    l.subscribe s = ({ l with subscriber := some s }, true) := by
  rw [subscribe, h]

/-- A place that is taken is given to nobody. -/
theorem subscribe_of_some {s' : Subscriber} (h : l.subscriber = some s') (s : Subscriber) :
    l.subscribe s = (l, false) := by
  rw [subscribe, h]

/-- Who asks for the place is told whether it was free. -/
theorem subscribe_snd (l : Logging) (s : Subscriber) :
    (l.subscribe s).2 = l.subscriber.isNone := by
  cases h : l.subscriber with
  | none =>
    rw [subscribe_of_none h]
    rfl
  | some s' =>
    rw [subscribe_of_some h]
    rfl

/-- Once somebody asked for the place, it is taken. -/
theorem isNone_subscribe (l : Logging) (s : Subscriber) :
    (l.subscribe s).1.subscriber.isNone = false := by
  cases h : l.subscriber with
  | none =>
    rw [subscribe_of_none h]
    rfl
  | some s' =>
    rw [subscribe_of_some h, h]
    rfl

/-- The library remembers nothing of what others ask for. -/
theorem answer_subscribe (l : Logging) (s : Subscriber) : (l.subscribe s).1.answer = l.answer := by
  cases h : l.subscriber with
  | none => rw [subscribe_of_none h]
  | some s' => rw [subscribe_of_some h]

/-- The receiver of the library, as configured. -/
def receiverOf (package : LogPackage) (c : Config) : Subscriber :=
  .printing (filterOf package c).1 c.logColours

/-- The first set-up asks for the place, remembers what became of that, and tells it. -/
theorem setUp_of_none (h : l.answer = none) (package : LogPackage) (c : Config) :
    l.setUp package c =
      ({ (l.subscribe (receiverOf package c)).1 with answer := some l.subscriber.isNone },
        l.subscriber.isNone,
        (filterOf package c).2 ++ [.loggingInitialized l.subscriber.isNone c.platform]) := by
  rw [← subscribe_snd l (receiverOf package c), setUp, h]
  rfl

/-- What is said about a filter does not tell who the receiver is. -/
theorem any_tellsInstalled_filterOf (package : LogPackage) (c : Config) :
    (filterOf package c).2.any Event.tellsInstalled = false := by
  rw [filterOf]
  split <;> rfl

/-- A text that is a filter is the filter. -/
theorem receiverOf_of_filter {package : LogPackage} {c : Config}
    (h : package.refusal? c.logFilter = none) :
    receiverOf package c = .printing c.logFilter c.logColours := by
  rw [receiverOf, filterOf, h]

/-- Where a text is no filter, warnings and errors are let through. -/
theorem receiverOf_of_refusal {package : LogPackage} {c : Config}
    (h : package.refusal? c.logFilter ≠ none) :
    receiverOf package c = .printing "warn" c.logColours := by
  obtain ⟨reason, hreason⟩ := Option.ne_none_iff_exists'.mp h
  rw [receiverOf, filterOf, hreason]
  rfl

end Logging

namespace Program

variable {p : Program}

/-- The configuration with which a step sets logging up. -/
def configAsked (p : Program) : Step → Config
  | .setUpLogging filter colours => ⟨Platform.current, filter, colours⟩
  | _ => p.configInForce

/-- The receiver for which a step asks for the place. -/
def receiver (p : Program) : Step → Subscriber
  | .embed => .embedding
  | s => Logging.receiverOf p.package (p.configAsked s)

theorem receiver_of_setsUpLogging (p : Program) {s : Step} (h : s.setsUpLogging = true) :
    p.receiver s = Logging.receiverOf p.package (p.configAsked s) := by
  cases s <;> first | rfl | cases h

/-- Whether a filter and colours are in effect: the receiver is the library, and of every event it
prints the lines of the package in these colours if the filter lets the record through. -/
def InEffect (p : Program) (filter : String) (colours : Bool) : Prop :=
  p.logging.subscriber = some (.printing filter colours) ∧
    ∀ event, p.logging.printed p.package event =
      if p.package.admits filter event.record then p.package.lines colours event.record else []

/-- What the receiver was given is in effect. -/
theorem inEffect_of_subscriber {filter : String} {colours : Bool}
    (h : p.logging.subscriber = some (.printing filter colours)) : p.InEffect filter colours := by
  refine ⟨h, fun event => ?_⟩
  rw [Logging.printed, h]

/-! ### One step -/

/-- A step that does not ask for the place leaves it alone. -/
theorem logging_step_of_quiet (p : Program) (thread : Nat) {s : Step} (h : s.wantsLog = false) :
    (p.step thread s).2.logging = p.logging ∧
      (Taken.mk thread s (p.step thread s).1).installs = false := by
  cases hs : s.isSetting with
  | false =>
    have hlogging : (p.step thread s).2.logging = p.logging :=
      congrArg World.logging (p.world_effect thread hs)
    cases s <;> first | exact ⟨hlogging, rfl⟩ | cases hs
  | true =>
    cases s with
    | setUpLogging | setUpProgram | embed => cases h
    | configInForce | isWindowsHost | isWindowsThrough => exact ⟨rfl, rfl⟩
    | setVariable | unsetVariable => exact ⟨rfl, rfl⟩
    | _ => cases hs

/-- A step that sets logging up. -/
theorem step_of_setsUpLogging (p : Program) (thread : Nat) {s : Step}
    (h : s.setsUpLogging = true) :
    (p.step thread s).2.logging = (p.logging.setUp p.package (p.configAsked s)).1 ∧
      (∀ filter colours, s = .setUpLogging filter colours →
        (p.step thread s).1.result =
          .ok (.flag (p.logging.setUp p.package (p.configAsked s)).2.1)) ∧
      (Taken.mk thread s (p.step thread s).1).installs =
        (p.logging.setUp p.package (p.configAsked s)).2.2.any Event.tellsInstalled := by
  cases s with
  | setUpLogging filter colours => exact ⟨rfl, fun _ _ _ => rfl, rfl⟩
  | setUpProgram => exact ⟨rfl, nofun, rfl⟩
  | _ => cases h

/-- The embedding program asks for the place. -/
theorem step_of_embed (p : Program) (thread : Nat) :
    (p.step thread .embed).2.logging = (p.logging.subscribe .embedding).1 ∧
      (p.step thread .embed).1.result = .ok (.flag (p.logging.subscribe .embedding).2) ∧
      (Taken.mk thread .embed (p.step thread .embed).1).installs =
        (p.logging.subscribe .embedding).2 :=
  ⟨rfl, rfl, rfl⟩

/-- **The place is free**: whoever asks for it gets it. -/
theorem subscriber_step_of_none (thread : Nat) {s : Step} (h : p.logging = .initial)
    (hs : s.wantsLog = true) :
    (p.step thread s).2.logging.subscriber = some (p.receiver s) ∧
      (Taken.mk thread s (p.step thread s).1).installs = true := by
  have hsubscribe : ∀ r, p.logging.subscribe r = ({ p.logging with subscriber := some r }, true) :=
    fun r => Logging.subscribe_of_none (by rw [h]; rfl) r
  rcases s.asks_cases with hsets | rfl | hquiet
  · obtain ⟨hlogging, -, hinstalls⟩ := p.step_of_setsUpLogging thread hsets
    rw [Logging.setUp_of_none (by rw [h]; rfl), hsubscribe, h] at hlogging hinstalls
    rw [hlogging, hinstalls, p.receiver_of_setsUpLogging hsets]
    simp [Event.tellsInstalled, Logging.initial]
  · obtain ⟨hlogging, -, hinstalls⟩ := p.step_of_embed thread
    rw [hlogging, hinstalls, hsubscribe]
    exact ⟨rfl, rfl⟩
  · rw [hquiet] at hs
    cases hs

/-- **The place is taken**: it stays with its receiver. -/
theorem subscriber_step_of_some (thread : Nat) {r : Subscriber}
    (h : p.logging.subscriber = some r) (s : Step) :
    (p.step thread s).2.logging.subscriber = some r ∧
      (Taken.mk thread s (p.step thread s).1).installs = false := by
  have hsubscribe : ∀ r', p.logging.subscribe r' = (p.logging, false) :=
    fun r' => Logging.subscribe_of_some h r'
  rcases s.asks_cases with hsets | rfl | hquiet
  · obtain ⟨hlogging, -, hinstalls⟩ := p.step_of_setsUpLogging thread hsets
    cases hanswer : p.logging.answer with
    | some answer =>
      rw [Logging.setUp_of_answer hanswer] at hlogging hinstalls
      rw [hlogging, hinstalls]
      exact ⟨h, rfl⟩
    | none =>
      rw [Logging.setUp_of_none hanswer, hsubscribe, h] at hlogging hinstalls
      rw [hlogging, hinstalls, List.any_append, Logging.any_tellsInstalled_filterOf]
      exact ⟨h, rfl⟩
  · obtain ⟨hlogging, -, hinstalls⟩ := p.step_of_embed thread
    rw [hlogging, hinstalls, hsubscribe]
    exact ⟨h, rfl⟩
  · obtain ⟨hlogging, hinstalls⟩ := p.logging_step_of_quiet thread hquiet
    exact ⟨(congrArg Logging.subscriber hlogging).trans h, hinstalls⟩

/-- Nothing but setting logging up makes the library ask. -/
theorem answer_step_of_not (p : Program) (thread : Nat) {s : Step} (h : s.setsUpLogging = false) :
    (p.step thread s).2.logging.answer = p.logging.answer := by
  rcases s.asks_cases with hsets | rfl | hquiet
  · rw [h] at hsets
    cases hsets
  · rw [(p.step_of_embed thread).1, Logging.answer_subscribe]
  · exact congrArg Logging.answer (p.logging_step_of_quiet thread hquiet).1

/-- Where logging is not set up, only the embedding program takes the place. -/
theorem isNone_subscriber_step (p : Program) (thread : Nat) {s : Step}
    (h : s.setsUpLogging = false) :
    (p.step thread s).2.logging.subscriber.isNone =
      (p.logging.subscriber.isNone && !s.embeds) := by
  rcases s.asks_cases with hsets | rfl | hquiet
  · rw [h] at hsets
    cases hsets
  · rw [(p.step_of_embed thread).1, Logging.isNone_subscribe]
    exact (Bool.and_false _).symm
  · have hembeds : s.embeds = false := by rwa [Step.wantsLog, h, Bool.false_or] at hquiet
    rw [(p.logging_step_of_quiet thread hquiet).1, hembeds, Bool.not_false, Bool.and_true]

/-- **The library asks once**: whenever logging is set up, the answer is remembered, and it is the
one that was remembered before, or whether the place is free. -/
theorem answer_step_of_setsUpLogging (p : Program) (thread : Nat) {s : Step}
    (h : s.setsUpLogging = true) :
    let answer := p.logging.answer.getD p.logging.subscriber.isNone
    (p.step thread s).2.logging.answer = some answer ∧
      ∀ filter colours, s = .setUpLogging filter colours →
        (p.step thread s).1.result = .ok (.flag answer) := by
  obtain ⟨hlogging, hresult, -⟩ := p.step_of_setsUpLogging thread h
  cases hanswer : p.logging.answer with
  | some answer =>
    rw [Logging.setUp_of_answer hanswer] at hlogging hresult
    rw [hlogging]
    exact ⟨hanswer, hresult⟩
  | none =>
    rw [Logging.setUp_of_none hanswer] at hlogging hresult
    rw [hlogging]
    exact ⟨rfl, hresult⟩

/-! ## 3.  Runs -/

/-- Before anybody asks, the place stays as it is. -/
theorem logging_after_of_quiet {steps : List (Nat × Step)}
    (h : ∀ x ∈ steps, x.2.wantsLog = false) (p : Program) :
    (p.after steps).logging = p.logging ∧ ∀ x ∈ p.history steps, x.installs = false := by
  induction steps generalizing p with
  | nil => exact ⟨rfl, by simp [history]⟩
  | cons x rest ih =>
    obtain ⟨hx, hrest⟩ := List.forall_mem_cons.mp h
    obtain ⟨hlogging, hinstalls⟩ := p.logging_step_of_quiet x.1 hx
    obtain ⟨hafter, hnone⟩ := ih hrest (p.step x.1 x.2).2
    exact ⟨hafter.trans hlogging, List.forall_mem_cons.mpr ⟨hinstalls, hnone⟩⟩

/-- A place that is taken stays taken. -/
theorem subscriber_after_of_some {r : Subscriber} (h : p.logging.subscriber = some r)
    (steps : List (Nat × Step)) :
    (p.after steps).logging.subscriber = some r ∧
      ∀ x ∈ p.history steps, x.installs = false := by
  induction steps generalizing p with
  | nil => exact ⟨h, by simp [history]⟩
  | cons x rest ih =>
    obtain ⟨hstep, hinstalls⟩ := subscriber_step_of_some x.1 h x.2
    obtain ⟨hafter, hnone⟩ := ih hstep
    exact ⟨hafter, List.forall_mem_cons.mpr ⟨hinstalls, hnone⟩⟩

/-- An answer stays, and is repeated. -/
theorem answer_after_of_some {answer : Bool} (h : p.logging.answer = some answer)
    (steps : List (Nat × Step)) :
    ∀ x ∈ p.history steps, ∀ filter colours, x.step = .setUpLogging filter colours →
      x.answer.result = .ok (.flag answer) := by
  induction steps generalizing p with
  | nil => simp [history]
  | cons x rest ih =>
    have hstep : (p.step x.1 x.2).2.logging.answer = some answer := by
      cases hsets : x.2.setsUpLogging with
      | true => rw [(p.answer_step_of_setsUpLogging x.1 hsets).1, h, Option.getD_some]
      | false => exact (p.answer_step_of_not x.1 hsets).trans h
    refine List.forall_mem_cons.mpr ⟨fun filter colours hx => ?_, ih hstep⟩
    have hsets : x.2.setsUpLogging = true := congrArg Step.setsUpLogging hx
    have hresult := (p.answer_step_of_setsUpLogging x.1 hsets).2 filter colours hx
    rw [h, Option.getD_some] at hresult
    exact hresult

/-- **Whenever logging is set up, the answer is the same**, as long as the library has not asked
before the run. -/
theorem result_of_setUpLogging (h : p.logging.answer = none) (steps : List (Nat × Step)) :
    ∀ x ∈ p.history steps, ∀ filter colours, x.step = .setUpLogging filter colours →
      x.answer.result = .ok (.flag (p.logging.subscriber.isNone &&
        !(steps.takeWhile fun x => !x.2.setsUpLogging).any fun x => x.2.embeds)) := by
  induction steps generalizing p with
  | nil => simp [history]
  | cons x rest ih =>
    cases hsets : x.2.setsUpLogging with
    | true =>
      obtain ⟨hstep, hresult⟩ := p.answer_step_of_setsUpLogging x.1 hsets
      rw [h, Option.getD_none] at hstep hresult
      rw [List.takeWhile_cons_of_neg (by simp [hsets]), List.any_nil, Bool.not_false, Bool.and_true]
      exact List.forall_mem_cons.mpr ⟨hresult, answer_after_of_some hstep rest⟩
    | false =>
      have hstep := (p.answer_step_of_not x.1 hsets).trans h
      have hrest := ih hstep
      rw [p.isNone_subscriber_step x.1 hsets, Bool.and_assoc, ← Bool.not_or] at hrest
      rw [List.takeWhile_cons_of_pos (by simp [hsets]), List.any_cons]
      refine List.forall_mem_cons.mpr ⟨fun filter colours hx => ?_, hrest⟩
      have hcall : x.2.setsUpLogging = true := congrArg Step.setsUpLogging hx
      rw [hsets] at hcall
      cases hcall

/-- A run in which some step is of a kind has a first step of that kind. -/
theorem exists_first {kind : Step → Bool} {steps : List (Nat × Step)}
    (h : (steps.any fun x => kind x.2) = true) :
    ∃ before thread s rest, steps = before ++ (thread, s) :: rest ∧
      (∀ x ∈ before, kind x.2 = false) ∧ kind s = true := by
  obtain ⟨⟨thread, s⟩, hfirst⟩ := Option.isSome_iff_exists.mp
    ((List.find?_isSome (p := fun x : Nat × Step => kind x.2)).mpr (List.any_eq_true.mp h))
  obtain ⟨hs, before, rest, hsteps, hbefore⟩ := List.find?_eq_some_iff_append.mp hfirst
  exact ⟨before, thread, s, rest, hsteps, fun x hx => by simpa using hbefore x hx, hs⟩

/-- **The receiver is the one for which the first of all asked.** -/
theorem subscriber_after_of_first (hp : p.logging = .initial) {before rest : List (Nat × Step)}
    {thread : Nat} {s : Step} (hbefore : ∀ x ∈ before, x.2.wantsLog = false)
    (hs : s.wantsLog = true) :
    (p.after (before ++ (thread, s) :: rest)).logging.subscriber =
        some ((p.after before).receiver s) ∧
      ((p.history (before ++ (thread, s) :: rest)).filter Taken.installs).length = 1 := by
  obtain ⟨hlogging, hnone⟩ := logging_after_of_quiet hbefore p
  obtain ⟨htaken, hinstalls⟩ := subscriber_step_of_none thread (hlogging.trans hp) hs
  obtain ⟨hafter, hnone'⟩ := subscriber_after_of_some htaken rest
  refine ⟨?_, ?_⟩
  · rw [after_append, after_cons, hafter]
  · rw [history_append, history, List.filter_append, List.filter_cons_of_pos hinstalls,
      List.filter_eq_nil_iff.mpr (by simpa using hnone),
      List.filter_eq_nil_iff.mpr (by simpa using hnone')]
    rfl

/-- The place after a run is free exactly if nobody asked for it. -/
theorem isNone_subscriber_after (hp : p.logging = .initial) (steps : List (Nat × Step)) :
    (p.after steps).logging.subscriber.isNone = !steps.any fun x => x.2.wantsLog := by
  cases hany : steps.any fun x => x.2.wantsLog with
  | false =>
    have hquiet : ∀ x ∈ steps, x.2.wantsLog = false := by simpa using hany
    rw [(logging_after_of_quiet hquiet p).1, hp]
    rfl
  | true =>
    obtain ⟨before, thread, s, rest, rfl, hbefore, hs⟩ := exists_first hany
    rw [(subscriber_after_of_first hp hbefore hs).1]
    rfl

/-- As many installations succeed as there are places. -/
theorem length_installs (hp : p.logging = .initial) (steps : List (Nat × Step)) :
    ((p.history steps).filter Taken.installs).length =
      if steps.any fun x => x.2.wantsLog then 1 else 0 := by
  cases hany : steps.any fun x => x.2.wantsLog with
  | false =>
    have hquiet : ∀ x ∈ steps, x.2.wantsLog = false := by simpa using hany
    rw [List.filter_eq_nil_iff.mpr (by simpa using (logging_after_of_quiet hquiet p).2)]
    rfl
  | true =>
    obtain ⟨before, thread, s, rest, rfl, hbefore, hs⟩ := exists_first hany
    exact (subscriber_after_of_first hp hbefore hs).2

/-- What the library asks for first is in effect for good. -/
theorem inEffect_after_of_first (hp : p.logging = .initial) {before rest : List (Nat × Step)}
    {thread : Nat} {s : Step} (hbefore : ∀ x ∈ before, x.2.wantsLog = false)
    (hs : s.setsUpLogging = true) {filter : String} {colours : Bool}
    (hreceiver : Logging.receiverOf p.package ((p.after before).configAsked s) =
      .printing filter colours) :
    (p.after (before ++ (thread, s) :: rest)).InEffect filter colours := by
  have hwants : s.wantsLog = true := by rw [Step.wantsLog, hs, Bool.true_or]
  refine inEffect_of_subscriber ?_
  rw [(subscriber_after_of_first hp hbefore hwants).1, receiver_of_setsUpLogging _ hs,
    (p.given_after before).2, hreceiver]

/-- **The first to ask gets the log**, and keeps it.  Take a process in which nobody has asked for
the place of the receiver yet, and let it do whatever it does.

* Whenever logging is set up, the answer is the same: that the library is the receiver exactly if
  the embedding program did not ask before logging was set up for the first time.
* The embedding program is told that it is the receiver exactly if nobody asked before.
* One installation succeeds if anybody asks at all, and none otherwise.
* There is no receiver exactly if nobody asked, and if the embedding program was the first to ask,
  the receiver is its own.
* If the library was the first to ask, then the configuration with which it did so is in effect, and
  no later one: its colours, and its filter, if the package takes it for one.  If the package does
  not, the filter that lets warnings through stands in for it.

Nothing is assumed about the package but that its answers do not change. -/
theorem first_subscriber_stays (hp : p.logging = .initial) (steps : List (Nat × Step)) :
    (∀ x ∈ p.history steps, ∀ filter colours, x.step = .setUpLogging filter colours →
      x.answer.result = .ok (.flag
        (!(steps.takeWhile fun x => !x.2.setsUpLogging).any fun x => x.2.embeds))) ∧
    (∀ before thread rest, steps = before ++ (thread, .embed) :: rest →
      ((p.after before).step thread .embed).1.result =
        .ok (.flag (!before.any fun x => x.2.wantsLog))) ∧
    ((p.history steps).filter Taken.installs).length =
      (if steps.any fun x => x.2.wantsLog then 1 else 0) ∧
    ((p.after steps).logging.subscriber = none ↔ ∀ x ∈ steps, x.2.wantsLog = false) ∧
    (∀ before thread rest, steps = before ++ (thread, .embed) :: rest →
      (∀ x ∈ before, x.2.wantsLog = false) →
        (p.after steps).logging.subscriber = some .embedding) ∧
    ∀ before thread s rest, steps = before ++ (thread, s) :: rest →
      (∀ x ∈ before, x.2.wantsLog = false) → s.setsUpLogging = true →
        let c := (p.after before).configAsked s
        (p.package.refusal? c.logFilter = none →
          (p.after steps).InEffect c.logFilter c.logColours) ∧
        (p.package.refusal? c.logFilter ≠ none →
          (p.after steps).InEffect "warn" c.logColours) := by
  refine ⟨?_, fun before thread rest _ => ?_, length_installs hp steps, ?_, ?_, ?_⟩
  · have hanswers := result_of_setUpLogging (p := p) (by rw [hp]; rfl) steps
    rw [hp] at hanswers
    exact hanswers
  · rw [(step_of_embed _ thread).2.1, Logging.subscribe_snd, isNone_subscriber_after hp]
  · rw [← Option.isNone_iff_eq_none, isNone_subscriber_after hp]
    simp
  · rintro before thread rest rfl hbefore
    exact (subscriber_after_of_first hp hbefore rfl).1
  · rintro before thread s rest rfl hbefore hs c
    exact ⟨fun h => inEffect_after_of_first hp hbefore hs (Logging.receiverOf_of_filter h),
      fun h => inEffect_after_of_first hp hbefore hs (Logging.receiverOf_of_refusal h)⟩

/-- In one run the embedding program comes first, so the library is told each time that it is not
the receiver.  In another one the library comes first, with no colours and then with colours.  In a
third one its first filter is none. -/
theorem receivers_of_three_runs :
    let package : LogPackage :=
      { refusal? := fun text =>
          if text = "wl_core=loud" then some "error parsing level filter" else none
        admits := fun filter record =>
          filter = "trace" || filter = "warn" && record.level.verbosity ≤ Level.warn.verbosity
        lines := fun _ record =>
          [record.level.name ++ " " ++ record.target ++ ": " ++ record.message] }
    let p : Program := start (.filledWith 7 64) ⟨∅⟩ [] package true
    let lost : List (Nat × Step) :=
      [(0, .clearSlot), (1, .embed), (0, .setUpProgram), (0, .setUpLogging "trace" true),
        (1, .embed), (2, .setUpLogging "warn" false)]
    let won : List (Nat × Step) :=
      [(0, .setUpLogging "off" false), (1, .embed), (0, .setUpProgram),
        (1, .setUpLogging "trace" true)]
    let refused : List (Nat × Step) :=
      [(0, .setUpLogging "wl_core=loud" true), (1, .setUpLogging "trace" false)]
    p.logging = .initial ∧
      (∀ x ∈ p.history lost, ∀ filter colours, x.step = .setUpLogging filter colours →
        x.answer.result = .ok (.flag false)) ∧
      (p.after lost).logging.subscriber = some .embedding ∧
      (∀ x ∈ p.history won, ∀ filter colours, x.step = .setUpLogging filter colours →
        x.answer.result = .ok (.flag true)) ∧
      ((p.history won).filter Taken.installs).length = 1 ∧
      (p.after won).InEffect "off" false ∧
      (p.after refused).InEffect "warn" true := by
  intro package p lost won refused
  obtain ⟨hlost, -, -, -, hembedding, -⟩ := first_subscriber_stays (p := p) rfl lost
  obtain ⟨hwon, -, hcount, -, -, hlibrary⟩ := first_subscriber_stays (p := p) rfl won
  obtain ⟨-, -, -, -, -, hrefused⟩ := first_subscriber_stays (p := p) rfl refused
  exact ⟨rfl, hlost, hembedding [(0, .clearSlot)] 1 _ rfl (by decide), hwon, hcount,
    (hlibrary [] 0 (.setUpLogging "off" false) _ rfl (by decide) rfl).1 (by decide),
    (hrefused [] 0 (.setUpLogging "wl_core=loud" true) _ rfl (by decide) rfl).2 (by decide)⟩

end Program

end CountedStrings
