import CountedStrings.Proofs.Decoding
import CountedStrings.Proofs.Changes

/-!
# The configuration is settled once

A process takes its configuration from its environment, but only when something needs it for the
first time, and never again.  So which environment counts depends on the whole run.

## 1.  The environment

Nothing but setting and unsetting variables changes it (`environment_after`).
`Environment.ReadAs` says what look-up of texts an environment gives: a value that is no text counts
as unset.

## 2.  The configuration

`Step.needsConfig` are the steps that settle the configuration (`settings_step`), whether or not
they answer with it: a question about the platform does, and so does a set-up of logging that is too
late to count, since the configuration is what it is called with.

A run up to the first of these steps leaves the configuration open, and from that step on it stays
(`config_after_of_none`, `config_after_of_some`).  `configuration_is_settled_once` is the law.
-/

namespace CountedStrings

/-! ## 1.  The environment -/

/-- What a step does to the environment. -/
def Step.changeEnvironment : Step → Environment → Environment
  | .setVariable name value, e => e.set name value
  | .unsetVariable name, e => e.unset name
  | _, e => e

namespace Environment

/-- The environment after the steps of a list. -/
def changedBy (e : Environment) (steps : List (Nat × Step)) : Environment :=
  steps.foldl (fun e x => x.2.changeEnvironment e) e

/-- Whether a look-up of texts is that of an environment: it finds the texts whose bytes are the
values, and nothing where a value is no text. -/
def ReadAs (e : Environment) (lookup : String → Option String) : Prop :=
  ∀ name text, lookup name = some text ↔
    e.lookup (Bytes.ofText name) = some (Bytes.ofText text)

theorem readAs_lookupText (e : Environment) : e.ReadAs e.lookupText := by
  intro name text
  rw [lookupText, Option.bind_eq_some_iff]
  constructor
  · rintro ⟨value, hvalue, htext⟩
    rw [← Text.Utf8.decode_eq_some_iff.mp htext]
    exact hvalue
  · intro h
    exact ⟨_, h, Text.Utf8.decode_eq_some_iff.mpr rfl⟩

/-- An environment gives one look-up of texts. -/
theorem ReadAs.eq_lookupText {e : Environment} {lookup : String → Option String}
    (h : e.ReadAs lookup) : lookup = e.lookupText := by
  funext name
  exact Option.ext fun text => (h name text).trans (e.readAs_lookupText name text).symm

end Environment

/-! ## 2.  The configuration -/

/-- Whether a step needs the configuration of the process. -/
def Step.needsConfig : Step → Bool
  | .configInForce | .setUpProgram | .isWindowsHost | .isWindowsThrough => true
  | _ => false

namespace Program

/-- **What a step does to the environment and the configuration.** -/
theorem settings_step (p : Program) (thread : Nat) (s : Step) :
    (p.step thread s).2.environment = s.changeEnvironment p.environment ∧
      (p.step thread s).2.config =
        if s.needsConfig then some p.configInForce else p.config := by
  cases hs : s.isSetting with
  | false =>
    have hworld : (p.step thread s).2.world = p.world := p.world_effect thread hs
    have henvironment : (p.step thread s).2.environment = p.environment :=
      congrArg World.environment hworld
    have hconfig : (p.step thread s).2.config = p.config := congrArg World.config hworld
    cases s <;> first | exact ⟨henvironment, hconfig⟩ | cases hs
  | true => cases s <;> first | exact ⟨rfl, rfl⟩ | cases hs

/-- **Only setting and unsetting variables changes the environment.** -/
theorem environment_after (p : Program) (steps : List (Nat × Step)) :
    (p.after steps).environment = p.environment.changedBy steps := by
  induction steps generalizing p with
  | nil => rfl
  | cons x rest ih =>
    rw [Environment.changedBy, List.foldl_cons, ← (p.settings_step x.1 x.2).1]
    exact ih _

/-- The configuration in force is what is answered to whoever asks for it. -/
theorem result_configInForce {p : Program} {thread : Nat} {s : Step} (h : s = .configInForce) :
    (p.step thread s).1.result = .ok (.config p.configInForce) := by
  rw [h]
  rfl

/-- A configuration that is settled stays, and is answered. -/
theorem config_after_of_some {p : Program} {c : Config} (hp : p.config = some c)
    (steps : List (Nat × Step)) :
    (p.after steps).config = some c ∧
      ∀ x ∈ p.history steps, x.step = .configInForce → x.answer.result = .ok (.config c) := by
  induction steps generalizing p with
  | nil => exact ⟨hp, by simp [history]⟩
  | cons x rest ih =>
    have hinforce : p.configInForce = c := by rw [configInForce, hp, Option.getD_some]
    have hstep : (p.step x.1 x.2).2.config = some c := by
      rw [(p.settings_step x.1 x.2).2, hinforce, hp]
      exact ite_self _
    obtain ⟨hafter, hanswers⟩ := ih hstep
    refine ⟨hafter, List.forall_mem_cons.mpr ⟨fun hx => ?_, hanswers⟩⟩
    rw [← hinforce]
    exact result_configInForce hx

/-- **A configuration that is not settled** is settled by the first step that needs it, as the
environment is then. -/
theorem config_after_of_none {p : Program} (hp : p.config = none) (steps : List (Nat × Step)) :
    let first := steps.takeWhile fun x => !x.2.needsConfig
    let c := Config.ofLookup (p.environment.changedBy first).lookupText
    (p.after steps).config = (if steps.any fun x => x.2.needsConfig then some c else none) ∧
      ∀ x ∈ p.history steps, x.step = .configInForce → x.answer.result = .ok (.config c) := by
  induction steps generalizing p with
  | nil => exact ⟨hp, by simp [history]⟩
  | cons x rest ih =>
    have hinforce : p.configInForce = p.configNow := by
      rw [configInForce, hp, Option.getD_none]
    obtain ⟨henvironment, hconfig⟩ := p.settings_step x.1 x.2
    cases hx : x.2.needsConfig with
    | true =>
      -- this is the first step that needs the configuration
      rw [hx, if_pos rfl, hinforce] at hconfig
      obtain ⟨hafter, hanswers⟩ := config_after_of_some hconfig rest
      rw [List.takeWhile_cons_of_neg (by simp [hx]), List.any_cons, hx]
      refine ⟨hafter, List.forall_mem_cons.mpr ⟨fun hcall => ?_, hanswers⟩⟩
      refine (result_configInForce hcall).trans ?_
      rw [hinforce]
      rfl
    | false =>
      rw [hx, hp] at hconfig
      obtain ⟨hafter, hanswers⟩ := ih hconfig
      rw [henvironment] at hafter hanswers
      rw [List.takeWhile_cons_of_pos (by simp [hx]), List.any_cons, hx, Bool.false_or]
      refine ⟨hafter, List.forall_mem_cons.mpr ⟨fun hcall => ?_, hanswers⟩⟩
      have hneeds : x.2.needsConfig = true := congrArg Step.needsConfig hcall
      rw [hx] at hneeds
      cases hneeds

/-- **The configuration is settled once**, by the first step that needs it.  Take a process that
has not settled it yet, and let it do whatever it does.

* Whoever asks for the configuration in force is answered, at every time, with the configuration
  that the environment gave just before the first of all steps that need it: asking for it, setting
  up the program, also where logging is set up already, and asking for the platform.  No later
  change of the environment alters that.
* It is settled as soon as one of these steps was taken, and by no other.
* Whoever asks what the environment gives at the moment is answered with what it gives at that
  moment.

The environment is that of the start, with the variables set and unset since then; a value that is
no text counts as unset. -/
theorem configuration_is_settled_once {p : Program} (hp : p.config = none)
    (steps : List (Nat × Step)) :
    (∃ lookup,
      (p.environment.changedBy (steps.takeWhile fun x => !x.2.needsConfig)).ReadAs lookup ∧
      (p.after steps).config =
        (if steps.any fun x => x.2.needsConfig then some (.ofLookup lookup) else none) ∧
      ∀ x ∈ p.history steps, x.step = .configInForce →
        x.answer.result = .ok (.config (.ofLookup lookup))) ∧
    ∀ before thread rest, steps = before ++ (thread, .configNow) :: rest →
      ∃ lookup, (p.environment.changedBy before).ReadAs lookup ∧
        ((p.after before).step thread .configNow).1.result =
          .ok (.config (.ofLookup lookup)) := by
  refine ⟨?_, fun before thread rest _ => ?_⟩
  · obtain ⟨hafter, hanswers⟩ := config_after_of_none hp steps
    exact ⟨_, Environment.readAs_lookupText _, hafter, hanswers⟩
  · refine ⟨_, Environment.readAs_lookupText _, ?_⟩
    rw [← environment_after]
    rfl

/-- A filter that is no text is replaced by one that is, white space around it, before the platform
is asked for.  What happens to the variables afterwards does not count. -/
theorem configuration_of_platform_question :
    let p : Program := start (.filledWith 7 64) ⟨∅⟩ [] .silent true
    let filter : Bytes := Bytes.ofText Config.filterVariable
    let steps : List (Nat × Step) :=
      [(0, .setVariable filter [0xFF]), (1, .configNow), (0, .setUpLogging "trace" true),
        (0, .setVariable filter (Bytes.ofText " debug ")), (1, .isWindowsThrough),
        (1, .setVariable filter (Bytes.ofText "off")), (0, .setUpProgram), (0, .configNow),
        (1, .configInForce)]
    p.config = none ∧
      (p.after steps).config = some ⟨.other, "debug", false⟩ ∧
      (∀ x ∈ p.history steps, x.step = .configInForce →
        x.answer.result = .ok (.config ⟨.other, "debug", false⟩)) ∧
      ((p.after [(0, .setVariable filter [0xFF])]).step 1 .configNow).1.result =
        .ok (.config Config.standard) := by
  intro p filter steps
  obtain ⟨⟨lookup, hlookup, hafter, hanswers⟩, hnow⟩ :=
    configuration_is_settled_once (p := p) rfl steps
  obtain ⟨lookup', hlookup', hresult⟩ := hnow [(0, .setVariable filter [0xFF])] 1 _ rfl
  cases hlookup.eq_lookupText
  cases hlookup'.eq_lookupText
  have hsettled : Config.ofLookup (p.environment.changedBy
      (steps.takeWhile fun x => !x.2.needsConfig)).lookupText = ⟨.other, "debug", false⟩ := by
    decide +kernel
  have hstandard : Config.ofLookup (p.environment.changedBy
      [(0, .setVariable filter [0xFF])]).lookupText = Config.standard := by
    decide +kernel
  rw [hsettled] at hafter hanswers
  rw [hstandard] at hresult
  exact ⟨rfl, hafter, hanswers, hresult⟩

end Program

end CountedStrings
