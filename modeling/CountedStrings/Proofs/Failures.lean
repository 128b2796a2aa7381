import CountedStrings.Proofs.Turns

/-!
# Failures, and what is told of them

A failure of the library is told twice: the log gets an alarm, and if the call came through an entry
point, the slot of the calling thread gets a code.  This file says once and for all that both are
told faithfully, for every call that there is.

## 1.  Failures of calls

`Outcome.failures` lists why a call failed, which is nothing or one thing.  Through the entry points
a call may stand for a row of accesses to single bytes, each of which can fail: `fillFailures`,
`scanFailures` and `PointerCall.failures`.

## 2.  Faithful calls

An outcome `IsLogged` if its alarms are the reports of its failures.  A call through an entry point
*tells* of a list of failures (`Recorded.Tells`) if its alarms are their reports, in order, and its
code is that of the last one.  Both are kept by putting calls one after the other, so it is enough
to look at single accesses, at owners and at births.

## 3.  Failures behind a step

`Program.failuresBehind`: why the calls of the library fail that an entry point passes on.
`Program.failures` adds the failure of a step that calls the library itself.
-/

namespace CountedStrings

/-! ## 1.  Failures of calls -/

/-- Why a call failed, if it did. -/
def Outcome.failures {α : Type} (x : Outcome α) : List StringError :=
  match x.result with
  | .ok _ => []
  | .error error => [error]

/-- Why the writes of a row failed, in order: a failed write leaves its bytes to the next one. -/
def fillFailures {α : Type} (write : α → Int → UInt8 → Outcome α) (a : α) (index : Int) :
    Bytes → List StringError
  | [] => []
  | byte :: rest =>
    (write a index byte).failures ++
      match (write a index byte).result with
      | .ok b => fillFailures write b (index + 1) rest
      | .error _ => fillFailures write a (index + 1) rest

/-- Why the reads of a row failed, in order. -/
def scanFailures (read : Int → Outcome UInt8) (index : Int) : Nat → List StringError
  | 0 => []
  | count + 1 => (read index).failures ++ scanFailures read (index + 1) count

/-- Why the accesses of a call failed, in order.  Owners come and go without failures. -/
def PointerCall.failures {α : Type} (read : α → Int → Outcome UInt8)
    (write : α → Int → UInt8 → Outcome α) (a : α) : PointerCall → List StringError
  | .setByte index value => (write a index (UInt8.ofInt value)).failures
  | .getByte index => (read a index).failures
  | .fill index bytes => fillFailures write a index bytes
  | .scan index count => scanFailures (read a) index count
  | .retain | .release | .refcount => []

namespace Outcome

variable {α β : Type}

/-- Using a value adds no failure. -/
@[simp] theorem failures_map (f : α → β) (x : Outcome α) : (f <$> x).failures = x.failures := by
  rw [failures, result_map]
  cases h : x.result <;> simp [failures, h, Except.map]

theorem failures_of_ok {x : Outcome α} {a : α} (h : x.result = .ok a) : x.failures = [] := by
  rw [failures, h]

theorem failures_of_error {x : Outcome α} {error : StringError} (h : x.result = .error error) :
    x.failures = [error] := by
  rw [failures, h]

end Outcome

/-! ## 2.  Faithful calls -/

/-- What the alarms among some events tell of.  An alarm that tells of no failure shows, too. -/
def Event.alarms (events : List Event) : List (Option StringError) :=
  (events.filter Event.isAlarm).map Event.failure?

/-- The code of the last of some failures. -/
def lastCode? (errors : List StringError) : Option ErrorCode :=
  errors.getLast?.map StringError.code

namespace Event

@[simp] theorem alarms_append (first second : List Event) :
    alarms (first ++ second) = alarms first ++ alarms second := by
  rw [alarms, List.filter_append, List.map_append]
  rfl

/-- Without alarms there is nothing to tell of. -/
theorem alarms_of_isAlarm {events : List Event} (h : ∀ e ∈ events, e.isAlarm = false) :
    alarms events = [] := by
  rw [alarms, List.filter_eq_nil_iff.mpr fun e he => by simp [h e he], List.map_nil]

theorem alarms_of_isNote {events : List Event} (h : ∀ e ∈ events, e.isNote = true) :
    alarms events = [] :=
  alarms_of_isAlarm fun e he => isAlarm_of_isNote (h e he)

end Event

theorem lastCode?_append (first second : List StringError) :
    lastCode? (first ++ second) = (lastCode? second).or (lastCode? first) := by
  rw [lastCode?, List.getLast?_append, Option.map_or]
  rfl

/-- The alarms of a call are the reports of its failures. -/
def Outcome.IsLogged {α : Type} (x : Outcome α) : Prop :=
  Event.alarms x.events = x.failures.map some

/-- A call through an entry point tells of some failures: its alarms are their reports, in order,
and its code is that of the last one. -/
structure Recorded.Tells {α : Type} (x : Recorded α) (errors : List StringError) : Prop where
  code_eq : x.code = lastCode? errors
  alarms_eq : Event.alarms x.events = errors.map some

namespace Outcome

variable {α β : Type}

theorem IsLogged.pure (a : α) : (Pure.pure a : Outcome α).IsLogged := rfl

theorem IsLogged.map {x : Outcome α} (h : x.IsLogged) (f : α → β) : (f <$> x).IsLogged := by
  rw [IsLogged, events_map, failures_map]
  exact h

/-- One faithful call after another is a faithful call. -/
theorem IsLogged.bind {x : Outcome α} (hx : x.IsLogged) {f : α → Outcome β}
    (hf : ∀ a, x.result = .ok a → (f a).IsLogged) : (x >>= f).IsLogged := by
  cases h : x.result with
  | error error =>
    rw [IsLogged, failures_of_error h] at hx
    rw [bind_error h]
    exact hx
  | ok a =>
    rw [IsLogged, failures_of_ok h] at hx
    rw [bind_ok h]
    show Event.alarms (x.events ++ (f a).events) = _
    rw [Event.alarms_append, hx]
    exact hf a h

/-- An access that is turned away is reported once. -/
theorem IsLogged.refusal (index : Int) (bound : Nat) :
    (CountedStrings.refusal index bound : Outcome α).IsLogged := rfl

/-- An entry point passes on what a faithful call tells of. -/
theorem IsLogged.orRecord {x : Outcome α} (h : x.IsLogged) (neutral : α) :
    (x.orRecord neutral).Tells x.failures := by
  refine ⟨?_, ?_⟩
  · cases hx : x.result with
    | ok a => rw [orRecord_ok hx, failures_of_ok hx]; rfl
    | error error => rw [orRecord_error hx, failures_of_error hx]; rfl
  · rw [events_orRecord]
    exact h

end Outcome

namespace Recorded

variable {α β : Type}

theorem Tells.pure (a : α) : (Pure.pure a : Recorded α).Tells [] := ⟨rfl, rfl⟩

/-- Calls one after the other tell of the failures one after the other. -/
theorem Tells.bind {x : Recorded α} {errors errors' : List StringError} (hx : x.Tells errors)
    {f : α → Recorded β} (hf : (f x.value).Tells errors') :
    (x >>= f).Tells (errors ++ errors') := by
  refine ⟨?_, ?_⟩
  · rw [code_bind, hx.code_eq, hf.code_eq, lastCode?_append]
  · rw [events_bind, Event.alarms_append, hx.alarms_eq, hf.alarms_eq, List.map_append]

/-- A call that tells of nothing adds nothing. -/
theorem Tells.bind_quiet {x : Recorded α} {errors : List StringError} (hx : x.Tells errors)
    {f : α → Recorded β} (hf : (f x.value).Tells []) : (x >>= f).Tells errors := by
  have hboth := hx.bind hf
  rw [List.append_nil] at hboth
  exact hboth

theorem Tells.bind_pure {x : Recorded α} {errors : List StringError} (hx : x.Tells errors)
    (f : α → β) : (x >>= fun a => Pure.pure (f a)).Tells errors :=
  hx.bind_quiet (Tells.pure _)

end Recorded

/-! ### Accesses and owners -/

theorem Buffer.isLogged_readAt (buffer : Buffer) (index : Int) :
    (buffer.readAt index).IsLogged := by
  rw [readAt_eq]
  split
  · exact Outcome.IsLogged.pure _
  · exact Outcome.IsLogged.refusal index addressBound

theorem Buffer.isLogged_writeAt (buffer : Buffer) (index : Int) (value : UInt8) :
    (buffer.writeAt index value).IsLogged := by
  rw [writeAt_eq]
  split
  · exact Outcome.IsLogged.pure _
  · exact Outcome.IsLogged.refusal index addressBound

namespace Str

theorem isLogged_readAt (s : Str) (index : Int) : (s.readAt index).IsLogged := by
  rw [readAt_eq]
  split
  · exact Outcome.IsLogged.pure _
  · exact Outcome.IsLogged.refusal index s.readBound

theorem isLogged_writeAt (s : Str) (index : Int) (value : UInt8) :
    (s.writeAt index value).IsLogged := by
  rw [writeAt_eq]
  split
  · exact Outcome.IsLogged.pure _
  · exact Outcome.IsLogged.refusal index (s.writeBound value)

theorem isLogged_retain (s : Str) : s.retain.IsLogged := by
  cases h : s.ownedCapacity with
  | none => rw [retain_of_foreign h]; exact Outcome.IsLogged.pure s
  | some capacity => rw [retain_of_owned h]; rfl

theorem isLogged_release (s : Str) : s.release.IsLogged := by
  cases h : s.ownedCapacity with
  | none => rw [release_of_foreign h]; exact Outcome.IsLogged.pure _
  | some capacity =>
    by_cases hr : 0 < s.refcount
    · rw [release_of_pos h hr]; rfl
    · obtain ⟨block, -, hs⟩ := release_of_not_pos h hr
      rw [hs]; rfl

end Str

/-- **Every way of making a string is faithful.** -/
theorem Birth.isLogged {x : Outcome (Option Str)} (h : Birth x) : x.IsLogged := by
  cases h with
  | absent hn => exact Event.alarms_of_isNote hn
  | fresh hn _ =>
    show Event.alarms (_ ++ [_]) = []
    rw [Event.alarms_append, Event.alarms_of_isNote hn]
    rfl
  | failed hn ha =>
    show Event.alarms (_ ++ [_]) = _
    rw [Event.alarms_append, Event.alarms_of_isNote hn, Event.alarms, List.filter_cons_of_pos
      (Event.isAlarm_of_failure? ha), List.filter_nil, List.map_singleton, ha]
    rfl

theorem ArgumentVector.isLogged_get (argv : ArgumentVector) (index : Int) :
    (argv.get index).IsLogged := by
  cases argv with
  | none => exact Outcome.IsLogged.pure none
  | some entries =>
    rw [get, checkedIndex_then]
    split
    · exact Outcome.IsLogged.pure _
    · exact Outcome.IsLogged.refusal index addressBound

/-! ### Rows -/

/-- The low byte of the number of a byte is that byte. -/
theorem ofInt_toNat (b : UInt8) : UInt8.ofInt b.toNat = b := by
  have hb : b.toNat < 256 := b.toNat_lt
  have hmod : ((b.toNat : Int) % 256).toNat = b.toNat := by omega
  show UInt8.ofNat ((b.toNat : Int) % 256).toNat = b
  rw [hmod]
  exact UInt8.ofNat_toNat

section Rows

variable {α : Type} {write : α → Int → UInt8 → Outcome α}
  {set : Option α → Int → Int → Recorded (Option α)}

/-- A row of writes tells of the failures of its writes. -/
theorem fillWith_tells (hwrite : ∀ a index value, (write a index value).IsLogged)
    (hset : ∀ a index value, set (some a) index value =
      (some <$> write a index (UInt8.ofInt value)).orRecord (some a))
    (a : α) (index : Int) (bytes : Bytes) :
    (fillWith set (some a) index bytes).Tells (fillFailures write a index bytes) := by
  induction bytes generalizing a index with
  | nil => exact Recorded.Tells.pure (some a)
  | cons byte rest ih =>
    have hbyte : UInt8.ofInt byte.toNat = byte := ofInt_toNat byte
    have hfirst := ((hwrite a index byte).map some).orRecord (some a)
    rw [Outcome.failures_map] at hfirst
    rw [fillWith, hset, hbyte]
    refine hfirst.bind ?_
    cases h : (write a index byte).result with
    | ok b =>
      rw [Outcome.orRecord_ok (a := some b) (by rw [Outcome.result_map, h]; rfl)]
      exact ih b (index + 1)
    | error error =>
      rw [Outcome.orRecord_error (by rw [Outcome.result_map, h]; rfl)]
      exact ih a (index + 1)

/-- A row of reads tells of the failures of its reads. -/
theorem scanWith_tells {read : Int → Outcome UInt8} {get : Int → Recorded Int}
    (hget : ∀ index, (get index).Tells (read index).failures) (index : Int) (count : Nat) :
    (scanWith get index count).Tells (scanFailures read index count) := by
  induction count generalizing index with
  | zero => exact Recorded.Tells.pure []
  | succ count ih => exact (hget index).bind ((ih (index + 1)).bind_pure _)

end Rows

theorem Counted.getByte_tells (s : Str) (index : Int) :
    (Counted.getByte (some s) index).Tells (s.readAt index).failures := by
  have h := (s.isLogged_readAt index).orRecord 0
  rw [Counted.getByte, Recorded.map_eq]
  exact ⟨h.code_eq, h.alarms_eq⟩

/-- A byte that was read is noted, even if none was; that is no alarm. -/
theorem Plain.getByte_tells (buffer : Buffer) (index : Int) :
    (Plain.getByte (some buffer) index).Tells (buffer.readAt index).failures := by
  have h := (Buffer.isLogged_readAt buffer index).orRecord 0
  exact h.bind_quiet ⟨rfl, rfl⟩

namespace PointerCall

/-- **Every call through the entry points for strings tells of its failures.** -/
theorem runCounted_tells (s : Str) (c : PointerCall) :
    (c.runCounted (some s)).Tells (c.failures Str.readAt Str.writeAt s) := by
  cases c with
  | setByte index value =>
    have h := ((s.isLogged_writeAt index (UInt8.ofInt value)).map some).orRecord (some s)
    rw [Outcome.failures_map] at h
    exact h.bind_pure _
  | getByte index => exact (Counted.getByte_tells s index).bind_pure _
  | fill index bytes =>
    exact (fillWith_tells Str.isLogged_writeAt (fun _ _ _ => rfl) s index bytes).bind_pure _
  | scan index count => exact (scanWith_tells (Counted.getByte_tells s) index count).bind_pure _
  | retain =>
    obtain ⟨t, ht, -⟩ := s.retain_life
    have h := (s.isLogged_retain.map some).orRecord (some s)
    rw [Outcome.failures_map, Outcome.failures_of_ok ht] at h
    exact h.bind_pure _
  | release =>
    obtain ⟨left, hleft, -⟩ := s.release_leaves
    have h := (s.isLogged_release.map some).orRecord none
    rw [Outcome.failures_map, Outcome.failures_of_ok hleft] at h
    refine h.bind_quiet ?_
    rw [Outcome.orRecord_ok (a := some left) (by rw [Outcome.result_map, hleft]; rfl)]
    exact Recorded.Tells.pure _
  | refcount => exact Recorded.Tells.pure _

/-- **Every call through the entry points for bytes tells of its failures.** -/
theorem runPlain_tells {buffer : Buffer} {c : PointerCall}
    {x : Recorded (Option Buffer × Reply)} (hx : c.runPlain (some buffer) = some x) :
    x.Tells (c.failures Buffer.readAt Buffer.writeAt buffer) := by
  cases c with
  | setByte index value =>
    have h := ((Buffer.isLogged_writeAt buffer index (UInt8.ofInt value)).map some).orRecord
      (some buffer)
    rw [Outcome.failures_map] at h
    rw [← Option.some.inj hx]
    exact h.bind_pure _
  | getByte index =>
    rw [← Option.some.inj hx]
    exact (Plain.getByte_tells buffer index).bind_pure _
  | fill index bytes =>
    rw [← Option.some.inj hx]
    exact (fillWith_tells Buffer.isLogged_writeAt (fun _ _ _ => rfl) buffer index bytes).bind_pure _
  | scan index count =>
    rw [← Option.some.inj hx]
    exact (scanWith_tells (Plain.getByte_tells buffer) index count).bind_pure _
  | retain => cases hx
  | release => cases hx
  | refcount => cases hx

/-- There are no entry points for the owners of bytes, so nothing about them fails. -/
theorem failures_of_runPlain {buffer : Buffer} {c : PointerCall}
    (hx : c.runPlain (some buffer) = none) :
    c.failures Buffer.readAt Buffer.writeAt buffer = [] := by
  cases c with
  | retain => rfl
  | release => rfl
  | refcount => rfl
  | _ => cases hx

end PointerCall

/-! ## 3.  Failures behind a step -/

/-- What a step returns and reports, as an outcome. -/
def Effect.outcome (e : Effect) : Outcome Reply := ⟨e.result, e.events⟩

namespace Program

/-- Why the calls of the library fail that an entry point passes on: nothing fails where there is no
string to speak of, or where the call would leave it. -/
def failuresBehind (p : Program) : Step → List StringError
  | .makeThrough name source =>
    if p.isFree name then (p.outcomeBehind source).failures else []
  | .callThrough .counted (some name) c =>
    match p.binding? name with
    | some (.counted s) =>
      if c.staysInside s.vouchesFor then c.failures Str.readAt Str.writeAt s else []
    | _ => []
  | .callThrough .plain (some name) c =>
    match (p.binding? name).bind buffer? with
    | some buffer =>
      if c.staysInside buffer.vouchesFor then c.failures Buffer.readAt Buffer.writeAt buffer else []
    | none => []
  | .entryThrough argv index => (argv.get index).failures
  | _ => []

/-- Why the calls of a step fail, in order: those of the library itself, and those that an entry
point passes on. -/
def failures (p : Program) (thread : Nat) (s : Step) : List StringError :=
  (p.effect thread s).outcome.failures ++ p.failuresBehind s

end Program

/-- A step about a name that goes through an entry point tells of some failures: its alarms are
their reports, in order, the slot of its thread holds the code of the last one, if there is one, and
nothing else is changed but what the name stands for. -/
structure Effect.Tells (p : Program) (thread : Nat) (subject : Option String) (e : Effect)
    (errors : List StringError) : Prop where
  after_eq : ∃ held, p.Rebinds subject held ∧ e.after = held.absorb thread (lastCode? errors)
  alarms_eq : Event.alarms e.events = errors.map some

namespace Program

theorem tells_nothing (p : Program) (thread : Nat) (subject : Option String) (reply : Reply) :
    (Effect.tell p reply).Tells p thread subject [] := ⟨⟨p, .same, rfl⟩, rfl⟩

theorem tells_makeThrough (p : Program) (thread : Nat) (name : String) (source : CountedSource) :
    (p.makeThrough thread name source).Tells p thread (some name)
      (p.failuresBehind (.makeThrough name source)) := by
  rcases p.makeThrough_cases thread name source with ⟨reply, hx, hfree⟩ | ⟨hfree, hx⟩
  · rw [hx, failuresBehind, if_neg (by simp [hfree])]
    exact p.tells_nothing thread _ reply
  · have hlogged := (p.outcomeBehind_birth source).isLogged
    rw [failuresBehind, if_pos hfree]
    rcases hx with ⟨s, hs, hx⟩ | ⟨error, he, hx⟩
    · rw [hx]
      refine ⟨⟨_, p.rebinds_bindNew name s, ?_⟩, hlogged⟩
      rw [Outcome.failures_of_ok hs]
      rfl
    · rw [hx]
      refine ⟨⟨_, p.rebinds_bindNew name none, ?_⟩, hlogged⟩
      rw [Outcome.failures_of_error he]
      rfl

/-- Behind a call on a string that is there are the failures of its accesses. -/
theorem failuresBehind_of_counted {p : Program} {name : String} {s : Str} {c : PointerCall}
    (hs : p.binding? name = some (.counted s)) (hi : c.staysInside s.vouchesFor = true) :
    p.failuresBehind (.callThrough .counted (some name) c) =
      c.failures Str.readAt Str.writeAt s := by
  simp only [failuresBehind, hs, hi, if_true]

/-- Behind a call on bytes that are there are the failures of its accesses. -/
theorem failuresBehind_of_buffer {p : Program} {name : String} {b : Binding} {buffer : Buffer}
    {c : PointerCall} (hb : p.binding? name = some b) (hbuffer : buffer? b = some buffer)
    (hi : c.staysInside buffer.vouchesFor = true) :
    p.failuresBehind (.callThrough .plain (some name) c) =
      c.failures Buffer.readAt Buffer.writeAt buffer := by
  simp only [failuresBehind, hb, Option.bind_some, hbuffer, hi, if_true]

theorem tells_callCounted (p : Program) (thread : Nat) (name : Option String) (c : PointerCall) :
    (p.callCounted thread name c).Tells p thread name
      (p.failuresBehind (.callThrough .counted name c)) := by
  rcases p.callCounted_cases thread name c with ⟨reply, hx, hout⟩ | ⟨n, s, rfl, hs, hinside, hx⟩
  · have hnone : p.failuresBehind (.callThrough .counted name c) = [] := by
      cases name with
      | none => rfl
      | some n =>
        rw [failuresBehind]
        split
        · next s hs => rw [if_neg (by simp [hout n s rfl hs])]
        · rfl
    rw [hx, hnone]
    exact p.tells_nothing thread _ reply
  · have htells := c.runCounted_tells s
    rw [hx, failuresBehind_of_counted hs hinside]
    refine ⟨?_, htells.alarms_eq⟩
    rw [← htells.code_eq]
    exact ⟨_, p.rebinds_leave n _, rfl⟩

theorem tells_callPlain (p : Program) (thread : Nat) (name : Option String) (c : PointerCall) :
    (p.callPlain thread name c).Tells p thread name
      (p.failuresBehind (.callThrough .plain name c)) := by
  rcases p.callPlain_cases thread name c with
    ⟨reply, hx, hout⟩ | ⟨n, b, buffer, x, left, rfl, hb, hbuffer, hrun, -, hinside, hx⟩
  · have hnone : p.failuresBehind (.callThrough .plain name c) = [] := by
      cases name with
      | none => rfl
      | some n =>
        rw [failuresBehind]
        split
        · next buffer hbuffer =>
          obtain ⟨b, hb, hbuffer⟩ := Option.bind_eq_some_iff.mp hbuffer
          rcases hout n b buffer rfl hb hbuffer with hrun | houtside
          · rw [PointerCall.failures_of_runPlain hrun, ite_self]
          · rw [if_neg (by simp [houtside])]
        · rfl
    rw [hx, hnone]
    exact p.tells_nothing thread _ reply
  · have htells := PointerCall.runPlain_tells hrun
    rw [hx, failuresBehind_of_buffer hb hbuffer hinside]
    refine ⟨?_, htells.alarms_eq⟩
    rw [← htells.code_eq]
    exact ⟨_, .bind n _, rfl⟩

theorem tells_entryThrough (p : Program) (thread : Nat) (argv : ArgumentVector) (index : Int) :
    (p.effect thread (.entryThrough argv index)).Tells p thread none (argv.get index).failures := by
  have htells := (argv.isLogged_get index).orRecord none
  exact ⟨⟨p, .same, congrArg (p.absorb thread) htells.code_eq⟩, htells.alarms_eq⟩

end Program

end CountedStrings
