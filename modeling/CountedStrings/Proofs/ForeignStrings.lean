import CountedStrings.Proofs.Agreement
import CountedStrings.Proofs.Blocks
import Mathlib.Data.List.Induction

/-!
# Foreign strings stay the compiler's

A string without the mark of the library belongs to whoever put it there.  Nothing that is done with
it changes its two words; no owner comes or goes; and its bytes are those that were there, but for
those that were written, each at its own index.

## 1.  Puts

A `Put` is a byte for an index.  `Step.puts` are the puts that a step asks for, and `Taken.puts`
those of them that took place: the step was not refused, and the index was not turned away.
`getElem?_foldl_put`: of several puts, the last one at an index is what is there.

## 2.  One step

`effect_of_foreign`: a step on a foreign string either leaves it as it is, or makes all its puts.
Whether a put takes place depends on its index only, because no capacity bounds a foreign string; so
a row of puts that is turned away in places is the same as the row of those that are not
(`Buffer.foldl_put_filter`).  Calls for owners leave the whole process as it is
(`step_of_countsOwners`).

## 3.  Runs

`binding?_of_foreign` is the invariant: at the end of a run the string has the words that it had,
and the bytes after all puts that took place.  `foreign_strings_stay` reads the law off it.  Bit 31
of the info word is the only thing assumed of the string, and the count word of this one string the
only thing that compiled code has to leave alone: it may overwrite those of others.
-/

namespace CountedStrings

/-! ## 1.  Puts -/

/-- A byte for an index. -/
structure Put where
  index : Int
  value : UInt8
  deriving DecidableEq

namespace Put

/-- Whether a put takes place where nothing but the address space bounds the indices. -/
def IsTaken (w : Put) : Prop := 0 ≤ w.index ∧ w.index < addressBound

instance (w : Put) : Decidable w.IsTaken := inferInstanceAs (Decidable (_ ∧ _))

/-- What a put reports there. -/
def report (w : Put) : List Event :=
  if w.IsTaken then [] else [.indexOutOfBounds w.index addressBound]

/-- The puts of a row of bytes from an index on. -/
def row (index : Int) : Bytes → List Put
  | [] => []
  | byte :: rest => ⟨index, byte⟩ :: row (index + 1) rest

/-- The byte of the last put at an index, if there is one. -/
def lastAt (ws : List Put) (i : Nat) : Option UInt8 :=
  (ws.filter fun w => w.index = (i : Int)).getLast?.map Put.value

/-- One put more is the last one at its index. -/
theorem lastAt_concat (ws : List Put) (w : Put) (i : Nat) :
    lastAt (ws ++ [w]) i = if w.index = (i : Int) then some w.value else lastAt ws i := by
  rw [lastAt, List.filter_append]
  by_cases h : w.index = (i : Int) <;> simp [h, lastAt]

end Put

namespace Buffer

/-- The bytes after a put. -/
def put (buffer : Buffer) (w : Put) : Buffer :=
  if w.IsTaken then buffer.store w.index.toNat w.value else buffer

@[simp] theorem size_put (buffer : Buffer) (w : Put) : (buffer.put w).size = buffer.size := by
  rw [put]
  split
  · exact buffer.size_store _ _
  · rfl

/-- A put changes the byte at its index, and no other. -/
theorem getElem?_put (buffer : Buffer) {w : Put} (hw : w.IsTaken) {i : Nat}
    (hi : i < buffer.size) :
    (buffer.put w)[i]? = if w.index = (i : Int) then some w.value else buffer[i]? := by
  have hiff : w.index.toNat = i ↔ w.index = i := by
    have hnonneg := hw.1
    omega
  rw [put, if_pos hw, store, Array.getElem?_setIfInBounds]
  by_cases h : w.index = i
  · rw [if_pos (hiff.mpr h), if_pos h, hiff.mpr h, if_pos hi]
  · rw [if_neg fun hn => h (hiff.mp hn), if_neg h]

theorem size_foldl_put (buffer : Buffer) (ws : List Put) :
    (ws.foldl put buffer).size = buffer.size := by
  induction ws generalizing buffer with
  | nil => rfl
  | cons w rest ih => exact (ih _).trans (buffer.size_put w)

/-- **After some puts**, each byte is that of the last put at its index, or the one that was there
before. -/
theorem getElem?_foldl_put (buffer : Buffer) {ws : List Put} (hws : ∀ w ∈ ws, w.IsTaken) {i : Nat}
    (hi : i < buffer.size) :
    (ws.foldl put buffer)[i]? = (Put.lastAt ws i).or buffer[i]? := by
  induction ws using List.reverseRecOn with
  | nil => rfl
  | append_singleton ws w ih =>
    have hw : w.IsTaken := hws w (by simp)
    have hsize : i < (ws.foldl put buffer).size := by
      rw [size_foldl_put]
      exact hi
    rw [List.foldl_append, List.foldl_cons, List.foldl_nil, getElem?_put _ hw hsize,
      ih fun v hv => hws v (List.mem_append_left _ hv), Put.lastAt_concat]
    split <;> rfl

/-- Puts that do not take place change nothing. -/
theorem foldl_put_filter (buffer : Buffer) (ws : List Put) :
    (ws.filter fun w => w.IsTaken).foldl put buffer = ws.foldl put buffer := by
  induction ws generalizing buffer with
  | nil => rfl
  | cons w rest ih =>
    by_cases hw : w.IsTaken
    · rw [List.filter_cons_of_pos (by simpa using hw), List.foldl_cons, List.foldl_cons, ih]
    · have hput : buffer.put w = buffer := by rw [put, if_neg hw]
      rw [List.filter_cons_of_neg (by simpa using hw), List.foldl_cons, hput, ih]

end Buffer

/-- The puts that a step asks for, in order. -/
def Step.puts : Step → List Put
  | .call _ (.setByteAt index value) => [⟨clampIndex index, value⟩]
  | .call _ (.writeAt index value) | .writePlain _ index value => [⟨index, value⟩]
  | .callThrough _ _ (.setByte index value) => [⟨index, UInt8.ofInt value⟩]
  | .callThrough _ _ (.fill index bytes) => Put.row index bytes
  | _ => []

/-- Whether an event tells that an index was turned away. -/
def Event.turnsAway (index : Int) : Event → Bool
  | .indexOutOfBounds i _ => i = index
  | _ => false

/-- Whether a step was refused, and so did not take place. -/
def Answer.isRefused (x : Answer) : Bool :=
  match x.result with
  | .ok (.refused _) => true
  | _ => false

theorem Answer.isRefused_iff {x : Answer} :
    x.isRefused = true ↔ ∃ reason, x.result = .ok (.refused reason) := by
  rw [isRefused]
  split
  · next reason h => exact ⟨fun _ => ⟨reason, h⟩, fun _ => rfl⟩
  · next h => exact ⟨(absurd · Bool.false_ne_true), fun ⟨reason, hx⟩ => absurd hx (h reason)⟩

namespace Taken

/-- The puts that took place: the step was not refused, and did not turn the index away. -/
def puts (x : Taken) : List Put :=
  if x.answer.isRefused then []
  else x.step.puts.filter fun w => !x.answer.events.any (Event.turnsAway w.index)

/-- The puts that took place on the string under a name, in order. -/
def putsOn (name : String) (history : List Taken) : List Put :=
  (history.filter (·.isAbout name)).flatMap Taken.puts

theorem putsOn_concat {name : String} {x : Taken} (h : x.isAbout name = true)
    (history : List Taken) : putsOn name (history ++ [x]) = putsOn name history ++ x.puts := by
  simp [putsOn, h]

theorem putsOn_concat_of_not {name : String} {x : Taken} (h : x.isAbout name = false)
    (history : List Taken) : putsOn name (history ++ [x]) = putsOn name history := by
  simp [putsOn, h]

end Taken

/-- Of puts that report as they are taken, those are turned away that do not take place. -/
theorem any_turnsAway_iff {ws : List Put} {w : Put} (hw : w ∈ ws) :
    (ws.flatMap Put.report).any (Event.turnsAway w.index) = true ↔ ¬ w.IsTaken := by
  rw [List.any_eq_true]
  constructor
  · rintro ⟨e, he, haway⟩ htaken
    obtain ⟨v, -, hv⟩ := List.mem_flatMap.mp he
    rw [Put.report] at hv
    split at hv
    · cases hv
    · next hnot =>
      -- whether a put takes place depends on its index only
      rw [List.mem_singleton.mp hv] at haway
      have hindex : v.index = w.index := by simpa [Event.turnsAway] using haway
      rw [Put.IsTaken, hindex] at hnot
      exact hnot htaken
  · intro hnot
    refine ⟨.indexOutOfBounds w.index addressBound, List.mem_flatMap.mpr ⟨w, hw, ?_⟩, ?_⟩
    · rw [Put.report, if_neg hnot]
      exact List.mem_singleton.mpr rfl
    · simp [Event.turnsAway]

/-! ## 2.  One step -/

/-! ### Writing -/

/-- The outcome of a put: what it leaves, or a refusal. -/
def Put.outcome {α : Type} (w : Put) (a : α) : Outcome α :=
  if w.IsTaken then pure a else refusal w.index addressBound

theorem Buffer.put_of_not {buffer : Buffer} {w : Put} (h : ¬ w.IsTaken) :
    buffer.put w = buffer := by
  rw [put, if_neg h]

/-- A store with a check of the index is a put, whatever is made of the bytes. -/
theorem Put.ite_eq_outcome {α : Type} (w : Put) (make : Buffer → α) (buffer : Buffer) :
    (if w.IsTaken then pure (make (buffer.store w.index.toNat w.value))
      else refusal w.index addressBound) = w.outcome (make (buffer.put w)) := by
  rw [outcome, Buffer.put]
  by_cases h : w.IsTaken
  · rw [if_pos h, if_pos h, if_pos h]
  · rw [if_neg h, if_neg h]

theorem Buffer.writeAt_eq_outcome (buffer : Buffer) (w : Put) :
    buffer.writeAt w.index w.value = w.outcome (buffer.put w) := by
  rw [writeAt_eq]
  exact w.ite_eq_outcome id buffer

theorem Str.writeAt_eq_outcome {s : Str} (hs : s.ownedCapacity = none) (w : Put) :
    s.writeAt w.index w.value = w.outcome (s.withStorage (Buffer.put s.storage w)) := by
  rw [writeAt_eq, writeBound_of_foreign hs]
  exact w.ite_eq_outcome s.withStorage s.storage

/-- An entry point leaves what a put leaves, which is what was there if it does not take place. -/
theorem Put.orRecord_outcome {α : Type} (w : Put) {a old : α} (h : ¬ w.IsTaken → a = old) :
    ((some <$> w.outcome a).orRecord (some old)).value = some a ∧
      ((some <$> w.outcome a).orRecord (some old)).events = w.report := by
  rw [outcome, report]
  by_cases hw : w.IsTaken
  · rw [if_pos hw, if_pos hw]
    exact ⟨rfl, rfl⟩
  · rw [if_neg hw, if_neg hw, h hw]
    exact ⟨rfl, rfl⟩

/-- Whether a way of writing single bytes makes the put in the bytes that it is given. -/
def MakesPuts {α : Type} (set : α → Int → Int → Recorded α) (mk : Buffer → α) : Prop :=
  ∀ buffer index value,
    (set (mk buffer) index value).value = mk (buffer.put ⟨index, UInt8.ofInt value⟩) ∧
      (set (mk buffer) index value).events = Put.report ⟨index, UInt8.ofInt value⟩

theorem makesPuts_plain : MakesPuts Plain.setByte some := by
  intro buffer index value
  rw [Plain.setByte, buffer.writeAt_eq_outcome ⟨index, UInt8.ofInt value⟩]
  exact Put.orRecord_outcome _ Buffer.put_of_not

theorem makesPuts_counted {s : Str} (hs : s.ownedCapacity = none) :
    MakesPuts Counted.setByte fun buffer => some (s.withStorage buffer) := by
  intro buffer index value
  have hwrite := Str.writeAt_eq_outcome (s := s.withStorage buffer) hs ⟨index, UInt8.ofInt value⟩
  dsimp only
  rw [Counted.setByte, hwrite]
  refine Put.orRecord_outcome _ fun h => ?_
  rw [Buffer.put_of_not h]
  rfl

/-- A single write makes a row of one put. -/
theorem MakesPuts.single {α : Type} {set : α → Int → Int → Recorded α} {mk : Buffer → α}
    (h : MakesPuts set mk) (buffer : Buffer) (index value : Int) :
    (set (mk buffer) index value).value =
        mk ([⟨index, UInt8.ofInt value⟩].foldl Buffer.put buffer) ∧
      (set (mk buffer) index value).events =
        [⟨index, UInt8.ofInt value⟩].flatMap Put.report := by
  rw [List.flatMap_singleton]
  exact h buffer index value

/-- A row of writes makes the puts of the row. -/
theorem MakesPuts.fillWith {α : Type} {set : α → Int → Int → Recorded α} {mk : Buffer → α}
    (h : MakesPuts set mk) (buffer : Buffer) (index : Int) (bytes : Bytes) :
    (fillWith set (mk buffer) index bytes).value =
        mk ((Put.row index bytes).foldl Buffer.put buffer) ∧
      (CountedStrings.fillWith set (mk buffer) index bytes).events =
        (Put.row index bytes).flatMap Put.report := by
  induction bytes generalizing buffer index with
  | nil => exact ⟨rfl, rfl⟩
  | cons byte rest ih =>
    obtain ⟨hvalue, hevents⟩ := h buffer index byte.toNat
    rw [ofInt_toNat] at hvalue hevents
    obtain ⟨ihvalue, ihevents⟩ := ih (buffer.put ⟨index, byte⟩) (index + 1)
    refine ⟨?_, ?_⟩
    · rw [CountedStrings.fillWith, Recorded.value_bind, hvalue, ihvalue]
      rfl
    · rw [CountedStrings.fillWith, Recorded.events_bind, hvalue, hevents, ihevents]
      rfl

/-! ### Owners -/

namespace Str

variable {s : Str}

theorem retainTimes_of_foreign (h : s.ownedCapacity = none) (n : Nat) :
    retainTimes n s = pure s := by
  induction n with
  | zero => rfl
  | succ n ih => rw [retainTimes, retain_of_foreign h, Outcome.pure_bind, ih]

theorem releaseTimes_of_foreign (h : s.ownedCapacity = none) (n : Nat) :
    releaseTimes n s = pure (.kept s) := by
  induction n with
  | zero => rfl
  | succ n ih =>
    rw [releaseTimes, release_of_foreign h, Outcome.pure_bind]
    exact ih

/-- Threads that add and take away owners of a foreign string do nothing. -/
theorem shareBetween_of_foreign (h : s.ownedCapacity = none) (threads retains releases : Nat) :
    shareBetween threads retains releases s = pure (.kept s) := by
  induction threads with
  | zero => rfl
  | succ threads ih =>
    rw [shareBetween, retainTimes_of_foreign h, Outcome.pure_bind, releaseTimes_of_foreign h,
      Outcome.pure_bind]
    exact ih

end Str

/-- Whether a call is about the owners of a string. -/
def StrCall.countsOwners : StrCall → Bool
  | .retain | .release | .share _ _ _ => true
  | _ => false

theorem StrCall.run_of_countsOwners {s : Str} (hs : s.ownedCapacity = none) {c : StrCall}
    (hc : c.countsOwners = true) : ∃ reply, c.run s = pure (some s, reply) := by
  cases c with
  | retain =>
    rw [run, Str.retain_of_foreign hs]
    exact ⟨_, rfl⟩
  | release =>
    rw [run, Str.release_of_foreign hs]
    exact ⟨_, rfl⟩
  | share threads retains releases =>
    rw [run, Str.shareBetween_of_foreign hs]
    exact ⟨_, rfl⟩
  | _ => cases hc

/-- Whether a call through the entry points is about the owners of a string. -/
def PointerCall.countsOwners : PointerCall → Bool
  | .retain | .release => true
  | _ => false

theorem PointerCall.runCounted_of_countsOwners {s : Str} (hs : s.ownedCapacity = none)
    {c : PointerCall} (hc : c.countsOwners = true) :
    ∃ reply, c.runCounted (some s) = pure (some s, reply) := by
  cases c with
  | retain =>
    rw [runCounted, Counted.retain, Str.retain_of_foreign hs]
    exact ⟨_, rfl⟩
  | release =>
    rw [runCounted, Counted.release, Str.release_of_foreign hs]
    exact ⟨_, rfl⟩
  | _ => cases hc

/-- Whether a step is about the owners of the string under a name. -/
def Step.countsOwners (name : String) : Step → Bool
  | .call n c => n = name && c.countsOwners
  | .callThrough .counted (some n) c => n = name && c.countsOwners
  | _ => false

/-! ### Steps -/

/-- What a step does to a foreign string: nothing, because it asks for no put or is refused; or all
the puts that it asks for. -/
inductive Effect.Puts (name : String) (s : Str) (ws : List Put) (e : Effect) : Prop
  | rests (hb : e.after.binding? name = some (.counted s))
      (h : ws = [] ∨ ∃ reason, e.result = .ok (.refused reason))
  | puts (hb : e.after.binding? name =
        some (.counted (s.withStorage (ws.foldl Buffer.put s.storage))))
      (hresult : ∀ reason, e.result ≠ .ok (.refused reason))
      (hevents : e.events = ws.flatMap Put.report)

namespace Program

variable {p : Program} {name : String} {s : Str}

theorem binding?_bind (p : Program) (name : String) (b : Binding) :
    (p.bind name b).binding? name = some b := by
  rw [binding?, bind, Table.get?_insert_self]

/-- A write through the library makes its put. -/
theorem puts_call_write (hb : p.binding? name = some (.counted s)) (hs : s.ownedCapacity = none)
    {c : StrCall} (hinside : c.staysInside s = true) {w : Put}
    (hrun : c.run s = s.writeAt w.index w.value >>= fun t => pure (some t, .done)) :
    (p.call name c).Puts name s [w] := by
  rw [Str.writeAt_eq_outcome hs, Outcome.bind_pure_eq, Put.outcome] at hrun
  by_cases hw : w.IsTaken
  · rw [if_pos hw] at hrun
    have hresult := congrArg Outcome.result hrun
    rw [call_of_ok hb hinside hresult, hrun]
    exact .puts (p.binding?_bind name _) (by simp) (by simp [Put.report, hw])
  · rw [if_neg hw] at hrun
    have hresult := congrArg Outcome.result hrun
    rw [call_of_error hb hinside hresult, hrun]
    refine .puts ?_ (by simp) (by simp [Put.report, hw, refusal])
    rw [List.foldl_cons, List.foldl_nil, Buffer.put_of_not hw]
    exact hb

/-- What a call of the library without a put leaves of a foreign string is the string. -/
theorem left_of_run (hs : s.ownedCapacity = none) {c : StrCall}
    (hc : (Step.call name c).puts = []) {left : Option Str} {reply : Reply}
    (hx : (c.run s).result = .ok (left, reply)) : left = some s := by
  have hread : ∀ index, (s.readAt index >>= fun byte =>
      pure (some s, Reply.number byte.toNat)).result = .ok (left, reply) → left = some s := by
    intro index hr
    rw [Outcome.bind_pure_eq] at hr
    cases hbyte : (s.readAt index).result with
    | ok byte =>
      rw [hbyte] at hr
      exact (congrArg Prod.fst (Except.ok.inj hr)).symm
    | error error =>
      rw [hbyte] at hr
      cases hr
  have howner : c.countsOwners = true → left = some s := by
    intro hcounts
    obtain ⟨reply', hrun⟩ := StrCall.run_of_countsOwners hs hcounts
    rw [hrun] at hx
    exact (congrArg Prod.fst (Except.ok.inj hx)).symm
  cases c with
  | describe | equals | capacity | refcount => exact (congrArg Prod.fst (Except.ok.inj hx)).symm
  | byteAt | readAt => exact hread _ hx
  | setByteAt | writeAt => cases hc
  | retain | release | share => exact howner rfl

/-- What the library does to a foreign string. -/
theorem puts_call (hb : p.binding? name = some (.counted s)) (hs : s.ownedCapacity = none)
    (c : StrCall) : (p.call name c).Puts name s (Step.call name c).puts := by
  cases hinside : c.staysInside s with
  | false =>
    have hcall : p.call name c = .refuseOutside p := by simp [call, hb, hinside]
    rw [hcall]
    exact .rests hb (Or.inr ⟨_, rfl⟩)
  | true =>
    have hsame : (Step.call name c).puts = [] →
        (p.call name c).Puts name s (Step.call name c).puts := by
      intro hputs
      cases hx : (c.run s).result with
      | ok y =>
        rw [call_of_ok hb hinside hx, left_of_run hs hputs hx]
        exact .rests (p.binding?_bind name _) (Or.inl hputs)
      | error error =>
        rw [call_of_error hb hinside hx]
        exact .rests hb (Or.inl hputs)
    cases c with
    | setByteAt index value =>
      exact puts_call_write hb hs hinside (w := ⟨clampIndex index, value⟩) rfl
    | writeAt index value => exact puts_call_write hb hs hinside (w := ⟨index, value⟩) rfl
    | _ => exact hsame rfl

/-- What a write without regard to a header does to a foreign string. -/
theorem puts_writePlain (hb : p.binding? name = some (.counted s)) (index : Int) (value : UInt8) :
    (p.writePlain name index value).Puts name s [⟨index, value⟩] := by
  have hwrite := Buffer.writeAt_eq_outcome s.storage ⟨index, value⟩
  rw [Put.outcome] at hwrite
  rw [writePlain, hb]
  dsimp only [buffer?]
  split
  · by_cases hw : (⟨index, value⟩ : Put).IsTaken
    · rw [if_pos hw] at hwrite
      rw [hwrite]
      exact .puts (p.binding?_bind name _) (by simp) (by simp [Put.report, hw])
    · rw [if_neg hw] at hwrite
      rw [hwrite]
      refine .puts ?_ (by simp [refusal]) (by simp [Put.report, hw, refusal])
      rw [List.foldl_cons, List.foldl_nil, Buffer.put_of_not hw]
      exact hb
  · exact .rests hb (Or.inr ⟨_, rfl⟩)

/-- What the entry points for strings with a header do to a foreign string. -/
theorem puts_callCounted (hb : p.binding? name = some (.counted s)) (hs : s.ownedCapacity = none)
    (thread : Nat) (c : PointerCall) :
    (p.callCounted thread (some name) c).Puts name s
      (Step.callThrough .counted (some name) c).puts := by
  cases hinside : c.staysInside s.vouchesFor with
  | false =>
    have hcall : p.callCounted thread (some name) c = .refuseOutside p := by
      simp [callCounted, pointee, hb, hinside]
    rw [hcall]
    exact .rests hb (Or.inr ⟨_, rfl⟩)
  | true =>
    have hwrite : ∀ (ws : List Put) {x : Recorded (Option Str)},
        x.value = some (s.withStorage (ws.foldl Buffer.put s.storage)) ∧
          x.events = ws.flatMap Put.report →
        c.runCounted (some s) = x >>= (fun pointer => pure (pointer, Reply.done)) →
        (p.callCounted thread (some name) c).Puts name s ws := by
      rintro ws x ⟨hvalue, hevents⟩ hrun
      rw [callCounted_of_counted thread hb hinside, hrun, Recorded.bind_pure_eq, hvalue, hevents]
      exact .puts (p.binding?_bind name _) (by simp) rfl
    have hsame : (c.runCounted (some s)).value.1 = some s →
        (p.callCounted thread (some name) c).Puts name s [] := by
      intro hvalue
      rw [callCounted_of_counted thread hb hinside, hvalue]
      exact .rests (p.binding?_bind name _) (Or.inl rfl)
    have howner : c.countsOwners = true → (p.callCounted thread (some name) c).Puts name s [] := by
      intro hcounts
      obtain ⟨reply, hrun⟩ := PointerCall.runCounted_of_countsOwners hs hcounts
      exact hsame (congrArg (fun x => x.value.1) hrun)
    cases c with
    | setByte index value =>
      exact hwrite [⟨index, UInt8.ofInt value⟩]
        ((makesPuts_counted hs).single s.storage index value) rfl
    | fill index bytes =>
      exact hwrite (Put.row index bytes)
        ((makesPuts_counted hs).fillWith s.storage index bytes) rfl
    | getByte | scan | refcount => exact hsame rfl
    | retain | release => exact howner rfl

/-- What the entry points for bytes without a header do to a foreign string. -/
theorem puts_callPlain (hb : p.binding? name = some (.counted s)) (thread : Nat)
    (c : PointerCall) :
    (p.callPlain thread (some name) c).Puts name s
      (Step.callThrough .plain (some name) c).puts := by
  cases hinside : c.staysInside (Buffer.vouchesFor s.storage) with
  | false =>
    have hcall : ∃ reason, p.callPlain thread (some name) c = .tell p (.refused reason) := by
      cases hrun : c.runPlain (some s.storage) with
      | none => exact ⟨_, by simp [callPlain, pointee, hb, buffer?, hrun]; rfl⟩
      | some x => exact ⟨_, by simp [callPlain, pointee, hb, buffer?, hrun, hinside]; rfl⟩
    obtain ⟨reason, hcall⟩ := hcall
    rw [hcall]
    exact .rests hb (Or.inr ⟨reason, rfl⟩)
  | true =>
    have hwrite : ∀ (ws : List Put) {x : Recorded (Option Buffer)},
        x.value = some (ws.foldl Buffer.put s.storage) ∧ x.events = ws.flatMap Put.report →
        c.runPlain (some s.storage) = some (x >>= (fun pointer => pure (pointer, Reply.done))) →
        (p.callPlain thread (some name) c).Puts name s ws := by
      rintro ws x ⟨hvalue, hevents⟩ hrun
      rw [callPlain_of_buffer thread hb rfl hrun hvalue hinside, Recorded.bind_pure_eq, hevents]
      exact .puts (p.binding?_bind name _) (by simp) rfl
    have hsame : c.writes = false → (Step.callThrough .plain (some name) c).puts = [] →
        (p.callPlain thread (some name) c).Puts name s
          (Step.callThrough .plain (some name) c).puts := by
      intro hreads hputs
      cases hrun : c.runPlain (some s.storage) with
      | none =>
        have hcall : p.callPlain thread (some name) c = .refuse p := by
          simp [callPlain, pointee, hb, buffer?, hrun]
        rw [hcall]
        exact .rests hb (Or.inl hputs)
      | some x =>
        have hleft := PointerCall.value_runPlain hrun hreads
        rw [callPlain_of_buffer thread hb rfl hrun hleft hinside]
        exact .rests (p.binding?_bind name _) (Or.inl hputs)
    cases c with
    | setByte index value =>
      exact hwrite [⟨index, UInt8.ofInt value⟩]
        (makesPuts_plain.single s.storage index value) rfl
    | fill index bytes =>
      exact hwrite (Put.row index bytes) (makesPuts_plain.fillWith s.storage index bytes) rfl
    | _ => exact hsame rfl rfl

/-- **What a step about a foreign string does to it.**  The only exception is that compiled code
overwrites its count word by itself. -/
theorem effect_of_foreign (hb : p.binding? name = some (.counted s)) (hs : s.ownedCapacity = none)
    (thread : Nat) {step : Step} (hsubject : step.subject = some name)
    (hpoke : step.pokes = false) :
    (p.effect thread step).Puts name s step.puts := by
  have hfree : p.isFree name = false := by rw [isFree, hb]
  cases step with
  | place name' b =>
    cases hsubject
    rw [effect, hfree]
    exact .rests hb (Or.inl rfl)
  | poke name' refcount =>
    cases hpoke
  | look name' => exact .rests hb (Or.inl rfl)
  | make name' source =>
    cases hsubject
    rw [effect, make, hfree]
    exact .rests hb (Or.inl rfl)
  | makeThrough name' source =>
    cases hsubject
    rw [effect, makeThrough, hfree]
    exact .rests hb (Or.inl rfl)
  | call name' c =>
    cases hsubject
    exact puts_call hb hs c
  | readPlain name' index =>
    cases hsubject
    rcases p.readPlain_cases name index with ⟨reply, hx⟩ | ⟨buffer, hx⟩
    · rw [effect, hx]
      exact .rests hb (Or.inl rfl)
    · rw [effect, hx]
      exact .rests hb (Or.inl rfl)
  | writePlain name' index value =>
    cases hsubject
    exact puts_writePlain hb index value
  | callThrough interface name' c =>
    obtain rfl : name' = some name := hsubject
    cases interface with
    | counted => exact puts_callCounted hb hs thread c
    | plain => exact puts_callPlain hb thread c
  | _ => cases hsubject

/-- **Owners of a foreign string neither come nor go**: the process stays as it is, and nothing is
reported. -/
theorem step_of_countsOwners (hb : p.binding? name = some (.counted s))
    (hs : s.ownedCapacity = none) (thread : Nat) {step : Step}
    (h : step.countsOwners name = true) :
    (p.step thread step).2 = p ∧ (p.step thread step).1.events = [] := by
  have hback : p.leave name (some s) = p := bind_of_binding? hb
  cases step with
  | call n c =>
    obtain ⟨hn, hc⟩ := Bool.and_eq_true_iff.mp h
    obtain rfl : n = name := of_decide_eq_true hn
    obtain ⟨reply, hrun⟩ := StrCall.run_of_countsOwners hs hc
    have hinside : c.staysInside s = true := by cases c <;> first | rfl | cases hc
    have heffect : p.effect thread (.call n c) = ⟨.ok reply, p, []⟩ := by
      rw [effect, call_of_ok hb hinside (congrArg Outcome.result hrun), hrun, hback]
      rfl
    exact ⟨congrArg Effect.after heffect, congrArg Effect.events heffect⟩
  | callThrough interface n c =>
    cases interface with
    | plain => cases h
    | counted =>
      cases n with
      | none => cases h
      | some n =>
        obtain ⟨hn, hc⟩ := Bool.and_eq_true_iff.mp h
        obtain rfl : n = name := of_decide_eq_true hn
        obtain ⟨reply, hrun⟩ := PointerCall.runCounted_of_countsOwners hs hc
        have hinside : c.staysInside s.vouchesFor = true := by
          cases c <;> first | rfl | cases hc
        have heffect : p.effect thread (.callThrough .counted (some n) c) =
            ⟨.ok reply, p, []⟩ := by
          rw [effect, callCounted_of_counted thread hb hinside, hrun]
          show Effect.mk _ ((p.leave n (some s)).absorb thread none) _ = _
          rw [hback]
          rfl
        exact ⟨congrArg Effect.after heffect, congrArg Effect.events heffect⟩
  | _ => cases h

/-! ## 3.  Runs -/

/-- What a step about a foreign string leaves are its bytes after the puts that took place. -/
theorem step_of_foreign (hb : p.binding? name = some (.counted s)) (hs : s.ownedCapacity = none)
    (thread : Nat) {step : Step} (hsubject : step.subject = some name)
    (hpoke : step.pokes = false) :
    (p.step thread step).2.binding? name = some (.counted (s.withStorage
        ((Taken.mk thread step (p.step thread step).1).puts.foldl Buffer.put s.storage))) ∧
      ∀ w ∈ (Taken.mk thread step (p.step thread step).1).puts, w.IsTaken := by
  have hresult : (p.step thread step).1.result = (p.effect thread step).result := rfl
  have hevents : (p.step thread step).1.events = (p.effect thread step).events := rfl
  cases effect_of_foreign hb hs thread hsubject hpoke with
  | rests hafter hnone =>
    have hputs : (Taken.mk thread step (p.step thread step).1).puts = [] := by
      rw [Taken.puts]
      rcases hnone with hnone | ⟨reason, hrefused⟩
      · rw [hnone]
        exact ite_self _
      · exact if_pos (Answer.isRefused_iff.mpr ⟨reason, hresult.trans hrefused⟩)
    rw [hputs]
    exact ⟨hafter, by simp⟩
  | puts hafter haccepted hreport =>
    have hputs : (Taken.mk thread step (p.step thread step).1).puts =
        step.puts.filter fun w => w.IsTaken := by
      rw [Taken.puts, if_neg fun hrefused => ?_]
      · refine List.filter_congr fun w hw => ?_
        rw [hevents, hreport, Bool.eq_iff_iff, Bool.not_eq_true', ← Bool.not_eq_true,
          any_turnsAway_iff hw, not_not, decide_eq_true_eq]
      · obtain ⟨reason, hreason⟩ := Answer.isRefused_iff.mp hrefused
        exact haccepted reason (hresult.symm.trans hreason)
    rw [hputs, Buffer.foldl_put_filter]
    refine ⟨hafter, fun w hw => ?_⟩
    simpa using (List.mem_filter.mp hw).2

/-- **A foreign string at the end of a run**: the same two words, and the bytes after all puts that
took place on it. -/
theorem binding?_of_foreign (hb : p.binding? name = some (.counted s))
    (hs : s.ownedCapacity = none) {steps : List (Nat × Step)}
    (hpoke : ∀ x ∈ steps, x.2.subject = some name → x.2.pokes = false) :
    (p.after steps).binding? name = some (.counted (s.withStorage
        ((Taken.putsOn name (p.history steps)).foldl Buffer.put s.storage))) ∧
      ∀ w ∈ Taken.putsOn name (p.history steps), w.IsTaken := by
  refine invariant_on_name (P := fun _ _ step => step.subject = some name → step.pokes = false)
    (I := fun c history => c.binding = some (.counted (s.withStorage
        ((Taken.putsOn name history).foldl Buffer.put s.storage))) ∧
      ∀ w ∈ Taken.putsOn name history, w.IsTaken) ?_ ?_ ⟨hb, by simp [Taken.putsOn]⟩
    (along_of_mem (fun x hx _ => hpoke x hx) p)
  · rintro q history thread step hsubject hstep ⟨hq, htaken⟩
    obtain ⟨hafter, hputs⟩ := step_of_foreign hq hs thread hsubject (hstep hsubject)
    rw [Taken.putsOn_concat (decide_eq_true hsubject), List.foldl_append]
    exact ⟨hafter, List.forall_mem_append.mpr ⟨htaken, hputs⟩⟩
  · rintro c history x habout ⟨hc, htaken⟩
    rw [Taken.putsOn_concat_of_not habout]
    exact ⟨hc, htaken⟩

/-- **Foreign strings stay the compiler's.**  Take a string whose info word has bit 31 clear,
whatever its other bits and whatever its count word, and a run of any steps of any threads, in which
compiled code does not overwrite that count word.  At the end of the run, and so after each of its
steps, since a part of such a run is one:

* The string is there, with the same two words, as many bytes, and no capacity.
* Each of its bytes is the one of the last put at exactly that index that took place, or the one
  that was there at the start.
* Whatever adds, takes away or shares owners of it, through the library and through the entry
  points, leaves the whole process as it is and reports nothing.
* The library answers that it has no capacity, and the library and the entry points answer with its
  count word. -/
theorem foreign_strings_stay (hb : p.binding? name = some (.counted s))
    (hforeign : s.info.toNat.testBit 31 = false) {steps : List (Nat × Step)}
    (hpoke : ∀ x ∈ steps, x.2.subject = some name → x.2.pokes = false) :
    ∃ t, (p.after steps).binding? name = some (.counted t) ∧
      t.refcount = s.refcount ∧ t.info = s.info ∧ t.ownedCapacity = none ∧
      t.storage.size = s.storage.size ∧
      (∀ i, i < s.storage.size →
        t.storage[i]? = (Put.lastAt (Taken.putsOn name (p.history steps)) i).or s.storage[i]?) ∧
      (∀ thread step, step.countsOwners name = true →
        ((p.after steps).step thread step).2 = p.after steps ∧
          ((p.after steps).step thread step).1.events = []) ∧
      ∀ thread,
        ((p.after steps).step thread (.call name .capacity)).1.result = .ok (.capacity none) ∧
        ((p.after steps).step thread (.call name .refcount)).1.result =
          .ok (.number s.refcount.toInt) ∧
        ((p.after steps).step thread (.callThrough .counted (some name) .refcount)).1.result =
          .ok (.number s.refcount.toInt) := by
  have hs : s.ownedCapacity = none := by
    rw [Str.ownedCapacity, capacityOf, if_neg]
    rw [ownedFlag_le_iff, hforeign]
    exact Bool.false_ne_true
  obtain ⟨hafter, htaken⟩ := binding?_of_foreign hb hs hpoke
  refine ⟨_, hafter, rfl, rfl, hs, Buffer.size_foldl_put _ _,
    fun i hi => Buffer.getElem?_foldl_put _ htaken hi,
    fun thread step hstep => step_of_countsOwners hafter hs thread hstep,
    fun thread => ⟨?_, ?_, ?_⟩⟩
  · have hcall := call_of_ok hafter (c := .capacity) rfl rfl
    refine (congrArg Effect.result hcall).trans ?_
    show Except.ok (Reply.capacity s.ownedCapacity) = _
    rw [hs]
  · exact congrArg Effect.result (call_of_ok hafter (c := .refcount) rfl rfl)
  · exact congrArg Effect.result (callCounted_of_counted thread hafter (c := .refcount) rfl)

/-- A string of compiled code with all bits of its info word but bit 31, and a negative count word,
is given up, kept, shared, written with and without regard to its header, and given up again, while
a string of the library comes and goes. -/
theorem literal_stays :
    let p : Program := (start (.filledWith 7 64) ⟨∅⟩ [] .silent true).bind "literal"
      (.counted ⟨-7, 0x7FFFFFFF, #[104, 105, 0, 33]⟩)
    let steps : List (Nat × Step) :=
      [(0, .callThrough .counted (some "literal") .release), (0, .call "literal" .retain),
        (1, .makeThrough "own" (.zeros 1)), (1, .poke "own" 5), (1, .call "literal" (.share 2 3 4)),
        (1, .callThrough .plain (some "literal") (.fill 1 [1, 2])),
        (0, .callThrough .counted (some "literal") (.setByte 2 511)),
        (0, .callThrough .counted (some "literal") (.fill (-1) [7, 8])),
        (0, .call "literal" .release), (1, .poke "own" 0), (1, .call "own" .release)]
    (∀ x ∈ steps, x.2.subject = some "literal" → x.2.pokes = false) ∧
      ∃ t, (p.after steps).binding? "literal" = some (.counted t) ∧ t.refcount = -7 ∧
        t.info = 0x7FFFFFFF ∧ t.storage[0]? = some 8 ∧ t.storage[1]? = some 1 ∧
        t.storage[2]? = some 255 ∧ t.storage[3]? = some 33 ∧
        ((p.after steps).step 1 (.call "literal" .release)).2 = p.after steps ∧
        ((p.after steps).step 0 (.callThrough .counted (some "literal") .refcount)).1.result =
          .ok (.number (-7)) := by
  intro p steps
  have hpoke : ∀ x ∈ steps, x.2.subject = some "literal" → x.2.pokes = false := by decide
  have hliteral : p.binding? "literal" =
      some (.counted ⟨-7, 0x7FFFFFFF, #[104, 105, 0, 33]⟩) := rfl
  obtain ⟨t, ht, hrefcount, hinfo, -, -, hbytes, howners, hanswers⟩ :=
    foreign_strings_stay hliteral (by decide) hpoke
  refine ⟨hpoke, t, ht, hrefcount, hinfo, ?_, ?_, ?_, ?_, (howners 1 _ rfl).1,
    (hanswers 0).2.2⟩
  · exact (hbytes 0 (by decide)).trans (by decide)
  · exact (hbytes 1 (by decide)).trans (by decide)
  · exact (hbytes 2 (by decide)).trans (by decide)
  · exact (hbytes 3 (by decide)).trans (by decide)

end Program

end CountedStrings
