import CountedStrings.Proofs.Failures
import CountedStrings.Proofs.Rows

/-!
# Two sets of entry points, one behaviour

Bytes are got at through two sets of entry points.  One of them looks at the header of a string, the
other one takes the address for that of bare bytes.  A compiler that goes over from the second set
to the first must not notice anything, so this file says when the two make the same of an access.

## 1.  Accesses

`ByteAccess` is an access to one byte, with the numbers of 32 bits that cross the border, and
`Access` adds the thread that makes it and the name that it is about.  `Str.Suits` lists the
strings on which both sets do the same:

* a foreign string, as long as the access stays inside its bytes;
* an owned string without bytes behind its capacity, unless the access puts something other than a
  zero where the string ends (`ByteAccess.Spoils`).

## 2.  One access

`Str.Suits.runPlain`: on such a string both sets return the same, leave the same bytes under the
same header, and record the same code.  `Program.step_agrees` says so for a step, and that every
name goes on to suit the accesses that it suited before.

## 3.  What fails

No index of 32 bits reaches the bound of the address space (`toInt_lt_addressBound`), so where
nothing else bounds an access, exactly the negative indices fail (`failures_of_foreign`,
`failures_of_buffer`), and every other access gets at its byte (`runCounted_reaches`,
`runPlain_reaches`).  The exception above fails through one of the two sets (`failures_of_spoils`).

## 4.  The law

`byte_access_agrees`.
-/

namespace CountedStrings

/-! ## 1.  Accesses -/

/-- An access to one byte, with the numbers that cross the border. -/
inductive ByteAccess where
  | set (index value : Int32)
  | get (index : Int32)

namespace ByteAccess

/-- The index that an access is about. -/
def index : ByteAccess → Int
  | .set index _ | .get index => index.toInt

/-- The call that makes the access. -/
def call : ByteAccess → PointerCall
  | .set index value => .setByte index.toInt value.toInt
  | .get index => .getByte index.toInt

/-- Whether an access puts something other than a zero at the end of a string. -/
def Spoils (capacity : Nat) : ByteAccess → Prop
  | .set index value => index.toInt = capacity ∧ UInt8.ofInt value.toInt ≠ 0
  | .get _ => False

instance (capacity : Nat) : (a : ByteAccess) → Decidable (a.Spoils capacity)
  | .set _ _ => inferInstanceAs (Decidable (_ ∧ _))
  | .get _ => inferInstanceAs (Decidable False)

end ByteAccess

/-- An access by a thread at the address that a name stands for, or at an absent one. -/
structure Access where
  thread : Nat
  name : Option String
  byte : ByteAccess

/-- The step that makes an access through a set of entry points. -/
def Access.through (interface : Interface) (a : Access) : Nat × Step :=
  (a.thread, .callThrough interface a.name a.byte.call)

/-- A string on which both sets of entry points make the same of an access. -/
inductive Str.Suits (s : Str) (a : ByteAccess) : Prop
  | foreign (ho : s.ownedCapacity = none) (hi : a.index < s.storage.size)
  | owned {capacity : Nat} (ho : s.ownedCapacity = some capacity)
      (hsize : s.storage.size = capacity + 1) (hi : a.index ≤ capacity)
      (hend : ¬ a.Spoils capacity)

/-- Whether both sets of entry points make the same of an access. -/
def Program.Suits (p : Program) (a : Access) : Prop :=
  p.pointee a.name = some .null ∨
    ∃ name s, a.name = some name ∧ p.binding? name = some (.counted s) ∧ s.Suits a.byte

/-- What an answer tells, apart from what is logged. -/
def Answer.told (x : Answer) : Except StringError Reply × ErrorCode × Option Binding :=
  (x.result, x.last, x.subject)

/-! ## 2.  One access -/

/-- No index of 32 bits reaches the bound of the address space. -/
theorem toInt_lt_addressBound (index : Int32) : index.toInt < addressBound := by
  have hlt := index.toInt_lt
  show index.toInt < 9223372036854775807
  omega

namespace Str

theorem readBound_of_foreign {s : Str} (h : s.ownedCapacity = none) :
    s.readBound = addressBound := by
  rw [readBound, h]

theorem writeBound_of_foreign {s : Str} (h : s.ownedCapacity = none) (value : UInt8) :
    s.writeBound value = addressBound := by
  rw [writeBound, h]

namespace Suits

variable {s : Str} {a : ByteAccess}

/-- The access stays inside the bytes. -/
theorem index_lt (h : s.Suits a) : a.index < s.storage.size := by
  cases h with
  | foreign ho hi => exact hi
  | owned ho hsize hi hend => omega

/-- The index of a read is inside the bound of the string, unless it is negative. -/
theorem lt_readBound {index : Int32} (h : s.Suits (.get index)) : index.toInt < s.readBound := by
  cases h with
  | foreign ho hi =>
    rw [readBound_of_foreign ho]
    exact toInt_lt_addressBound index
  | @owned capacity ho hsize hi hend =>
    have hle : index.toInt ≤ capacity := hi
    have hbound : s.readBound = capacity + 1 := by rw [readBound, ho]
    omega

/-- The index of a write is inside the bound of the string for its byte, unless it is negative. -/
theorem lt_writeBound {index value : Int32} (h : s.Suits (.set index value)) :
    index.toInt < s.writeBound (UInt8.ofInt value.toInt) := by
  cases h with
  | foreign ho hi =>
    rw [writeBound_of_foreign ho]
    exact toInt_lt_addressBound index
  | @owned capacity ho hsize hi hend =>
    have hle : index.toInt ≤ capacity := hi
    rw [writeBound, ho]
    show index.toInt <
      ((if UInt8.ofInt value.toInt = 0 then capacity + 1 else capacity : Nat) : Int)
    split
    · omega
    · next hvalue =>
      have hne : index.toInt ≠ capacity := fun heq => hend ⟨heq, hvalue⟩
      omega

/-- Both sets read the same and record the same. -/
theorem readAt_agrees {index : Int32} (h : s.Suits (.get index)) :
    ((s.readAt index.toInt).orRecord 0).value =
        ((Buffer.readAt s.storage index.toInt).orRecord 0).value ∧
      ((s.readAt index.toInt).orRecord 0).code =
        ((Buffer.readAt s.storage index.toInt).orRecord 0).code := by
  rw [Str.readAt_eq, Buffer.readAt_eq]
  by_cases hneg : 0 ≤ index.toInt
  · rw [if_pos ⟨hneg, h.lt_readBound⟩, if_pos ⟨hneg, toInt_lt_addressBound index⟩]
    exact ⟨rfl, rfl⟩
  · rw [if_neg fun hi => hneg hi.1, if_neg fun hi => hneg hi.1]
    exact ⟨rfl, rfl⟩

/-- Both sets write the same and record the same. -/
theorem writeAt_agrees {index value : Int32} (h : s.Suits (.set index value)) :
    ∃ left : Buffer, left.size = s.storage.size ∧
      (Plain.setByte (some s.storage) index.toInt value.toInt).value = some left ∧
      (Counted.setByte (some s) index.toInt value.toInt).value = some (s.withStorage left) ∧
      (Counted.setByte (some s) index.toInt value.toInt).code =
        (Plain.setByte (some s.storage) index.toInt value.toInt).code := by
  rw [Plain.setByte, Counted.setByte, Str.writeAt_eq, Buffer.writeAt_eq]
  by_cases hneg : 0 ≤ index.toInt
  · rw [if_pos ⟨hneg, toInt_lt_addressBound index⟩, if_pos ⟨hneg, h.lt_writeBound⟩]
    exact ⟨_, Buffer.size_store _ _ _, rfl, rfl, rfl⟩
  · rw [if_neg fun hi => hneg hi.1, if_neg fun hi => hneg hi.1]
    exact ⟨s.storage, rfl, rfl, rfl, rfl⟩

/-- **Both sets of entry points make the same of an access.** -/
theorem runPlain (h : s.Suits a) :
    ∃ (y : Recorded (Option Buffer × Reply)) (left : Buffer),
      a.call.runPlain (some s.storage) = some y ∧ y.value.1 = some left ∧
        left.size = s.storage.size ∧
        (a.call.runCounted (some s)).value.1 = some (s.withStorage left) ∧
        (a.call.runCounted (some s)).value.2 = y.value.2 ∧
        (a.call.runCounted (some s)).code = y.code := by
  cases a with
  | set index value =>
    obtain ⟨left, hsize, hplain, hcounted, hcode⟩ := h.writeAt_agrees
    refine ⟨_, left, rfl, ?_, hsize, ?_, ?_, ?_⟩
    · rw [Recorded.bind_pure_eq]
      exact hplain
    · rw [ByteAccess.call, PointerCall.runCounted, Recorded.bind_pure_eq]
      exact hcounted
    · rw [ByteAccess.call, PointerCall.runCounted, Recorded.bind_pure_eq, Recorded.bind_pure_eq]
    · rw [ByteAccess.call, PointerCall.runCounted, Recorded.bind_pure_eq, Recorded.bind_pure_eq]
      exact hcode
  | get index =>
    obtain ⟨hvalue, hcode⟩ := h.readAt_agrees
    refine ⟨_, s.storage, rfl, ?_, rfl, ?_, ?_, ?_⟩
    · rw [Recorded.bind_pure_eq]
    · rw [ByteAccess.call, PointerCall.runCounted, Recorded.bind_pure_eq]
      rfl
    · rw [ByteAccess.call, PointerCall.runCounted, Recorded.bind_pure_eq, Recorded.bind_pure_eq,
        Counted.getByte, Recorded.map_eq]
      exact congrArg (fun byte => Reply.number (signedByte byte)) hvalue
    · rw [ByteAccess.call, PointerCall.runCounted, Recorded.bind_pure_eq, Recorded.bind_pure_eq,
        Counted.getByte, Recorded.map_eq]
      exact hcode

/-- Other bytes under the same header suit the same accesses. -/
theorem withStorage (h : s.Suits a) {left : Buffer} (hsize : left.size = s.storage.size) :
    (s.withStorage left).Suits a := by
  cases h with
  | foreign ho hi => exact Suits.foreign ho (by rw [storage_withStorage, hsize]; exact hi)
  | owned ho hs hi hend =>
    exact Suits.owned ho (by rw [storage_withStorage, hsize]; exact hs) hi hend

end Suits

end Str

/-! ### Steps -/

/-- An access is never refused: what it replies is a byte, or nothing. -/
theorem ByteAccess.reply_ne_refused (a : ByteAccess) (pointer : Option Str) (reason : Refusal) :
    (a.call.runCounted pointer).value.2 ≠ .refused reason := by
  intro h
  cases a <;> cases h

namespace Program

/-- Nothing happens at an absent address, through whatever entry point. -/
theorem effect_of_null {p : Program} {a : Access} (h : p.pointee a.name = some .null)
    (interface : Interface) :
    p.effect a.thread (a.through interface).2 =
      .tell p (a.byte.call.runCounted none).value.2 := by
  obtain ⟨thread, name, byte⟩ := a
  have hname : p.pointee name = some .null := h
  cases interface with
  | counted =>
    show p.callCounted thread name byte.call = .tell p (byte.call.runCounted none).value.2
    simp only [callCounted, hname]
    cases byte <;> rfl
  | plain =>
    show p.callPlain thread name byte.call = .tell p (byte.call.runCounted none).value.2
    simp only [callPlain, hname]
    cases byte <;> cases name <;> rfl

/-- A name goes on to suit the accesses that it suited, whatever bytes are written. -/
theorem suits_bind_absorb {p : Program} {name : String} {s : Str}
    (hs : p.binding? name = some (.counted s)) {left : Buffer}
    (hsize : left.size = s.storage.size) (thread : Nat) (code : Option ErrorCode) {a : Access}
    (ha : p.Suits a) :
    ((p.bind name (.counted (s.withStorage left))).absorb thread code).Suits a := by
  have hself := p.binding?_bind_absorb thread name (.counted (s.withStorage left)) code
  have hother : ∀ n, n ≠ name →
      ((p.bind name (.counted (s.withStorage left))).absorb thread code).binding? n =
        p.binding? n :=
    fun n hn =>
      congrArg Cell.binding (p.cell_bind_of_ne (Ne.symm hn) (.counted (s.withStorage left)))
  rcases ha with hnull | ⟨n, t, hn, ht, hsuits⟩
  · left
    cases hname : a.name with
    | none => rfl
    | some n =>
      rw [hname] at hnull
      have hne : n ≠ name := by
        rintro rfl
        cases hs.symm.trans hnull
      exact (hother n hne).trans hnull
  · right
    by_cases heq : n = name
    · rw [heq] at hn ht
      cases hs.symm.trans ht
      exact ⟨name, _, hn, hself, hsuits.withStorage hsize⟩
    · exact ⟨n, t, hn, (hother n heq).trans ht, hsuits⟩

/-- **Both sets of entry points take the same step.** -/
theorem step_agrees {p : Program} {a : Access} (h : p.Suits a) :
    (p.step a.thread (a.through .counted).2).1.told =
        (p.step a.thread (a.through .plain).2).1.told ∧
      (p.step a.thread (a.through .counted).2).2 = (p.step a.thread (a.through .plain).2).2 ∧
      (∀ reason, (p.step a.thread (a.through .counted).2).1.result ≠ .ok (.refused reason)) ∧
      ∀ b, p.Suits b → (p.step a.thread (a.through .counted).2).2.Suits b := by
  have key : ∃ (q : Program) (pointer : Option Str) (es es' : List Event),
      p.effect a.thread (a.through .counted).2 =
          ⟨.ok (a.byte.call.runCounted pointer).value.2, q, es⟩ ∧
        p.effect a.thread (a.through .plain).2 =
          ⟨.ok (a.byte.call.runCounted pointer).value.2, q, es'⟩ ∧
        ∀ b, p.Suits b → q.Suits b := by
    rcases h with hnull | ⟨name, s, hname, hs, hsuits⟩
    · exact ⟨p, none, [], [], effect_of_null hnull .counted, effect_of_null hnull .plain,
        fun _ hb => hb⟩
    · obtain ⟨y, left, hrun, hleft, hsize, hvalue, hreply, hcode⟩ := hsuits.runPlain
      have hvouch : Buffer.vouchesFor s.storage a.byte.index = true := by
        simpa [Buffer.vouchesFor] using hsuits.index_lt
      have hinside : a.byte.call.staysInside s.vouchesFor = true := by
        cases hbyte : a.byte <;> rw [hbyte] at hvouch <;>
          exact (Bool.or_eq_true _ _).mpr (Or.inl hvouch)
      have hinside' : a.byte.call.staysInside (Buffer.vouchesFor s.storage) = true := by
        cases hbyte : a.byte <;> rw [hbyte] at hvouch <;> exact hvouch
      have hcounted := callCounted_of_counted a.thread hs hinside
      have hplain := callPlain_of_buffer a.thread hs rfl hrun hleft hinside'
      rw [hvalue, hcode] at hcounted
      rw [← hreply] at hplain
      refine ⟨(p.bind name (.counted (s.withStorage left))).absorb a.thread y.code, some s,
        (a.byte.call.runCounted (some s)).events, y.events, ?_, ?_,
        fun b hb => suits_bind_absorb hs hsize a.thread y.code hb⟩
      · show p.callCounted a.thread a.name a.byte.call = _
        rw [hname]
        exact hcounted
      · show p.callPlain a.thread a.name a.byte.call = _
        rw [hname]
        exact hplain
  obtain ⟨q, pointer, es, es', hcounted, hplain, hkeeps⟩ := key
  refine ⟨?_, ?_, fun reason => ?_, ?_⟩
  · rw [step, step, hcounted, hplain]
    rfl
  · rw [step, step, hcounted, hplain]
  · rw [step, hcounted]
    intro hrefused
    exact a.byte.reply_ne_refused pointer reason (Except.ok.inj hrefused)
  · rw [step, hcounted]
    exact hkeeps

end Program

/-! ## 3.  What fails -/

/-- Why an access fails if nothing but the sign of its index is looked at. -/
def ByteAccess.signFailures (a : ByteAccess) : List StringError :=
  if a.index < 0 then [.invalidIndex a.index 9223372036854775807] else []

/-- Where only the address space bounds an access, its sign decides. -/
theorem failures_of_addressBound {α : Type} (index : Int32) (x : α) :
    (if 0 ≤ index.toInt ∧ index.toInt < addressBound then pure x
      else refusal index.toInt addressBound : Outcome α).failures =
        if index.toInt < 0 then [.invalidIndex index.toInt 9223372036854775807] else [] := by
  by_cases hneg : 0 ≤ index.toInt
  · rw [if_pos ⟨hneg, toInt_lt_addressBound index⟩, if_neg (by omega)]
    rfl
  · rw [if_neg fun hi => hneg hi.1, if_pos (by omega)]
    rfl

namespace ByteAccess

/-- Of the accesses to bare bytes exactly the negative ones fail. -/
theorem failures_of_buffer (a : ByteAccess) (buffer : Buffer) :
    a.call.failures Buffer.readAt Buffer.writeAt buffer = a.signFailures := by
  cases a with
  | set index value =>
    rw [call, PointerCall.failures, Buffer.writeAt_eq, failures_of_addressBound]
    rfl
  | get index =>
    rw [call, PointerCall.failures, Buffer.readAt_eq, failures_of_addressBound]
    rfl

/-- Of the accesses to a foreign string exactly the negative ones fail. -/
theorem failures_of_foreign (a : ByteAccess) {s : Str} (h : s.ownedCapacity = none) :
    a.call.failures Str.readAt Str.writeAt s = a.signFailures := by
  cases a with
  | set index value =>
    rw [call, PointerCall.failures, Str.writeAt_eq, Str.writeBound_of_foreign h,
      failures_of_addressBound]
    rfl
  | get index =>
    rw [call, PointerCall.failures, Str.readAt_eq, Str.readBound_of_foreign h,
      failures_of_addressBound]
    rfl

/-- Something other than a zero at the end of an owned string is turned away by its bound. -/
theorem failures_of_spoils {a : ByteAccess} {s : Str} {capacity : Nat}
    (h : s.ownedCapacity = some capacity) (ha : a.Spoils capacity) :
    a.call.failures Str.readAt Str.writeAt s = [.invalidIndex capacity capacity] := by
  cases a with
  | get index => exact ha.elim
  | set index value =>
    obtain ⟨hindex, hvalue⟩ := ha
    have hbound : s.writeBound (UInt8.ofInt value.toInt) = capacity := by
      rw [Str.writeBound, h]
      exact if_neg hvalue
    rw [call, PointerCall.failures, Str.writeAt_eq, hbound, hindex, if_neg (by omega)]
    rfl

/-- What spoils the end of a string is at an index that is not negative. -/
theorem Spoils.signFailures_eq {a : ByteAccess} {capacity : Nat} (ha : a.Spoils capacity) :
    a.signFailures = [] := by
  cases a with
  | get index => exact ha.elim
  | set index value =>
    have hindex : (ByteAccess.set index value).index = capacity := ha.1
    rw [signFailures, hindex, if_neg (by omega)]

/-- What an access leaves of bytes that it gets at, and what it replies. -/
def reach (buffer : Buffer) : ByteAccess → Buffer × Reply
  | .set index value => (buffer.store index.toInt.toNat (UInt8.ofInt value.toInt), .done)
  | .get index => (buffer, .number (signedByte (buffer.load index.toInt.toNat)))

/-- An access to bare bytes gets at its byte, unless its index is negative. -/
theorem runPlain_reaches (a : ByteAccess) (buffer : Buffer) :
    ∃ x, a.call.runPlain (some buffer) = some x ∧ x.Tells a.signFailures ∧
      (0 ≤ a.index → x.value = (some (a.reach buffer).1, (a.reach buffer).2)) := by
  have hx : ∃ x, a.call.runPlain (some buffer) = some x := by cases a <;> exact ⟨_, rfl⟩
  obtain ⟨x, hx⟩ := hx
  have htells := PointerCall.runPlain_tells hx
  rw [a.failures_of_buffer] at htells
  refine ⟨x, hx, htells, fun hindex => ?_⟩
  cases a with
  | set index value =>
    rw [← Option.some.inj hx, Recorded.bind_pure_eq, Plain.setByte, Buffer.writeAt_eq,
      if_pos ⟨hindex, toInt_lt_addressBound index⟩]
    rfl
  | get index =>
    rw [← Option.some.inj hx, Recorded.bind_pure_eq, Plain.getByte, Buffer.readAt_eq,
      if_pos ⟨hindex, toInt_lt_addressBound index⟩]
    rfl

/-- An access to a foreign string gets at its byte, unless its index is negative. -/
theorem runCounted_reaches (a : ByteAccess) {s : Str} (h : s.ownedCapacity = none)
    (hindex : 0 ≤ a.index) :
    (a.call.runCounted (some s)).value =
      (some (s.withStorage (a.reach s.storage).1), (a.reach s.storage).2) := by
  cases a with
  | set index value =>
    rw [call, PointerCall.runCounted, Recorded.bind_pure_eq, Counted.setByte, Str.writeAt_eq,
      Str.writeBound_of_foreign h, if_pos ⟨hindex, toInt_lt_addressBound index⟩]
    rfl
  | get index =>
    rw [call, PointerCall.runCounted, Recorded.bind_pure_eq, Counted.getByte, Str.readAt_eq,
      Str.readBound_of_foreign h, if_pos ⟨hindex, toInt_lt_addressBound index⟩]
    rfl

end ByteAccess

/-! ## 4.  The law -/

namespace Program

/-- Both sets of entry points take the same run. -/
theorem run_agrees {p : Program} {accesses : List Access} (h : ∀ a ∈ accesses, p.Suits a) :
    (p.run (accesses.map (Access.through .counted))).1.map Answer.told =
        (p.run (accesses.map (Access.through .plain))).1.map Answer.told ∧
      p.after (accesses.map (Access.through .counted)) =
        p.after (accesses.map (Access.through .plain)) ∧
      ∀ x ∈ (p.run (accesses.map (Access.through .counted))).1, ∀ reason,
        x.result ≠ .ok (.refused reason) := by
  induction accesses generalizing p with
  | nil => exact ⟨rfl, rfl, by simp [run]⟩
  | cons a rest ih =>
    obtain ⟨ha, hrest⟩ := List.forall_mem_cons.mp h
    obtain ⟨htold, hafter, hanswered, hkeeps⟩ := step_agrees ha
    obtain ⟨ihtold, ihafter, ihanswered⟩ := ih fun b hb => hkeeps b (hrest b hb)
    have hrun : ∀ interface, p.run ((a :: rest).map (Access.through interface)) =
        ((p.step a.thread (a.through interface).2).1 ::
            ((p.step a.thread (a.through interface).2).2.run
              (rest.map (Access.through interface))).1,
          ((p.step a.thread (a.through interface).2).2.run
            (rest.map (Access.through interface))).2) := fun _ => rfl
    refine ⟨?_, ?_, ?_⟩
    · rw [hrun, hrun, List.map_cons, List.map_cons, htold, ihtold, hafter]
    · rw [after, after, hrun, hrun]
      rw [after, after] at ihafter
      rw [ihafter, hafter]
    · intro x hx
      rw [hrun] at hx
      rcases List.mem_cons.mp hx with rfl | hx
      · exact hanswered
      · exact ihanswered x hx

/-- **Both sets of entry points agree on bytes.**  Let any threads make any accesses, each of them
at an absent address, to a foreign string and inside its bytes, or to an owned string that has no
bytes behind its capacity, if it does not put something other than a zero at the end of that string.

* Through both sets of entry points, each access returns the same, finds the same code in the slot
  of its thread afterwards, and leaves the same string; and none of them is refused.
* After each access the process is the same: all strings with their headers, and all slots.
* Of all accesses to a foreign string through the first set, and to any bytes through the second
  one, exactly those at a negative index fail, as the log and the slot are told.  Every other one
  gets at its byte, whatever zeros there are among the bytes.
* The exception is one: something other than a zero at the end of an owned string fails through the
  first set, and does not through the second one. -/
theorem byte_access_agrees {p : Program} {accesses : List Access}
    (h : ∀ a ∈ accesses, p.Suits a) :
    (p.run (accesses.map (Access.through .counted))).1.map Answer.told =
      (p.run (accesses.map (Access.through .plain))).1.map Answer.told ∧
    (∀ x ∈ (p.run (accesses.map (Access.through .counted))).1, ∀ reason,
      x.result ≠ .ok (.refused reason)) ∧
    (∀ before rest, accesses = before ++ rest →
      p.after (before.map (Access.through .counted)) =
        p.after (before.map (Access.through .plain))) ∧
    (∀ (a : ByteAccess) (s : Str), s.ownedCapacity = none →
      (a.call.runCounted (some s)).Tells a.signFailures ∧
      (0 ≤ a.index → (a.call.runCounted (some s)).value =
        (some (s.withStorage (a.reach s.storage).1), (a.reach s.storage).2))) ∧
    (∀ (a : ByteAccess) (buffer : Buffer), ∃ x, a.call.runPlain (some buffer) = some x ∧
      x.Tells a.signFailures ∧
      (0 ≤ a.index → x.value = (some (a.reach buffer).1, (a.reach buffer).2))) ∧
    ∀ (a : ByteAccess) (s : Str) (capacity : Nat), s.ownedCapacity = some capacity →
      a.Spoils capacity →
        (a.call.runCounted (some s)).Tells [.invalidIndex capacity capacity] ∧
        ∃ x, a.call.runPlain (some s.storage) = some x ∧ x.Tells [] := by
  obtain ⟨htold, -, hanswered⟩ := run_agrees h
  refine ⟨htold, hanswered, ?_, fun a s hs => ⟨?_, a.runCounted_reaches hs⟩,
    fun a buffer => a.runPlain_reaches buffer, fun a s capacity hs ha => ⟨?_, ?_⟩⟩
  · rintro before rest rfl
    exact (run_agrees fun a ha => h a (List.mem_append_left rest ha)).2.1
  · rw [← a.failures_of_foreign hs]
    exact a.call.runCounted_tells s
  · rw [← ByteAccess.failures_of_spoils hs ha]
    exact a.call.runCounted_tells s
  · obtain ⟨x, hx, htells, -⟩ := a.runPlain_reaches s.storage
    rw [ha.signFailures_eq] at htells
    exact ⟨x, hx, htells⟩

/-- Two threads get at a foreign string with a zero byte inside, at an owned one up to its end, and
at an absent address, with a negative index and with numbers that are no bytes. -/
theorem agreement_on_three_names :
    let literal : Str := ⟨-7, 5, #[104, 0, 33, 107]⟩
    let own : Str := ⟨1, ownedInfo 2, #[97, 98, 0]⟩
    let p : Program := ((start (.filledWith 7 64) ⟨∅⟩ [] .silent true).bind "literal"
      (.counted literal)).bind "own" (.counted own)
    let accesses : List Access :=
      [⟨0, "literal", .get 3⟩, ⟨1, "own", .set 2 256⟩, ⟨0, "literal", .set 2 (-1)⟩,
        ⟨1, "own", .get (-5)⟩, ⟨0, none, .get 9⟩, ⟨1, "own", .set 0 0⟩]
    (∀ a ∈ accesses, p.Suits a) ∧
      (p.after (accesses.map (Access.through .plain))).binding? "literal" =
        some (.counted ⟨-7, 5, #[104, 0, 255, 107]⟩) ∧
      (p.after (accesses.map (Access.through .plain))).binding? "own" =
        some (.counted ⟨1, ownedInfo 2, #[0, 98, 0]⟩) ∧
      (p.after (accesses.map (Access.through .plain))).slots.read 1 = .invalidIndex := by
  intro literal own p accesses
  have hliteral : ∀ a : ByteAccess, a.index < 4 → literal.Suits a :=
    fun a ha => Str.Suits.foreign rfl ha
  have hown : ∀ a : ByteAccess, a.index ≤ 2 → ¬ a.Spoils 2 → own.Suits a :=
    fun a ha hend => Str.Suits.owned (by decide) rfl ha hend
  have hsuits : ∀ a ∈ accesses, p.Suits a := by
    simp only [accesses, List.forall_mem_cons]
    refine ⟨Or.inr ⟨_, literal, rfl, by decide, hliteral _ (by decide)⟩,
      Or.inr ⟨_, own, rfl, by decide, hown _ (by decide) (by decide)⟩,
      Or.inr ⟨_, literal, rfl, by decide, hliteral _ (by decide)⟩,
      Or.inr ⟨_, own, rfl, by decide, hown _ (by decide) (by decide)⟩, Or.inl rfl,
      Or.inr ⟨_, own, rfl, by decide, hown _ (by decide) (by decide)⟩, by simp⟩
  have hafter := (byte_access_agrees hsuits).2.2.1 accesses [] (List.append_nil _).symm
  rw [← hafter]
  exact ⟨hsuits, by decide, by decide, by decide⟩

end Program

end CountedStrings
