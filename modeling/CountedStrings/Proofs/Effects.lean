import CountedStrings.Proofs.Accesses
import CountedStrings.Proofs.Births

/-!
# Effects of the steps on strings

The steps that make and use strings first look at what their name stands for, and make no sense for
some of it.  This file opens these case distinctions once.  Each is a list of the effects that the
step can have, with the circumstances of each: either the step *tells* something and does nothing
else, or a call took place and the effect is spelled out in terms of that call.

* `make_cases`, `makeThrough_cases`: a string is made for a free name.
* `call_cases`: a call of the library on a string with a header; `call_of_ok` and `call_of_error`
  for one that is known to succeed or to fail, and `events_call` for the report of one that takes
  place.
* `readPlain_cases`, `writePlain_cases`: access without regard to a header.
* `callCounted_cases`, `callPlain_cases`: a call through the entry points; `callCounted_of_counted`
  and `callPlain_of_buffer` for a string and for bytes that are known to be there.  At an absent
  address nothing happens (`runCounted_none`, `runPlain_none`).
-/

namespace CountedStrings

/-! ## Absent addresses -/

theorem fillWith_none {α : Type} {set : Option α → Int → Int → Recorded (Option α)}
    (h : ∀ index value, set none index value = pure none) (index : Int) (bytes : Bytes) :
    fillWith set none index bytes = pure none := by
  induction bytes generalizing index with
  | nil => rfl
  | cons byte rest ih =>
    rw [fillWith, h, Recorded.pure_bind, ih (index + 1)]

theorem scanWith_none {g : Int → Recorded Int} (h : ∀ index, g index = pure 0) (index : Int)
    (count : Nat) : scanWith g index count = pure (List.replicate count 0) := by
  induction count generalizing index with
  | zero => rfl
  | succ count ih =>
    rw [scanWith, h, List.replicate_succ, ih (index + 1)]
    rfl

namespace PointerCall

/-- Nothing happens at an absent address: no failure, no report. -/
theorem runCounted_none (c : PointerCall) :
    ∃ reply, c.runCounted none = ⟨(none, reply), none, []⟩ := by
  cases c with
  | setByte index value => exact ⟨_, rfl⟩
  | getByte index => exact ⟨_, rfl⟩
  | fill index bytes =>
    rw [runCounted, fillWith_none fun _ _ => rfl]
    exact ⟨_, rfl⟩
  | scan index count =>
    rw [runCounted, scanWith_none (g := Counted.getByte none) fun _ => rfl]
    exact ⟨_, rfl⟩
  | retain => exact ⟨_, rfl⟩
  | release => exact ⟨_, rfl⟩
  | refcount => exact ⟨_, rfl⟩

theorem runPlain_none {c : PointerCall} {x : Recorded (Option Buffer × Reply)}
    (h : c.runPlain none = some x) : ∃ reply, x = ⟨(none, reply), none, []⟩ := by
  cases c with
  | setByte index value => exact ⟨_, (Option.some.inj h).symm⟩
  | getByte index => exact ⟨_, (Option.some.inj h).symm⟩
  | fill index bytes =>
    rw [runPlain, fillWith_none fun _ _ => rfl] at h
    exact ⟨_, (Option.some.inj h).symm⟩
  | scan index count =>
    rw [runPlain, scanWith_none (g := Plain.getByte none) fun _ => rfl] at h
    exact ⟨_, (Option.some.inj h).symm⟩
  | retain => cases h
  | release => cases h
  | refcount => cases h

end PointerCall

/-! ## Bytes that stay bytes -/

namespace Plain

/-- A write leaves bytes behind, as many as there were. -/
theorem setByte_some (buffer : Buffer) (index value : Int) :
    ∃ left, (setByte (some buffer) index value).value = some left ∧ left.size = buffer.size := by
  rw [setByte]
  cases hx : (buffer.writeAt index (UInt8.ofInt value)).result with
  | ok written =>
    refine ⟨written, ?_, ?_⟩
    · rw [Outcome.orRecord_ok]
      rw [Outcome.result_map, hx]
      rfl
    · rw [Buffer.writeAt_eq] at hx
      split at hx
      · rw [← Except.ok.inj hx, Buffer.size_store]
      · cases hx
  | error error =>
    refine ⟨buffer, ?_, rfl⟩
    rw [Outcome.orRecord_error]
    rw [Outcome.result_map, hx]
    rfl

theorem fillWith_some (buffer : Buffer) (index : Int) (bytes : Bytes) :
    ∃ left, (fillWith setByte (some buffer) index bytes).value = some left ∧
      left.size = buffer.size := by
  induction bytes generalizing buffer index with
  | nil => exact ⟨buffer, rfl, rfl⟩
  | cons byte rest ih =>
    obtain ⟨written, hw, hsize⟩ := setByte_some buffer index byte.toNat
    obtain ⟨left, hleft, hsize'⟩ := ih written (index + 1)
    rw [fillWith, Recorded.value_bind, hw]
    exact ⟨left, hleft, hsize'.trans hsize⟩

end Plain

/-- A call on bytes leaves bytes behind, as many as there were. -/
theorem PointerCall.runPlain_some {buffer : Buffer} {c : PointerCall}
    {x : Recorded (Option Buffer × Reply)} (h : c.runPlain (some buffer) = some x) :
    ∃ left, x.value.1 = some left ∧ left.size = buffer.size := by
  cases c with
  | setByte index value =>
    rw [runPlain, Recorded.bind_pure_eq] at h
    rw [← Option.some.inj h]
    exact Plain.setByte_some buffer index value
  | getByte index =>
    rw [runPlain, Recorded.bind_pure_eq] at h
    rw [← Option.some.inj h]
    exact ⟨buffer, rfl, rfl⟩
  | fill index bytes =>
    rw [runPlain, Recorded.bind_pure_eq] at h
    rw [← Option.some.inj h]
    exact Plain.fillWith_some buffer index bytes
  | scan index count =>
    rw [runPlain, Recorded.bind_pure_eq] at h
    rw [← Option.some.inj h]
    exact ⟨buffer, rfl, rfl⟩
  | retain => cases h
  | release => cases h
  | refcount => cases h

namespace Program

/-! ## Making strings -/

theorem make_cases (p : Program) (name : String) (source : Source) :
    (∃ reply, p.make name source = .tell p reply) ∨
      p.isFree name = true ∧
        ((∃ s, (p.build source).result = .ok s ∧
            p.make name source =
              ⟨.ok (.made s.isSome), p.bindNew name s, (p.build source).events⟩) ∨
          ∃ error, (p.build source).result = .error error ∧
            p.make name source =
              ⟨.error error, p.bindNew name none, (p.build source).events⟩) := by
  by_cases hfree : p.isFree name = true
  · right
    refine ⟨hfree, ?_⟩
    rw [make, if_pos hfree]
    cases hx : (p.build source).result with
    | ok s => exact Or.inl ⟨s, rfl, by simp only [hx]⟩
    | error error => exact Or.inr ⟨error, rfl, by simp only [hx]⟩
  · left
    rw [make, if_neg hfree]
    exact ⟨_, rfl⟩

theorem makeThrough_cases (p : Program) (thread : Nat) (name : String) (source : CountedSource) :
    (∃ reply, p.makeThrough thread name source = .tell p reply ∧ p.isFree name = false) ∨
      p.isFree name = true ∧
        ((∃ s, (p.outcomeBehind source).result = .ok s ∧
            p.makeThrough thread name source =
              ⟨.ok (.made s.isSome), p.bindNew name s, (p.outcomeBehind source).events⟩) ∨
          ∃ error, (p.outcomeBehind source).result = .error error ∧
            p.makeThrough thread name source =
              ⟨.ok (.made false), (p.bindNew name none).absorb thread error.code,
                (p.outcomeBehind source).events⟩) := by
  by_cases hfree : p.isFree name = true
  · right
    refine ⟨hfree, ?_⟩
    rw [makeThrough, if_pos hfree, buildThrough_eq]
    cases hx : (p.outcomeBehind source).result with
    | ok s =>
      rw [Outcome.orRecord_ok hx]
      exact Or.inl ⟨s, rfl, rfl⟩
    | error error =>
      rw [Outcome.orRecord_error hx]
      exact Or.inr ⟨error, rfl, rfl⟩
  · left
    rw [makeThrough, if_neg hfree]
    exact ⟨_, rfl, by simpa using hfree⟩

/-! ## Using strings -/

theorem call_cases (p : Program) (name : String) (c : StrCall) :
    (∃ reply, p.call name c = .tell p reply) ∨
      ∃ s, p.binding? name = some (.counted s) ∧
        ((∃ left reply, (c.run s).result = .ok (left, reply) ∧
            p.call name c = ⟨.ok reply, p.leave name left, (c.run s).events⟩) ∨
          ∃ error, (c.run s).result = .error error ∧
            p.call name c = ⟨.error error, p, (c.run s).events⟩) := by
  rw [call]
  split
  · next s hs =>
    split
    · right
      refine ⟨s, hs, ?_⟩
      cases hx : (c.run s).result with
      | ok x => exact Or.inl ⟨x.1, x.2, rfl, by simp only [hx]⟩
      | error error => exact Or.inr ⟨error, rfl, by simp only [hx]⟩
    · exact Or.inl ⟨_, rfl⟩
  · exact Or.inl ⟨_, rfl⟩

/-- A call of the library on a string that is there, if it succeeds. -/
theorem call_of_ok {p : Program} {name : String} {s : Str} {c : StrCall}
    (hs : p.binding? name = some (.counted s)) (hi : c.staysInside s = true) {left : Option Str}
    {reply : Reply} (hx : (c.run s).result = .ok (left, reply)) :
    p.call name c = ⟨.ok reply, p.leave name left, (c.run s).events⟩ := by
  simp only [call, hs, hi, hx, if_true]

/-- A call of the library on a string that is there, if it fails. -/
theorem call_of_error {p : Program} {name : String} {s : Str} {c : StrCall}
    (hs : p.binding? name = some (.counted s)) (hi : c.staysInside s = true) {error : StringError}
    (hx : (c.run s).result = .error error) :
    p.call name c = ⟨.error error, p, (c.run s).events⟩ := by
  simp only [call, hs, hi, hx, if_true]

/-- A call of the library on a string that is there reports what the call reports. -/
theorem events_call {p : Program} {name : String} {s : Str} {c : StrCall}
    (hs : p.binding? name = some (.counted s)) (hi : c.staysInside s = true) :
    (p.call name c).events = (c.run s).events := by
  simp only [call, hs, hi, if_true]
  split <;> rfl

theorem readPlain_cases (p : Program) (name : String) (index : Int) :
    (∃ reply, p.readPlain name index = .tell p reply) ∨
      ∃ buffer : Buffer, p.readPlain name index =
        ⟨(buffer.readAt index).result.map fun byte => .number byte.toNat, p,
          (buffer.readAt index).events⟩ := by
  rw [readPlain]
  split
  · exact Or.inl ⟨_, rfl⟩
  · next buffer _ =>
    split
    · exact Or.inr ⟨buffer, rfl⟩
    · exact Or.inl ⟨_, rfl⟩

theorem writePlain_cases (p : Program) (name : String) (index : Int) (value : UInt8) :
    (∃ reply, p.writePlain name index value = .tell p reply) ∨
      ∃ b buffer, p.binding? name = some b ∧ buffer? b = some buffer ∧
        ((∃ written, (buffer.writeAt index value).result = .ok written ∧
            p.writePlain name index value =
              ⟨.ok .done, p.bind name (withBuffer b written),
                (buffer.writeAt index value).events⟩) ∨
          ∃ error, (buffer.writeAt index value).result = .error error ∧
            p.writePlain name index value =
              ⟨.error error, p, (buffer.writeAt index value).events⟩) := by
  rw [writePlain]
  split
  · exact Or.inl ⟨_, rfl⟩
  · next b hb =>
    split
    · exact Or.inl ⟨_, rfl⟩
    · next buffer hbuffer =>
      split
      · right
        refine ⟨b, buffer, hb, hbuffer, ?_⟩
        cases hx : (buffer.writeAt index value).result with
        | ok written => exact Or.inl ⟨written, rfl, by simp only [hx]⟩
        | error error => exact Or.inr ⟨error, rfl, by simp only [hx]⟩
      · exact Or.inl ⟨_, rfl⟩

/-- The effect of a call through the entry points on a string: either it does not touch a string, or
the call took place and the string is vouched for. -/
theorem callCounted_cases (p : Program) (thread : Nat) (name : Option String) (c : PointerCall) :
    (∃ reply, p.callCounted thread name c = .tell p reply ∧
      ∀ n s, name = some n → p.binding? n = some (.counted s) →
        c.staysInside s.vouchesFor = false) ∨
      ∃ n s, name = some n ∧ p.binding? n = some (.counted s) ∧
        c.staysInside s.vouchesFor = true ∧
        p.callCounted thread name c =
          ⟨.ok (c.runCounted (some s)).value.2,
            (p.leave n (c.runCounted (some s)).value.1).absorb thread (c.runCounted (some s)).code,
            (c.runCounted (some s)).events⟩ := by
  unfold callCounted
  split
  · next hp =>
    obtain ⟨reply, hx⟩ := c.runCounted_none
    rw [hx]
    refine Or.inl ⟨reply, rfl, fun n s hn hs => ?_⟩
    rw [hn, pointee, hs] at hp
    cases hp
  · next s n hs =>
    split
    · next hinside => exact Or.inr ⟨n, s, rfl, hs, hinside, rfl⟩
    · next houtside =>
      refine Or.inl ⟨_, rfl, fun n' s' hn hs' => ?_⟩
      cases hn
      cases hs.symm.trans hs'
      simpa using houtside
  · next hother =>
    refine Or.inl ⟨_, rfl, fun n s hn hs => ?_⟩
    cases hn
    exact (hother s n hs rfl).elim

/-- A call through the entry points on a string that is there. -/
theorem callCounted_of_counted {p : Program} (thread : Nat) {name : String} {s : Str}
    {c : PointerCall} (hs : p.binding? name = some (.counted s))
    (hi : c.staysInside s.vouchesFor = true) :
    p.callCounted thread (some name) c =
      ⟨.ok (c.runCounted (some s)).value.2,
        (p.leave name (c.runCounted (some s)).value.1).absorb thread (c.runCounted (some s)).code,
        (c.runCounted (some s)).events⟩ := by
  simp only [callCounted, pointee, hs, hi, if_true]

/-- A call through the entry points on bytes that are there. -/
theorem callPlain_of_buffer {p : Program} (thread : Nat) {name : String} {b : Binding}
    {buffer left : Buffer} {c : PointerCall} {x : Recorded (Option Buffer × Reply)}
    (hb : p.binding? name = some b) (hbuffer : buffer? b = some buffer)
    (hx : c.runPlain (some buffer) = some x) (hleft : x.value.1 = some left)
    (hi : c.staysInside buffer.vouchesFor = true) :
    p.callPlain thread (some name) c =
      ⟨.ok x.value.2, (p.bind name (withBuffer b left)).absorb thread x.code, x.events⟩ := by
  simp only [callPlain, pointee, hb, hbuffer, hx, Option.all_some, hi, hleft]

/-- The effect of a call through the entry points on bytes: either it does not touch them, or the
call took place and the bytes are vouched for. -/
theorem callPlain_cases (p : Program) (thread : Nat) (name : Option String) (c : PointerCall) :
    (∃ reply, p.callPlain thread name c = .tell p reply ∧
      ∀ n b buffer, name = some n → p.binding? n = some b → buffer? b = some buffer →
        c.runPlain (some buffer) = none ∨ c.staysInside buffer.vouchesFor = false) ∨
      ∃ n b buffer x left, name = some n ∧ p.binding? n = some b ∧ buffer? b = some buffer ∧
        c.runPlain (some buffer) = some x ∧ x.value.1 = some left ∧
        c.staysInside buffer.vouchesFor = true ∧
        p.callPlain thread name c =
          ⟨.ok x.value.2, (p.bind n (withBuffer b left)).absorb thread x.code, x.events⟩ := by
  unfold callPlain
  split
  · next hp =>
    refine Or.inl ⟨_, rfl, fun n b buffer hn hb _ => ?_⟩
    rw [hn, pointee, hb] at hp
    cases hp
  · next b hb =>
    -- a call that is refused says so for the bytes of every binding that the name may have
    have hrefused : ∀ n b' buffer, name = some n → p.binding? n = some b' →
        buffer? b' = some buffer → buffer? b = some buffer := by
      intro n b' buffer hn hb' hbuffer
      rw [hn, pointee, hb'] at hb
      rw [← Option.some.inj hb]
      exact hbuffer
    split
    · next hx =>
      refine Or.inl ⟨_, rfl, fun n b' buffer hn hb' hbuffer => Or.inl ?_⟩
      rw [hrefused n b' buffer hn hb' hbuffer] at hx
      exact hx
    · next houtside =>
      refine Or.inl ⟨_, rfl, fun n b' buffer hn hb' hbuffer => Or.inr ?_⟩
      rw [hrefused n b' buffer hn hb' hbuffer] at houtside
      exact houtside
    · next x hx hinside =>
      cases hbuffer : buffer? b with
      | none =>
        rw [hbuffer] at hx
        obtain ⟨reply, rfl⟩ := PointerCall.runPlain_none hx
        refine Or.inl ⟨reply, ?_, fun n b' buffer hn hb' hbuffer' => ?_⟩
        · cases name <;> rfl
        · rw [hrefused n b' buffer hn hb' hbuffer'] at hbuffer
          cases hbuffer
      | some buffer =>
        rw [hbuffer] at hx hinside
        obtain ⟨left, hleft, -⟩ := PointerCall.runPlain_some hx
        cases name with
        | none =>
          rw [← Option.some.inj hb] at hbuffer
          cases hbuffer
        | some n =>
          refine Or.inr ⟨n, b, buffer, x, left, rfl, hb, hbuffer, hx, hleft, hinside, ?_⟩
          simp only [hleft]

end Program

end CountedStrings
