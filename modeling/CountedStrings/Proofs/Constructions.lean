import CountedStrings.Proofs.Endings
import CountedStrings.Proofs.Ownership
import CountedStrings.Proofs.Writes

/-!
# All ways of building a string agree

A string can be made of given bytes at once.  It can also be made of zeros and then be written, byte
by byte or in rows, through the library, through the entry points, or without regard to its header.
And it can be made of what the host holds: a zero-terminated string, a variable, an argument.  This
file proves that these ways lead to the same memory, to the last byte.

Where they differ is in how much of some bytes they take.  Bytes that are given as such are taken
whole, zeros included; what is read from the host is taken up to its first zero.  What is visible of
the string is the same for both, and so is a copy of it.

## 1.  Steps that put bytes

`binding?_of_puts`: a step that asks for puts below the capacity of a string makes all of them,
whichever of the seven kinds of writes it is.  `binding?_after_puts` is the same for a run.

## 2.  Writing a string of zeros

`FillsIn` says that a run writes given bytes, each at its index.  `foldl_put_zeros`: it does not
matter in which order, or how often, as long as no index is left out.

## 3.  Copies

`binding?_of_making` says what a name stands for after a demand that is met, and `Making.Copies`
says which ways of making a string copy which bytes of the host.  `constructions_agree` puts this
together.  `Program.MakesCopy` says that a way of making a string ends with a copy of some bytes.
-/

namespace CountedStrings

/-! ## 1.  Steps that put bytes -/

namespace Put

/-- A row of bytes puts each of them at its index. -/
theorem mem_row {bytes : Bytes} {i : Nat} (h : i < bytes.length) (index : Int) :
    (⟨index + i, bytes[i]⟩ : Put) ∈ row index bytes := by
  induction bytes generalizing index i with
  | nil => exact absurd h (Nat.not_lt_zero i)
  | cons byte rest ih =>
    cases i with
    | zero =>
      rw [row, Int.natCast_zero, Int.add_zero]
      exact List.mem_cons_self
    | succ i =>
      have hrest := ih (Nat.lt_of_succ_lt_succ h) (index + 1)
      rw [row, Int.natCast_succ, Int.add_comm (i : Int) 1, ← Int.add_assoc]
      exact List.mem_cons_of_mem _ hrest

theorem lastAt_eq_some {ws : List Put} {i : Nat} {value : UInt8}
    (hsome : ∃ w ∈ ws, w.index = (i : Int))
    (hvalue : ∀ w ∈ ws, w.index = (i : Int) → w.value = value) : lastAt ws i = some value := by
  cases hlast : lastAt ws i with
  | none =>
    obtain ⟨w, hw, hindex⟩ := hsome
    rw [lastAt, Option.map_eq_none_iff, List.getLast?_eq_none_iff, List.filter_eq_nil_iff] at hlast
    exact absurd (decide_eq_true hindex) (hlast w hw)
  | some v => exact congrArg some (hvalue _ (mem_of_lastAt hlast) rfl)

end Put

/-- If a string takes all of some puts, they are made in its bytes. -/
theorem Str.foldl_put_of_accepts {s : Str} {ws : List Put} (h : ∀ w ∈ ws, s.Accepts w) :
    ws.foldl put s = s.withStorage (ws.foldl Buffer.put s.storage) := by
  rw [foldl_put_eq, List.filter_eq_self.mpr fun w hw => decide_eq_true (h w hw)]

/-- A row of writes through the entry point is a row of puts. -/
theorem Counted.value_fillWith (s : Str) (index : Int) (bytes : Bytes) :
    (fillWith setByte (some s) index bytes).value =
      some ((Put.row index bytes).foldl Str.put s) := by
  induction bytes generalizing s index with
  | nil => rfl
  | cons byte rest ih =>
    have hfirst : (setByte (some s) index byte.toNat).value = some (s.put ⟨index, byte⟩) := by
      rw [setByte_eq_put, ofInt_toNat]
      split
      · rfl
      · next hnot => rw [Str.put_of_not hnot]
    rw [fillWith, Recorded.value_bind, hfirst, ih]
    rfl

namespace Program

variable {p : Program} {name : String} {s : Str} {capacity : Nat}

/-- A write through the library makes its put. -/
theorem binding?_call_write (hb : p.binding? name = some (.counted s)) {c : StrCall}
    (hinside : c.staysInside s = true) {w : Put} (hw : s.Accepts w)
    (hrun : c.run s = s.writeAt w.index w.value >>= fun t => pure (some t, .done)) :
    (p.call name c).after.binding? name = some (.counted (s.put w)) := by
  rw [s.writeAt_eq_put w, if_pos hw] at hrun
  rw [call_of_ok hb hinside (congrArg Outcome.result hrun)]
  exact p.binding?_leave name _

/-- A write without regard to a header makes its put. -/
theorem binding?_writePlain (hb : p.binding? name = some (.counted s)) {w : Put}
    (hinside : Buffer.vouchesFor s.storage w.index = true) (hw : s.Accepts w) :
    (p.writePlain name w.index w.value).after.binding? name = some (.counted (s.put w)) := by
  have hwrite : (Buffer.writeAt s.storage w.index w.value).result =
      .ok (Buffer.put s.storage w) := by
    rw [Buffer.writeAt_eq_outcome s.storage w, Put.outcome, if_pos hw.isTaken]
    rfl
  rw [Str.put, if_pos hw]
  simp only [writePlain, hb, buffer?, hinside, hwrite, if_true]
  exact p.binding?_bind name _

/-- The writes through the entry points for strings with a header make their puts. -/
theorem binding?_callCounted (hb : p.binding? name = some (.counted s))
    (hvouch : ∀ index, s.vouchesFor index = true) (thread : Nat) {c : PointerCall}
    (hputs : (Step.callThrough .counted (some name) c).puts ≠ []) :
    (p.callCounted thread (some name) c).after.binding? name =
      some (.counted ((Step.callThrough .counted (some name) c).puts.foldl Str.put s)) := by
  cases c with
  | setByte index value =>
    have hstep := step_setByte hb (hvouch index) thread value
    exact (congrArg (binding? · name) hstep).trans (p.binding?_bind_absorb thread name _ _)
  | fill index bytes =>
    have hstays : (PointerCall.fill index bytes).staysInside s.vouchesFor = true := by
      simp [PointerCall.staysInside, hvouch]
    rw [callCounted_of_counted thread hb hstays, PointerCall.runCounted, Recorded.bind_pure_eq,
      Counted.value_fillWith]
    exact p.binding?_bind_absorb thread name _ _
  | _ => exact absurd rfl hputs

/-- The writes through the entry points without regard to a header make their puts. -/
theorem binding?_callPlain (hb : p.binding? name = some (.counted s))
    (thread : Nat) {c : PointerCall}
    (hputs : (Step.callThrough .plain (some name) c).puts ≠ [])
    (haccepts : ∀ w ∈ (Step.callThrough .plain (some name) c).puts,
      s.Accepts w ∧ Buffer.vouchesFor s.storage w.index = true) :
    (p.callPlain thread (some name) c).after.binding? name =
      some (.counted ((Step.callThrough .plain (some name) c).puts.foldl Str.put s)) := by
  -- both kinds of writes leave the bytes after the puts
  have hwrite : ∀ {x : Recorded (Option Buffer)},
      x.value = some ((Step.callThrough .plain (some name) c).puts.foldl Buffer.put s.storage) →
      c.runPlain (some s.storage) = some (x >>= (fun pointer => pure (pointer, Reply.done))) →
      c.staysInside (Buffer.vouchesFor s.storage) = true →
      (p.callPlain thread (some name) c).after.binding? name =
        some (.counted ((Step.callThrough .plain (some name) c).puts.foldl Str.put s)) := by
    intro x hvalue hrun hstays
    rw [callPlain_of_buffer thread hb rfl hrun hvalue hstays,
      Str.foldl_put_of_accepts fun w hw => (haccepts w hw).1]
    exact p.binding?_bind_absorb thread name _ _
  cases c with
  | setByte index value =>
    exact hwrite (makesPuts_plain.single s.storage index value).1 rfl
      (haccepts _ List.mem_cons_self).2
  | fill index bytes =>
    refine hwrite (makesPuts_plain.fillWith s.storage index bytes).1 rfl ?_
    refine List.all_eq_true.mpr fun i hi => ?_
    exact (haccepts _ (Put.mem_row (List.mem_range.mp hi) index)).2
  | _ => exact absurd rfl hputs

/-- **A step that asks for puts below the capacity makes them**, in whichever way it writes. -/
theorem binding?_of_puts (hb : p.binding? name = some (.counted s))
    (ho : s.ownedCapacity = some capacity) (hsize : capacity < s.storage.size) (thread : Nat)
    {step : Step} (hsubject : step.subject = some name) (hputs : step.puts ≠ [])
    (hin : ∀ w ∈ step.puts, 0 ≤ w.index ∧ w.index < capacity) :
    (p.step thread step).2.binding? name = some (.counted (step.puts.foldl Str.put s)) := by
  have hvouch := Str.vouchesFor_of_lt ho hsize
  have haccepts : ∀ w ∈ step.puts,
      s.Accepts w ∧ Buffer.vouchesFor s.storage w.index = true := by
    intro w hw
    obtain ⟨hlow, hhigh⟩ := hin w hw
    exact ⟨(Str.accepts_iff ho w).mpr ⟨hlow, Or.inl hhigh⟩, decide_eq_true (by omega)⟩
  cases step with
  | call n c =>
    cases hsubject
    cases c with
    | setByteAt index value =>
      have hinside : (StrCall.setByteAt index value).staysInside s = true := hvouch _
      exact binding?_call_write hb hinside (haccepts _ List.mem_cons_self).1 rfl
    | writeAt index value =>
      have hinside : (StrCall.writeAt index value).staysInside s = true := hvouch _
      exact binding?_call_write hb hinside (haccepts _ List.mem_cons_self).1 rfl
    | _ => exact absurd rfl hputs
  | writePlain n index value =>
    cases hsubject
    obtain ⟨hw, hinside⟩ := haccepts _ List.mem_cons_self
    exact binding?_writePlain hb hinside hw
  | callThrough interface n c =>
    obtain rfl : n = some name := hsubject
    cases interface with
    | counted => exact binding?_callCounted hb hvouch thread hputs
    | plain => exact binding?_callPlain hb thread hputs haccepts
  | _ => exact absurd rfl hputs

end Program

/-- The puts that the steps of a run ask for in the string under a name. -/
def putsAsked (name : String) (steps : List (Nat × Step)) : List Put :=
  (steps.filter fun x => x.2.subject = some name).flatMap fun x => x.2.puts

namespace Program

variable {p : Program} {name : String} {s : Str} {capacity : Nat}

/-- A run that asks for puts below the capacity makes them. -/
theorem binding?_after_puts (hb : p.binding? name = some (.counted s))
    (ho : s.ownedCapacity = some capacity) (hsize : capacity < s.storage.size)
    {steps : List (Nat × Step)}
    (hputs : ∀ x ∈ steps, x.2.subject = some name → x.2.puts ≠ [])
    (hin : ∀ w ∈ putsAsked name steps, 0 ≤ w.index ∧ w.index < capacity) :
    (p.after steps).binding? name =
      some (.counted ((putsAsked name steps).foldl Str.put s)) := by
  induction steps using List.reverseRecOn with
  | nil => exact hb
  | append_singleton before x ih =>
    obtain ⟨hputs', hx⟩ := List.forall_mem_append.mp hputs
    have happend : putsAsked name (before ++ [x]) =
        putsAsked name before ++ putsAsked name [x] := by
      rw [putsAsked, List.filter_append, List.flatMap_append]
      rfl
    rw [happend] at hin
    obtain ⟨hin', hinx⟩ := List.forall_mem_append.mp hin
    have hbefore := ih hputs' hin'
    rw [after_concat, happend, List.foldl_append]
    by_cases hsubject : x.2.subject = some name
    · have hone : putsAsked name [x] = x.2.puts := by simp [putsAsked, hsubject]
      rw [hone] at hinx ⊢
      refine binding?_of_puts hbefore ?_ ?_ x.1 hsubject ?_ hinx
      · rw [Str.ownedCapacity_foldl_put, ho]
      · rw [Str.size_storage_foldl_put]
        exact hsize
      · exact hx x (List.mem_singleton.mpr rfl) hsubject
    · have hnone : putsAsked name [x] = [] := by simp [putsAsked, hsubject]
      rw [hnone]
      exact (congrArg Cell.binding (cell_effect_of_ne _ x.1 hsubject)).trans hbefore

end Program

/-! ## 2.  Writing a string of zeros -/

/-- Whether a run fills bytes into the string under a name: every step that is about the string
writes some of the bytes at their indices, and no index is left out.  The order does not matter, nor
how often a byte is written, nor in which way. -/
structure FillsIn (name : String) (bytes : Bytes) (steps : List (Nat × Step)) : Prop where
  puts_ne_nil : ∀ x ∈ steps, x.2.subject = some name → x.2.puts ≠ []
  value_eq : ∀ w ∈ putsAsked name steps, 0 ≤ w.index ∧ bytes[w.index.toNat]? = some w.value
  exists_put : ∀ i, i < bytes.length → ∃ w ∈ putsAsked name steps, w.index = (i : Int)

namespace Str

/-- A string of bytes shows its two words and its bytes in memory. -/
theorem memory_ofPayload {bytes : Bytes} (h : bytes.length ≤ 2147483647) :
    (ofPayload bytes.toArray).refcount = 0 ∧
      (ofPayload bytes.toArray).info.toNat = 2147483648 + bytes.length ∧
      (ofPayload bytes.toArray).storage.toList = bytes ++ [0] := by
  refine ⟨rfl, toNat_ownedInfo h, ?_⟩
  rw [ofPayload, Array.toList_push]

/-- A string of zeros is in the form of the library. -/
theorem intact_zeros {size : Nat} (h : size ≤ maxCapacity) :
    (ofPayload (List.replicate size 0).toArray).Intact size := by
  have hsize : (List.replicate size (0 : UInt8)).toArray.size = size := by simp
  have hintact := intact_ofPayload (hsize.le.trans h)
  rwa [hsize] at hintact

/-- **It does not matter how a string of zeros is filled.** -/
theorem foldl_put_zeros {bytes : Bytes} (hmax : bytes.length ≤ maxCapacity) {ws : List Put}
    (hvalue : ∀ w ∈ ws, 0 ≤ w.index ∧ bytes[w.index.toNat]? = some w.value)
    (hsome : ∀ i, i < bytes.length → ∃ w ∈ ws, w.index = (i : Int)) :
    ws.foldl put (ofPayload (List.replicate bytes.length 0).toArray) =
      ofPayload bytes.toArray := by
  have hz := intact_zeros hmax
  have hcount : (ofPayload (List.replicate bytes.length 0).toArray).refcount = 0 := rfl
  generalize ofPayload (List.replicate bytes.length 0).toArray = z at hz hcount ⊢
  have ho := hz.ownedCapacity_eq
  have hsize := hz.size_eq
  have hstorage : (ws.foldl put z).storage = bytes.toArray.push 0 := by
    refine Array.ext_getElem? fun i => ?_
    rcases Nat.lt_trichotomy i bytes.length with hi | rfl | hi
    · have hput : Put.lastAt ws i = some bytes[i] := by
        refine Put.lastAt_eq_some (hsome i hi) fun w hw hindex => ?_
        have hbyte := (hvalue w hw).2
        rw [hindex, Int.toNat_natCast, List.getElem?_eq_getElem hi] at hbyte
        exact (Option.some.inj hbyte).symm
      rw [getElem?_foldl_put_of_lt ho ws hi (by omega), hput, Array.getElem?_push_lt hi]
      rfl
    · rw [getElem?_foldl_put_last ho hz.last_eq]
      exact Array.getElem?_push_size.symm
    · rw [Array.getElem?_eq_none (by rw [size_storage_foldl_put]; omega),
        Array.getElem?_eq_none (by rw [Array.size_push, List.size_toArray]; omega)]
  calc ws.foldl put z
      = ⟨(ws.foldl put z).refcount, (ws.foldl put z).info, (ws.foldl put z).storage⟩ := rfl
    _ = ofPayload bytes.toArray := by
      rw [refcount_foldl_put, info_foldl_put, hstorage, hz.info_eq, hcount]
      rfl

end Str

/-! ## 3.  Copies -/

namespace Bytes

/-- A zero behind some bytes is not seen. -/
theorem upToZero_concat_zero (bytes : Bytes) : upToZero (bytes ++ [0]) = upToZero bytes := by
  induction bytes with
  | nil => rfl
  | cons byte rest ih =>
    by_cases h : byte = 0
    · simp [upToZero, h]
    · simp only [upToZero, List.cons_append] at ih ⊢
      rw [List.takeWhile_cons_of_pos (by simpa using h),
        List.takeWhile_cons_of_pos (by simpa using h), ih]

/-- Bytes are seen whole exactly if there is no zero among them. -/
theorem upToZero_eq_self_iff (bytes : Bytes) : upToZero bytes = bytes ↔ (0 : UInt8) ∉ bytes :=
  ⟨fun h => h ▸ zero_notMem_upToZero bytes, upToZero_of_notMem⟩

end Bytes

namespace Making

/-- Which ways of making a string copy which bytes of the host: a zero-terminated string at an
address, a variable, an argument, or an entry of an argument vector. -/
def Copies (p : Program) (bytes : Bytes) : Making → Prop
  | .library (.cString source) => source.upToZero = bytes
  | .library (.host source) | .entryPoint (.host source) =>
    source.map Bytes.upToZero = some bytes
  | .library (.variable name) => p.environment.lookup name.upToZero = some bytes
  | .entryPoint (.variable name) =>
    ∃ n, name = some n ∧ p.environment.lookup n.upToZero = some bytes
  | .library (.argument index) => p.arguments[index]? = some bytes
  | .library (.argumentOf argv index) | .entryPoint (.argumentOf argv index) =>
    0 ≤ index ∧ argv.Holds index ∧ ∃ entries source, argv = some entries ∧
      entries[index.toNat]? = some (some source) ∧ source.bytes.upToZero = bytes
  | _ => False

/-- What is copied is what is asked for. -/
theorem Copies.demand_eq {p : Program} {bytes : Bytes} {m : Making} (h : m.Copies p bytes) :
    m.demand p = .string bytes := by
  have hentry : ∀ {argv : ArgumentVector} {index : Int},
      (0 ≤ index ∧ argv.Holds index ∧ ∃ entries source, argv = some entries ∧
        entries[index.toNat]? = some (some source) ∧ source.bytes.upToZero = bytes) →
      Demand.ofEntry argv index = .string bytes := by
    rintro _ index ⟨hindex, hholds, entries, source, rfl, hsource, hbytes⟩
    obtain ⟨hlt, hle⟩ := hholds entries rfl
    rw [Demand.ofEntry, if_pos ⟨hindex, by omega⟩, hsource]
    exact congrArg Demand.string hbytes
  cases m with
  | library source =>
    cases source with
    | zeros => exact h.elim
    | bytes => exact h.elim
    | cString source => exact congrArg Demand.string h
    | argumentOf argv index => exact hentry h
    | _ => exact congrArg Demand.ofOption h
  | entryPoint source =>
    cases source with
    | zeros => exact h.elim
    | host source => exact congrArg Demand.ofOption h
    | «variable» name =>
      obtain ⟨n, rfl, hvalue⟩ := h
      exact congrArg Demand.ofOption hvalue
    | argumentOf argv index => exact hentry h

end Making

namespace Program

variable {p : Program} {name : String}

/-- Whether the header and the allocator have room for a string of some bytes. -/
def HasRoom (p : Program) (size : Nat) : Prop :=
  size ≤ 2147483647 ∧ size + 9 ≤ p.allocator.limit

/-- A demand that is met leaves the string that was asked for. -/
theorem binding?_of_making (hfree : p.isFree name = true) (thread : Nat) {m : Making}
    {bytes : Bytes} (hdemand : m.demand p = .string bytes) (hroom : p.HasRoom bytes.length) :
    (p.step thread (m.step name)).2.binding? name =
      some (.counted (Str.ofPayload bytes.toArray)) := by
  obtain ⟨notes, -, heffect⟩ := effect_of_making hfree thread m
  have hmade : (m.demand p).made? p.allocator = some (Str.ofPayload bytes.toArray) := by
    rw [hdemand, Demand.made?, Demand.ending,
      Ending.ofSize_eq_made_iff.mpr ⟨rfl, hroom.1, hroom.2⟩]
    rfl
  show (p.effect thread (m.step name)).after.binding? name = _
  rw [heffect, hmade]
  exact binding?_of_cell (p.cell_bindMade name _)

/-- A string of zeros that was made is the string of bytes that are filled into it. -/
theorem binding?_of_fillsIn (hfree : p.isFree name = true) (thread : Nat) {m : Making}
    {bytes : Bytes} (hdemand : m.demand p = .string (List.replicate bytes.length 0))
    (hroom : p.HasRoom bytes.length) {steps : List (Nat × Step)} (h : FillsIn name bytes steps) :
    ((p.step thread (m.step name)).2.after steps).binding? name =
      some (.counted (Str.ofPayload bytes.toArray)) := by
  have hz := Str.intact_zeros hroom.1
  have hmade := binding?_of_making hfree thread hdemand (by rwa [List.length_replicate])
  rw [binding?_after_puts hmade hz.ownedCapacity_eq (by rw [hz.size_eq]; omega) h.puts_ne_nil,
    Str.foldl_put_zeros hroom.1 h.value_eq h.exists_put]
  intro w hw
  obtain ⟨hnonneg, hbyte⟩ := h.value_eq w hw
  have hlt : w.index.toNat < bytes.length := (List.getElem?_eq_some_iff.mp hbyte).1
  omega

end Program

/-- What is seen of a string up to its first zero, in any process: its visible bytes and their
number, what it is equal to, and what a copy of it holds that is made from its address or from its
zero-terminated bytes. -/
structure Str.ShowsAs (t : Str) (bytes : Bytes) : Prop where
  visible_eq : t.visible = bytes
  length_eq : t.length = bytes.length
  equals_eq : ∀ {q : Program} {name : String}, q.binding? name = some (.counted t) →
    ∀ thread x, (q.step thread (.call name (.equals x))).1.result = .ok (.flag (x = bytes))
  copy_eq : ∀ {q : Program} {name : String}, q.isFree name = true → q.HasRoom bytes.length →
    ∀ c, c = t.terminated ∨ c = t.storage.toList → ∀ m : Making,
      m = .library (.cString c) ∨ m = .library (.host (some c)) ∨ m = .entryPoint (.host (some c)) →
      ∀ thread, (q.step thread (m.step name)).2.binding? name =
        some (.counted (Str.ofPayload bytes.toArray))

/-- A string of some bytes shows those in front of the first zero. -/
theorem Str.showsAs_ofPayload (bytes : Bytes) :
    (ofPayload bytes.toArray).ShowsAs bytes.upToZero := by
  have hstorage : (ofPayload bytes.toArray).storage.toList = bytes ++ [0] := by
    rw [ofPayload, Array.toList_push]
  have hvisible : (ofPayload bytes.toArray).visible = bytes.upToZero := by
    rw [visible, hstorage, Bytes.upToZero_concat_zero]
  refine ⟨hvisible, congrArg List.length hvisible, fun hb thread x => ?_,
    fun hfree hroom c hc m hm thread => ?_⟩
  · refine (congrArg Effect.result (Program.call_of_ok (c := .equals x) hb rfl rfl)).trans ?_
    rw [hvisible]
    exact congrArg (fun flag => Except.ok (Reply.flag flag)) (decide_eq_decide.mpr eq_comm)
  · have hread : c.upToZero = bytes.upToZero := by
      rcases hc with rfl | rfl
      · rw [terminated, hvisible, Bytes.upToZero_concat_zero, Bytes.upToZero_upToZero]
      · rw [hstorage, Bytes.upToZero_concat_zero]
    have hcopies : ∀ p, m.Copies p bytes.upToZero := by
      rcases hm with rfl | rfl | rfl
      · exact fun _ => hread
      · exact fun _ => congrArg some hread
      · exact fun _ => congrArg some hread
    exact Program.binding?_of_making hfree thread (hcopies _).demand_eq hroom

/-- Whether a string is a new copy of some bytes: nobody but its first owner holds it, and what it
holds, what is visible of it, its length and its capacity are exactly theirs. -/
structure Str.IsCopyOf (t : Str) (bytes : Bytes) : Prop where
  refcount_eq : t.refcount = 0
  storage_eq : t.storage.toList = bytes ++ [0]
  visible_eq : t.visible = bytes
  length_eq : t.length = bytes.length
  ownedCapacity_eq : t.ownedCapacity = some bytes.length

theorem Str.isCopyOf_ofPayload {bytes : Bytes} (hzero : (0 : UInt8) ∉ bytes)
    (hmax : bytes.length ≤ maxCapacity) : (ofPayload bytes.toArray).IsCopyOf bytes := by
  obtain ⟨hcount, -, hstorage⟩ := memory_ofPayload hmax
  have hshows := showsAs_ofPayload bytes
  rw [Bytes.upToZero_of_notMem hzero] at hshows
  exact ⟨hcount, hstorage, hshows.visible_eq, hshows.length_eq, capacityOf_ownedInfo hmax⟩

namespace Program

/-- Whether a way of making a string ends with a new copy of some bytes under the name. -/
structure MakesCopy (p : Program) (thread : Nat) (name : String) (m : Making) (bytes : Bytes) :
    Prop where
  endsAs : p.EndsAs thread name m (.made bytes.length)
  exists_copy : ∃ t, (p.step thread (m.step name)).2.binding? name = some (.counted t) ∧
    t.IsCopyOf bytes

/-- Bytes without a zero that are asked for are copied, if there is room. -/
theorem makesCopy_of_demand {p : Program} {name : String} (hfree : p.isFree name = true)
    (thread : Nat) {m : Making} {bytes : Bytes} (hdemand : m.demand p = .string bytes)
    (hzero : (0 : UInt8) ∉ bytes) (hroom : p.HasRoom bytes.length) :
    p.MakesCopy thread name m bytes where
  endsAs := by
    rw [endsAs_iff hfree, hdemand]
    exact Ending.ofSize_eq_made_iff.mpr ⟨rfl, hroom.1, hroom.2⟩
  exists_copy := ⟨_, binding?_of_making hfree thread hdemand hroom,
    Str.isCopyOf_ofPayload hzero hroom.1⟩

/-- A way of making a string makes a copy of no bytes but one. -/
theorem MakesCopy.eq {p : Program} {thread : Nat} {name : String} {m : Making}
    {bytes bytes' : Bytes} (h : p.MakesCopy thread name m bytes)
    (h' : p.MakesCopy thread name m bytes') : bytes = bytes' := by
  obtain ⟨t, hb, ht⟩ := h.exists_copy
  obtain ⟨t', hb', ht'⟩ := h'.exists_copy
  cases hb.symm.trans hb'
  exact ht.visible_eq.symm.trans ht'.visible_eq

variable {p : Program} {name : String}

/-- **All ways of building a string agree.**  Take some bytes, zeros among them or not, and a name
that is free.  In what follows, `whole` is the string of all bytes, and `seen` the string of those
in front of the first zero.

* If there is room for the bytes, then making a string of them gives `whole`: its count is 0, its
  info word is that of its capacity, and its memory holds the bytes with one zero behind them.
* Making a string of zeros of that size gives zeros only, one more than there are bytes; and after
  any steps that fill the bytes in, in any order and however often, it is `whole`, too.
* If there is room for the bytes in front of the first zero, then making a string of them gives
  `seen`, of that capacity, and so does everything that copies them from the host.
* Both strings show the bytes in front of the first zero: these are visible, and their number is the
  length; the strings are equal to them and to nothing else, so `whole` is equal to all bytes only
  if there is no zero among them; and a copy of either string is `seen`, so a copy of a copy is the
  same again. -/
theorem constructions_agree (hfree : p.isFree name = true) (thread : Nat) (b : Bytes) :
    let whole := Str.ofPayload b.toArray
    let seen := Str.ofPayload b.upToZero.toArray
    (p.HasRoom b.length →
      (p.step thread (.make name (.bytes b))).2.binding? name = some (.counted whole) ∧
      whole.refcount = 0 ∧ whole.info.toNat = 2147483648 + b.length ∧
      whole.storage.toList = b ++ [0] ∧
      ∀ m : Making, m = .library (.zeros b.length) ∨ m = .entryPoint (.zeros b.length) →
        (∃ zeros, (p.step thread (m.step name)).2.binding? name = some (.counted zeros) ∧
          zeros.storage.toList = List.replicate (b.length + 1) 0) ∧
        ∀ steps, FillsIn name b steps →
          ((p.step thread (m.step name)).2.after steps).binding? name = some (.counted whole)) ∧
    (p.HasRoom b.upToZero.length →
      (p.step thread (.make name (.bytes b.upToZero))).2.binding? name = some (.counted seen) ∧
      seen.ownedCapacity = some b.upToZero.length ∧
      ∀ m : Making, m.Copies p b.upToZero →
        (p.step thread (m.step name)).2.binding? name = some (.counted seen)) ∧
    whole.ShowsAs b.upToZero ∧ seen.ShowsAs b.upToZero ∧
    (b.upToZero = b ↔ (0 : UInt8) ∉ b) := by
  intro whole seen
  refine ⟨fun hroom => ?_, fun hroom => ⟨?_, capacityOf_ownedInfo hroom.1, fun m hm => ?_⟩,
    Str.showsAs_ofPayload b, ?_, Bytes.upToZero_eq_self_iff b⟩
  · obtain ⟨hcount, hinfo, hbytes⟩ := Str.memory_ofPayload hroom.1
    refine ⟨binding?_of_making (m := .library (.bytes b)) hfree thread rfl hroom, hcount, hinfo,
      hbytes, fun m hm => ?_⟩
    have hdemand : m.demand p = .string (List.replicate b.length 0) := by
      rcases hm with rfl | rfl
      · rfl
      · rw [Making.demand, if_neg (by omega), Int.toNat_natCast]
    refine ⟨⟨_, binding?_of_making hfree thread hdemand (by rwa [List.length_replicate]), ?_⟩,
      fun steps hsteps => binding?_of_fillsIn hfree thread hdemand hroom hsteps⟩
    rw [Str.ofPayload, Array.toList_push, ← List.replicate_succ']
  · exact binding?_of_making (m := .library (.bytes b.upToZero)) hfree thread rfl hroom
  · exact binding?_of_making hfree thread hm.demand_eq hroom
  · have hseen := Str.showsAs_ofPayload b.upToZero
    rwa [Bytes.upToZero_upToZero] at hseen

/-- Three bytes with a zero in the middle: made at once, and made of zeros by two threads that write
from the end, in rows, again, and without regard to the header.  Copied from the host, as a
variable, as an argument and from an address, only the first byte is left. -/
theorem three_bytes_in_six_ways :
    let b : Bytes := [104, 0, 105]
    let p : Program := start (.filledWith 7 64) ⟨.ofList [([78], [104])]⟩ [[104]] .silent true
    let whole : Str := ⟨0, ownedInfo 3, #[104, 0, 105, 0]⟩
    let seen : Str := ⟨0, ownedInfo 1, #[104, 0]⟩
    let steps : List (Nat × Step) :=
      [(1, .callThrough .plain (some "abc") (.setByte 2 105)),
        (0, .callThrough .counted (some "abc") (.fill 0 [104, 0])), (0, .look "other"),
        (0, .call "abc" (.setByteAt 1 0)), (1, .writePlain "abc" 2 105),
        (0, .call "abc" (.writeAt 0 104))]
    let made := (p.step 0 (.make "abc" (.bytes b))).2
    (made.binding? "abc" = some (.counted whole) ∧ FillsIn "abc" b steps ∧
      ((p.step 0 (.makeThrough "abc" (.zeros 3))).2.after steps).binding? "abc" =
        some (.counted whole)) ∧
    ((p.step 0 (.make "abc" (.variable [78]))).2.binding? "abc" = some (.counted seen) ∧
      (p.step 0 (.make "abc" (.argument 0))).2.binding? "abc" = some (.counted seen) ∧
      (p.step 0 (.makeThrough "abc" (.host (some b)))).2.binding? "abc" = some (.counted seen)) ∧
    ((made.step 1 (.call "abc" (.equals b))).1.result = .ok (.flag false) ∧
      (made.step 1 (.make "copy" (.cString whole.terminated))).2.binding? "copy" =
        some (.counted seen)) := by
  intro b p whole seen steps made
  have hfree : p.isFree "abc" = true := rfl
  have hfills : FillsIn "abc" b steps := ⟨by decide, by decide, by decide⟩
  obtain ⟨hwhole, hseen, hshows, -, -⟩ := constructions_agree hfree 0 b
  obtain ⟨hmade, -, -, -, hzeros⟩ := hwhole ⟨by decide, by decide⟩
  obtain ⟨-, -, hcopies⟩ := hseen ⟨by decide, by decide⟩
  refine ⟨⟨hmade, hfills, (hzeros (.entryPoint (.zeros 3)) (Or.inr rfl)).2 steps hfills⟩,
    ⟨hcopies (.library (.variable [78])) (by show _ = _; decide),
      hcopies (.library (.argument 0)) rfl, hcopies (.entryPoint (.host (some b))) rfl⟩,
    hshows.equals_eq hmade 1 b, ?_⟩
  exact hshows.copy_eq (by decide) ⟨by decide, by decide⟩ _ (Or.inl rfl) _ (Or.inl rfl) 1

end Program

end CountedStrings
