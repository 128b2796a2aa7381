import CountedStrings.Proofs.Turns

/-!
# What steps report about blocks

A block is obtained when a string is made, and handed back when its last owner gives it up.  The log
says so, and this file proves that it says so exactly then.

## 1.  Steps that do not speak of owners

Only steps that make a string, and calls on a string with a header, speak of blocks and owners
(`Step.counts`, `isOwnership_of_counts`).

## 2.  Blocks that are obtained

Where the log tells of a new string of some capacity, the allocator has just handed out the block
for that capacity (`IsBacked`, `build_isBacked`, `reserve_of_allocated`).

## 3.  Blocks that are handed back

`Program.handedBack` is the block that a step hands back, if it does.  `freed_iff_handedBack`: the
log tells of the end of a string of some capacity exactly if the block for that capacity is handed
back in that step.
-/

namespace CountedStrings

/-! ## 1.  Steps that do not speak of owners -/

/-- Whether a step makes a string, or calls something on a string with a header. -/
def Step.counts : Step → Bool
  | .make _ _ | .makeThrough _ _ | .call _ _ | .callThrough .counted _ _ => true
  | _ => false

/-- Setting logging up reports nothing, or what became of the filter and that logging is set up. -/
theorem Logging.events_setUp (l : Logging) (package : LogPackage) (c : Config) :
    (l.setUp package c).2.2 = [] ∨
      ∃ installed, (l.setUp package c).2.2 =
        (filterOf package c).2 ++ [.loggingInitialized installed c.platform] := by
  rw [setUp]
  split
  · exact Or.inl rfl
  · exact Or.inr ⟨_, rfl⟩

/-- Setting logging up does not speak of owners. -/
theorem Logging.isOwnership_of_mem_setUp {l : Logging} {package : LogPackage} {c : Config}
    {e : Event} (h : e ∈ (l.setUp package c).2.2) : e.isOwnership = false := by
  rcases l.events_setUp package c with hx | ⟨installed, hx⟩
  · rw [hx] at h
    cases h
  · rw [hx, List.mem_append, List.mem_singleton] at h
    rcases h with h | rfl
    · rw [filterOf] at h
      split at h
      · cases h
      · rw [List.mem_singleton.mp h]
        rfl
    · rfl

/-- Looking into an argument vector does not speak of owners. -/
theorem ArgumentVector.isOwnership_of_mem_get {argv : ArgumentVector} {index : Int} {e : Event}
    (h : e ∈ (argv.get index).events) : e.isOwnership = false := by
  cases argv with
  | none => cases h
  | some entries =>
    rw [get, checkedIndex_then] at h
    split at h
    · cases h
    · rw [List.mem_singleton.mp h]
      rfl

namespace Program

theorem isOwnership_of_mem_callPlain {p : Program} {thread : Nat} {name : Option String}
    {c : PointerCall} {e : Event} (h : e ∈ (p.callPlain thread name c).events) :
    e.isOwnership = false := by
  rcases p.callPlain_cases thread name c with
    ⟨reply, hx, -⟩ | ⟨n, b, buffer, x, left, -, -, -, hrun, -, -, hx⟩
  · rw [hx] at h
    cases h
  · rw [hx] at h
    exact PointerCall.isOwnership_of_mem_runPlain hrun e h

/-- **Steps that count nothing do not speak of owners.** -/
theorem isOwnership_of_counts {p : Program} {thread : Nat} {s : Step} (hs : s.counts = false)
    {e : Event} (h : e ∈ (p.effect thread s).events) : e.isOwnership = false := by
  cases s with
  | place name b =>
    rw [effect] at h
    split at h <;> cases h
  | poke name refcount =>
    rw [effect] at h
    split at h <;> cases h
  | readPlain name index =>
    rcases p.readPlain_cases name index with ⟨reply, hx⟩ | ⟨buffer, hx⟩
    · rw [effect, hx] at h
      cases h
    · rw [effect, hx] at h
      exact Buffer.isOwnership_of_mem_readAt h
  | writePlain name index value =>
    rcases p.writePlain_cases name index value with
      ⟨reply, hx⟩ | ⟨b, buffer, -, -, ⟨written, -, hx⟩ | ⟨error, -, hx⟩⟩
    · rw [effect, hx] at h
      cases h
    · rw [effect, hx] at h
      exact Buffer.isOwnership_of_mem_writeAt h
    · rw [effect, hx] at h
      exact Buffer.isOwnership_of_mem_writeAt h
  | callThrough interface name c =>
    cases interface with
    | counted => cases hs
    | plain => exact isOwnership_of_mem_callPlain h
  | entry argv index => exact ArgumentVector.isOwnership_of_mem_get h
  | entryThrough argv index =>
    rw [effect, Plain.argument, Outcome.events_orRecord] at h
    exact ArgumentVector.isOwnership_of_mem_get h
  | orRecord result neutral => cases result <;> cases h
  | setUpLogging filter colours => exact Logging.isOwnership_of_mem_setUp h
  | setUpProgram => exact Logging.isOwnership_of_mem_setUp h
  | remove path status =>
    rw [List.mem_singleton.mp h]
    rfl
  | removeThrough path status =>
    cases path with
    | none => cases h
    | some path =>
      rw [List.mem_singleton.mp h]
      rfl
  | runCommand command status =>
    cases command <;>
    · rw [List.mem_singleton.mp h]
      rfl
  | make | makeThrough | call => cases hs
  | _ => cases h

end Program

/-! ## 2.  Blocks that are obtained -/

/-- Whether a new string is reported only where the allocator has handed out its block. -/
def Outcome.IsBacked (allocator : Allocator) (x : Outcome (Option Str)) : Prop :=
  ∀ capacity, .allocated capacity ∈ x.events →
    reserve allocator capacity = ⟨.ok ⟨capacity + 9, 8⟩, [.allocated capacity]⟩

namespace Outcome

variable {allocator : Allocator} {x : Outcome (Option Str)}

/-- Where nothing speaks of owners, no new string is reported. -/
theorem isBacked_of_isOwnership (h : ∀ e ∈ x.events, e.isOwnership = false) :
    x.IsBacked allocator := by
  intro capacity hmem
  have hfalse : (Event.allocated capacity).isOwnership = false := h _ hmem
  cases hfalse

/-- A report of something else in front changes nothing. -/
theorem IsBacked.after_report (h : x.IsBacked allocator) {event : Event}
    (he : event.isOwnership = false) : (report event >>= fun _ => x).IsBacked allocator := by
  intro capacity hmem
  rcases List.mem_cons.mp hmem with heq | hmem
  · rw [← heq] at he
    cases he
  · exact h capacity hmem

/-- What is made of a block that was obtained is backed by it. -/
theorem isBacked_of_reserve (allocator : Allocator) (capacity : Nat) (make : Layout → Str) :
    (some <$> (reserve allocator capacity >>= fun block => pure (make block))).IsBacked
      allocator := by
  intro n hmem
  rw [events_map, bind_pure_eq] at hmem
  have hreserve := reserve_eq allocator capacity
  split at hreserve
  · rw [hreserve] at hmem
    cases List.mem_singleton.mp hmem
  · split at hreserve
    · rw [hreserve] at hmem
      cases List.mem_singleton.mp hmem
    · rw [hreserve] at hmem
      cases List.mem_singleton.mp hmem
      exact hreserve

end Outcome

namespace Str

theorem isBacked_ofHost? (allocator : Allocator) (bytes : Option Bytes) :
    (ofHost? allocator bytes).IsBacked allocator := by
  cases bytes with
  | none => exact Outcome.isBacked_of_isOwnership (by simp [ofHost?])
  | some bytes => exact Outcome.isBacked_of_reserve allocator _ _

end Str

theorem Environment.isBacked_copy (e : Environment) (allocator : Allocator) (name : Bytes) :
    (e.copy allocator name).IsBacked allocator := by
  refine Outcome.IsBacked.after_report ?_ rfl
  cases e.lookup name.upToZero with
  | none => exact Outcome.isBacked_of_isOwnership (by simp)
  | some value => exact Outcome.isBacked_of_reserve allocator _ _

theorem ArgumentVector.isBacked_copy (allocator : Allocator) (argv : ArgumentVector)
    (index : Int) : (argv.copy allocator index).IsBacked allocator := by
  have hentry : ∀ entry : Option HostString,
      (Outcome.report (.argumentRead index entry.isSome) >>= fun _ =>
        Str.ofHost? allocator (entry.map HostString.bytes)).IsBacked allocator :=
    fun entry => (Str.isBacked_ofHost? allocator _).after_report rfl
  cases argv with
  | none => exact hentry none
  | some entries =>
    rw [copy, get, Outcome.bind_assoc]
    by_cases h : 0 ≤ index ∧ index < addressBound
    · rw [checkedIndex_of_mem h]
      exact hentry _
    · rw [checkedIndex_of_notMem h]
      refine Outcome.isBacked_of_isOwnership fun e he => ?_
      rw [List.mem_singleton.mp he]
      rfl

theorem isBacked_copyArgument (allocator : Allocator) (arguments : List Bytes) (index : Nat) :
    (copyArgument allocator arguments index).IsBacked allocator := by
  rw [copyArgument]
  cases arguments[index]? with
  | none => exact Outcome.isBacked_of_isOwnership (by simp)
  | some argument => exact Outcome.isBacked_of_reserve allocator _ _

theorem Counted.isBacked_allocateSigned (allocator : Allocator) (size : Int) :
    (some <$> allocateSigned allocator size).IsBacked allocator := by
  rw [allocateSigned]
  by_cases h : size < 0
  · rw [if_pos h]
    refine Outcome.isBacked_of_isOwnership fun e he => ?_
    rw [List.mem_singleton.mp he]
    rfl
  · rw [if_neg h]
    exact Outcome.isBacked_of_reserve allocator _ _

namespace Program

/-- Every source of the library is backed by blocks. -/
theorem build_isBacked (p : Program) (source : Source) :
    (p.build source).IsBacked p.allocator := by
  cases source with
  | zeros capacity => exact Outcome.isBacked_of_reserve p.allocator _ _
  | bytes bytes => exact Outcome.isBacked_of_reserve p.allocator _ _
  | cString bytes => exact Outcome.isBacked_of_reserve p.allocator _ _
  | host bytes => exact Str.isBacked_ofHost? p.allocator bytes
  | «variable» name => exact p.environment.isBacked_copy p.allocator name
  | argument index => exact isBacked_copyArgument p.allocator p.arguments index
  | argumentOf argv index => exact ArgumentVector.isBacked_copy p.allocator argv index

/-- Every source of the entry points is backed by blocks. -/
theorem outcomeBehind_isBacked (p : Program) (source : CountedSource) :
    (p.outcomeBehind source).IsBacked p.allocator := by
  cases source with
  | host bytes => exact Str.isBacked_ofHost? p.allocator bytes
  | zeros size => exact Counted.isBacked_allocateSigned p.allocator size
  | «variable» name =>
    cases name with
    | none => exact Outcome.isBacked_of_isOwnership (by simp [outcomeBehind])
    | some name => exact p.environment.isBacked_copy p.allocator name
  | argumentOf argv index => exact ArgumentVector.isBacked_copy p.allocator argv index

end Program

/-! ## 3.  Blocks that are handed back -/

/-- The block that was handed back, if that was the last owner. -/
def Release.block? : Release → Option Layout
  | .kept _ => none
  | .freed block => some block

/-- The block that a call of the library hands back, if it does. -/
def StrCall.handsBack (s : Str) : StrCall → Option Layout
  | .release => s.release.result.toOption.bind Release.block?
  | .share threads retains releases =>
    (Str.shareBetween threads retains releases s).result.toOption.bind Release.block?
  | _ => none

/-- The block that a call through the entry points hands back, if it does. -/
def PointerCall.handsBack (s : Str) : PointerCall → Option Layout
  | .release => (Counted.release (some s)).value.bind Release.block?
  | _ => none

/-- The block that a step hands back, if it does. -/
def Program.handedBack (p : Program) : Step → Option Layout
  | .call name c =>
    match p.binding? name with
    | some (.counted s) => c.handsBack s
    | _ => none
  | .callThrough .counted (some name) c =>
    match p.binding? name with
    | some (.counted s) => c.handsBack s
    | _ => none
  | _ => none

/-- A string that is left was not freed, and one that is gone was. -/
theorem Str.Leaves.freed_iff {s : Str} {es : List Event} {left : Option Str}
    (h : Leaves s es left) : (∃ capacity, .freed capacity ∈ es) ↔ left = none := by
  cases h with
  | stays hlife =>
    refine ⟨fun ⟨capacity, hmem⟩ => ?_, fun hleft => nomatch hleft⟩
    cases hlife.isBlock_eq _ hmem
  | @ends t es capacity hlife ho hr =>
    exact ⟨fun _ => rfl, fun _ => ⟨capacity, List.mem_append_right es List.mem_cons_self⟩⟩

/-- What is done with a string does not make a new one. -/
theorem Str.Leaves.allocated_notMem {s : Str} {es : List Event} {left : Option Str}
    (h : Leaves s es left) (capacity : Nat) : .allocated capacity ∉ es := by
  intro hmem
  cases h with
  | stays hlife => cases hlife.isBlock_eq _ hmem
  | ends hlife ho hr =>
    rcases List.mem_append.mp hmem with hmem | hmem
    · cases hlife.isBlock_eq _ hmem
    · cases List.mem_singleton.mp hmem

namespace Outcome

/-- Whether the report of a freed string and the block that is handed back go together. -/
def HandsBack (x : Outcome Release) : Prop :=
  ∃ left, x.result = .ok left ∧
    ∀ capacity, .freed capacity ∈ x.events ↔ left.block? = some ⟨capacity + 9, 8⟩

theorem handsBack_pure (left : Str) : (pure (.kept left) : Outcome Release).HandsBack :=
  ⟨.kept left, rfl, fun capacity => by simp [Release.block?]⟩

/-- What frees nothing may go before. -/
theorem HandsBack.after {α : Type} {x : Outcome α} {a : α} (hx : x.result = .ok a)
    (hfreed : ∀ capacity, .freed capacity ∉ x.events) {f : α → Outcome Release}
    (hf : (f a).HandsBack) : (x >>= f).HandsBack := by
  obtain ⟨left, hleft, hiff⟩ := hf
  rw [bind_ok hx]
  refine ⟨left, hleft, fun capacity => ?_⟩
  rw [List.mem_append, ← hiff capacity]
  exact ⟨fun hmem => hmem.resolve_left (hfreed capacity), Or.inr⟩

/-- As long as the string is there, the next thing may be done with it. -/
theorem HandsBack.andThen {x : Outcome Release} (hx : x.HandsBack) {f : Str → Outcome Release}
    (hf : ∀ s, (f s).HandsBack) :
    (x >>= fun
      | .kept s => f s
      | .freed block => pure (.freed block)).HandsBack := by
  obtain ⟨left, hleft, hiff⟩ := hx
  cases left with
  | kept s =>
    refine HandsBack.after hleft (fun capacity hmem => ?_) (hf s)
    cases (hiff capacity).mp hmem
  | freed block =>
    rw [bind_ok hleft]
    refine ⟨.freed block, rfl, fun capacity => ?_⟩
    rw [← hiff capacity]
    simp

end Outcome

namespace Str

theorem release_handsBack (s : Str) : s.release.HandsBack := by
  cases ho : s.ownedCapacity with
  | none =>
    rw [release_of_foreign ho]
    exact Outcome.handsBack_pure s
  | some capacity =>
    by_cases hr : 0 < s.refcount
    · rw [release_of_pos ho hr]
      exact ⟨_, rfl, fun n => by simp [Release.block?]⟩
    · obtain ⟨block, hblock, hx⟩ := release_of_not_pos ho hr
      rw [layoutFor_of_le (capacityOf_le ho)] at hblock
      rw [hx, ← Option.some.inj hblock]
      exact ⟨_, rfl, fun n => by simp [Release.block?, headerSize, headerAlignment, eq_comm]⟩

theorem releaseTimes_handsBack (n : Nat) (s : Str) : (releaseTimes n s).HandsBack := by
  induction n generalizing s with
  | zero => exact Outcome.handsBack_pure s
  | succ n ih => exact s.release_handsBack.andThen ih

theorem shareBetween_handsBack (threads retains releases : Nat) (s : Str) :
    (shareBetween threads retains releases s).HandsBack := by
  induction threads generalizing s with
  | zero => exact Outcome.handsBack_pure s
  | succ threads ih =>
    obtain ⟨t, ht, hlife⟩ := retainTimes_life retains s
    exact Outcome.HandsBack.after ht (fun capacity hmem => nomatch hlife.isBlock_eq _ hmem)
      ((releaseTimes_handsBack releases t).andThen ih)

end Str

/-- A call whose answer goes with the string leaves the string. -/
theorem Outcome.left_of_bind {α : Type} (x : Outcome α) {f : α → Option Str × Reply}
    (hf : ∀ a, (f a).1 ≠ none) (y : Option Str × Reply)
    (hy : (x >>= fun a => pure (f a)).result = .ok y) : y.1 ≠ none := by
  rw [bind_pure_eq] at hy
  cases hx : x.result with
  | ok a =>
    rw [hx] at hy
    rw [← Except.ok.inj hy]
    exact hf a
  | error error =>
    rw [hx] at hy
    cases hy

/-- A call of the library that leaves the string frees nothing. -/
theorem StrCall.freed_notMem {s : Str} {c : StrCall}
    (h : ∀ x, (c.run s).result = .ok x → x.1 ≠ none) (capacity : Nat) :
    .freed capacity ∉ (c.run s).events := by
  intro hmem
  have hleaves := c.run_leaves s
  cases hx : (c.run s).result with
  | ok x =>
    rw [hx] at hleaves
    exact h x hx (hleaves.freed_iff.mp ⟨capacity, hmem⟩)
  | error error =>
    rw [hx] at hleaves
    cases hleaves.isBlock_eq _ hmem

/-- A call of the library does not make a new string. -/
theorem StrCall.allocated_notMem (s : Str) (c : StrCall) (capacity : Nat) :
    .allocated capacity ∉ (c.run s).events := by
  intro hmem
  have hleaves := c.run_leaves s
  cases hx : (c.run s).result with
  | ok x =>
    rw [hx] at hleaves
    exact hleaves.allocated_notMem capacity hmem
  | error error =>
    rw [hx] at hleaves
    cases hleaves.isBlock_eq _ hmem

/-- **A call of the library reports the end of a string exactly if it hands its block back.** -/
theorem StrCall.freed_iff_handsBack (s : Str) (c : StrCall) (capacity : Nat) :
    .freed capacity ∈ (c.run s).events ↔ c.handsBack s = some ⟨capacity + 9, 8⟩ := by
  have hquiet : (∀ x, (c.run s).result = .ok x → x.1 ≠ none) → c.handsBack s = none →
      (.freed capacity ∈ (c.run s).events ↔ c.handsBack s = some ⟨capacity + 9, 8⟩) := by
    intro hleft hnone
    rw [hnone]
    exact ⟨fun hmem => absurd hmem (freed_notMem hleft capacity), fun h => nomatch h⟩
  cases c with
  | release =>
    obtain ⟨left, hleft, hiff⟩ := s.release_handsBack
    rw [run, Outcome.bind_pure_eq, handsBack, hleft]
    exact hiff capacity
  | share threads retains releases =>
    obtain ⟨left, hleft, hiff⟩ := Str.shareBetween_handsBack threads retains releases s
    rw [run, Outcome.bind_pure_eq, handsBack, hleft]
    exact hiff capacity
  | retain | byteAt | setByteAt | readAt | writeAt =>
    exact hquiet (Outcome.left_of_bind _ fun _ => Option.some_ne_none _) rfl
  | describe | equals | capacity | refcount =>
    refine hquiet (fun x hx => ?_) rfl
    rw [← Except.ok.inj hx]
    exact Option.some_ne_none s

/-- **A call through the entry points reports the end of a string exactly if it hands its block
back.** -/
theorem PointerCall.freed_iff_handsBack (s : Str) (c : PointerCall) (capacity : Nat) :
    .freed capacity ∈ (c.runCounted (some s)).events ↔
      c.handsBack s = some ⟨capacity + 9, 8⟩ := by
  have hquiet : (c.runCounted (some s)).value.1 ≠ none → c.handsBack s = none →
      (.freed capacity ∈ (c.runCounted (some s)).events ↔
        c.handsBack s = some ⟨capacity + 9, 8⟩) := by
    intro hleft hnone
    rw [hnone]
    exact ⟨fun hmem => absurd ((c.runCounted_leaves s).freed_iff.mp ⟨capacity, hmem⟩) hleft,
      fun h => nomatch h⟩
  cases c with
  | release =>
    obtain ⟨left, hleft, hiff⟩ := s.release_handsBack
    have hx : Counted.release (some s) = ⟨some left, none, s.release.events⟩ := by
      rw [Counted.release, Outcome.map_eq, hleft]
      rfl
    rw [runCounted, Recorded.events_bind, handsBack, hx]
    show .freed capacity ∈ s.release.events ++ [] ↔ _
    rw [List.append_nil]
    exact hiff capacity
  | setByte index value =>
    obtain ⟨t, ht, -⟩ := Counted.setByte_life s index value
    refine hquiet ?_ rfl
    rw [runCounted, Recorded.bind_pure_eq, ht]
    exact Option.some_ne_none t
  | fill index bytes =>
    obtain ⟨t, ht, -⟩ := Counted.fillWith_life s index bytes
    refine hquiet ?_ rfl
    rw [runCounted, Recorded.bind_pure_eq, ht]
    exact Option.some_ne_none t
  | retain =>
    obtain ⟨t, ht, -⟩ := s.retain_life
    refine hquiet ?_ rfl
    rw [runCounted, Recorded.bind_pure_eq, Counted.retain, Outcome.map_eq, ht]
    exact Option.some_ne_none t
  | getByte | scan | refcount => exact hquiet (Option.some_ne_none s) rfl

namespace Program

/-- Making a string reports nothing but what its source reports. -/
theorem events_make_subset (p : Program) (name : String) (source : Source) :
    (p.make name source).events ⊆ (p.build source).events := by
  rcases p.make_cases name source with ⟨reply, hx⟩ | ⟨-, ⟨str, -, hx⟩ | ⟨error, -, hx⟩⟩
  · rw [hx]
    exact List.nil_subset _
  · rw [hx]
    exact List.Subset.refl _
  · rw [hx]
    exact List.Subset.refl _

theorem events_makeThrough_subset (p : Program) (thread : Nat) (name : String)
    (source : CountedSource) :
    (p.makeThrough thread name source).events ⊆ (p.outcomeBehind source).events := by
  rcases p.makeThrough_cases thread name source with
    ⟨reply, hx, -⟩ | ⟨-, ⟨str, -, hx⟩ | ⟨error, -, hx⟩⟩
  · rw [hx]
    exact List.nil_subset _
  · rw [hx]
    exact List.Subset.refl _
  · rw [hx]
    exact List.Subset.refl _

/-- **Where a new string is reported, its block was obtained.** -/
theorem reserve_of_allocated {p : Program} {thread : Nat} {s : Step} {capacity : Nat}
    (h : .allocated capacity ∈ (p.effect thread s).events) :
    reserve p.allocator capacity = ⟨.ok ⟨capacity + 9, 8⟩, [.allocated capacity]⟩ := by
  cases hs : s.counts with
  | false => cases isOwnership_of_counts hs h
  | true =>
    cases s with
    | make name source =>
      exact p.build_isBacked source capacity (p.events_make_subset name source h)
    | makeThrough name source =>
      exact p.outcomeBehind_isBacked source capacity
        (p.events_makeThrough_subset thread name source h)
    | call name c =>
      rcases p.call_cases name c with ⟨reply, hx⟩ | ⟨str, -, ⟨left, reply, -, hx⟩ | ⟨error, -, hx⟩⟩
      · rw [effect, hx] at h
        cases h
      · rw [effect, hx] at h
        exact absurd h (c.allocated_notMem str capacity)
      · rw [effect, hx] at h
        exact absurd h (c.allocated_notMem str capacity)
    | callThrough interface name c =>
      cases interface with
      | plain => cases hs
      | counted =>
        rcases p.callCounted_cases thread name c with ⟨reply, hx, -⟩ | ⟨n, str, -, -, -, hx⟩
        · rw [effect, hx] at h
          cases h
        · rw [effect, hx] at h
          exact absurd h ((c.runCounted_leaves str).allocated_notMem capacity)
    | _ => cases hs

theorem handedBack_of_counts {p : Program} {s : Step} (hs : s.counts = false) :
    p.handedBack s = none := by
  cases s with
  | callThrough interface name c =>
    cases interface with
    | counted => cases hs
    | plain => rfl
  | call => cases hs
  | _ => rfl

/-- Making a string frees none. -/
theorem freed_notMem_of_birth {x : Outcome (Option Str)} (h : Birth x) (capacity : Nat) :
    .freed capacity ∉ x.events := by
  intro hmem
  cases h with
  | absent hn => cases Event.isOwnership_of_isNote (hn _ hmem)
  | fresh hn hc =>
    rcases List.mem_append.mp hmem with hmem | hmem
    · cases Event.isOwnership_of_isNote (hn _ hmem)
    · cases List.mem_singleton.mp hmem
  | failed hn ha =>
    rcases List.mem_append.mp hmem with hmem | hmem
    · cases Event.isOwnership_of_isNote (hn _ hmem)
    · rw [← List.mem_singleton.mp hmem] at ha
      cases ha

theorem freed_iff_of_call (p : Program) (name : String) (c : StrCall) (capacity : Nat) :
    .freed capacity ∈ (p.call name c).events ↔
      p.handedBack (.call name c) = some ⟨capacity + 9, 8⟩ := by
  cases hb : p.binding? name with
  | none => simp [call, handedBack, hb, Effect.refuse, Effect.tell]
  | some b =>
    cases b with
    | null => simp [call, handedBack, hb, Effect.refuse, Effect.tell]
    | plain buffer => simp [call, handedBack, hb, Effect.refuse, Effect.tell]
    | counted str =>
      have hback : p.handedBack (.call name c) = c.handsBack str := by rw [handedBack, hb]
      rw [hback]
      by_cases hi : c.staysInside str = true
      · rw [events_call hb hi]
        exact c.freed_iff_handsBack str capacity
      · -- only an access to a byte can leave the string
        have hnone : c.handsBack str = none := by
          cases c with
          | release | share => exact absurd rfl hi
          | _ => rfl
        simp [call, hb, hi, hnone, Effect.refuseOutside, Effect.tell]

theorem freed_iff_of_callCounted (p : Program) (thread : Nat) (name : Option String)
    (c : PointerCall) (capacity : Nat) :
    .freed capacity ∈ (p.callCounted thread name c).events ↔
      p.handedBack (.callThrough .counted name c) = some ⟨capacity + 9, 8⟩ := by
  rcases p.callCounted_cases thread name c with ⟨reply, hx, hrefused⟩ | ⟨n, s, rfl, hs, -, hx⟩
  · have hnone : p.handedBack (.callThrough .counted name c) = none := by
      cases name with
      | none => rfl
      | some n =>
        rw [handedBack]
        split
        · next s hs =>
          have hi := hrefused n s rfl hs
          cases c with
          | release => cases hi
          | _ => rfl
        · rfl
    rw [hx, hnone]
    exact ⟨fun hmem => (nomatch hmem), fun h => nomatch h⟩
  · have hback : p.handedBack (.callThrough .counted (some n) c) = c.handsBack s := by
      rw [handedBack, hs]
    rw [hx, hback]
    exact c.freed_iff_handsBack s capacity

/-- **A step reports the end of a string exactly if it hands its block back.** -/
theorem freed_iff_handedBack (p : Program) (thread : Nat) (s : Step) (capacity : Nat) :
    .freed capacity ∈ (p.effect thread s).events ↔
      p.handedBack s = some ⟨capacity + 9, 8⟩ := by
  cases hs : s.counts with
  | false =>
    rw [handedBack_of_counts hs]
    exact ⟨fun hmem => (nomatch isOwnership_of_counts hs hmem), fun h => nomatch h⟩
  | true =>
    cases s with
    | make name source =>
      refine ⟨fun hmem => ?_, fun h => nomatch h⟩
      exact absurd (p.events_make_subset name source hmem)
        (freed_notMem_of_birth (p.build_birth source) capacity)
    | makeThrough name source =>
      refine ⟨fun hmem => ?_, fun h => nomatch h⟩
      exact absurd (p.events_makeThrough_subset thread name source hmem)
        (freed_notMem_of_birth (p.outcomeBehind_birth source) capacity)
    | call name c => exact p.freed_iff_of_call name c capacity
    | callThrough interface name c =>
      cases interface with
      | plain => cases hs
      | counted => exact p.freed_iff_of_callCounted thread name c capacity
    | _ => cases hs

end Program

end CountedStrings
