import CountedStrings.Proofs.Atomicity
import CountedStrings.Proofs.Constructions

/-!
# All ways to an argument agree

There are five ways to an argument.  Two of them hand on the entry of an argument vector as it is,
one of the library and one of the entry points; two copy it into a new string; and one copies an
argument that the process was started with, without a vector.  They are written down separately, and
check different things by different means: whether there is a vector, the sign of the index, whether
there is an entry, the room for a copy, and the number of arguments.

## 1.  Entries

`ArgumentVector.Lists` says that a vector holds an entry at an index.  `get_of_lists`, `get_of_neg`
and `ofEntry_of_lists` say what becomes of an entry that is asked for.  An entry is an address with
the bytes behind it, so two entries of the same bytes are not the same entry, and neither is an
entry and a copy of it.

## 2.  Ways

`Program.HandsOn` is what is seen of an entry that is handed on: it is told, and nothing else
happens.  `Program.CopiesEntry` lists the ways that copy the entry at an index, among them the way
without a vector, if the vector begins with the arguments of the process; all of them ask for the
same thing (`CopiesEntry.demand_eq`).

## 3.  Agreement

`binding?_of_demand_eq`: ways that ask for the same thing leave the same memory.
`argument_paths_agree` is the law.
-/

namespace CountedStrings

/-! ## 1.  Entries -/

namespace ArgumentVector

/-- Whether an argument vector has an entry at an index.  No memory has room for more entries than
there are indices, and an entry is a null pointer or a string of bytes without a zero. -/
structure Lists (argv : ArgumentVector) (index : Int) (entries : List (Option HostString))
    (entry : Option HostString) : Prop where
  vector_eq : argv = some entries
  index_nonneg : 0 ≤ index
  entry_eq : entries[index.toNat]? = some entry
  length_le : entries.length ≤ addressBound
  zero_notMem : ∀ source, some source ∈ entries → (0 : UInt8) ∉ source.bytes

variable {argv : ArgumentVector} {index : Int} {entries : List (Option HostString)}
  {entry : Option HostString}

theorem Lists.mem_range (h : argv.Lists index entries entry) :
    0 ≤ index ∧ index < addressBound := by
  obtain ⟨hlt, -⟩ := List.getElem?_eq_some_iff.mp h.entry_eq
  have hle := h.length_le
  have hnonneg := h.index_nonneg
  omega

/-- The bytes of an entry have no zero among them, so they are read whole. -/
theorem Lists.upToZero_eq (h : argv.Lists index entries entry) :
    (entry.map HostString.bytes).map Bytes.upToZero = entry.map HostString.bytes := by
  cases hentry : entry with
  | none => rfl
  | some source =>
    have hmem : some source ∈ entries := List.mem_of_getElem? (hentry ▸ h.entry_eq)
    exact congrArg some (Bytes.upToZero_of_notMem (h.zero_notMem source hmem))

/-- An entry that is there is handed on. -/
theorem get_of_lists (h : argv.Lists index entries entry) : argv.get index = pure entry := by
  rw [h.vector_eq, get, checkedIndex_of_mem h.mem_range, Outcome.pure_bind, h.entry_eq,
    Option.getD_some]

/-- An index below zero is turned away. -/
theorem get_of_neg (entries : List (Option HostString)) (h : index < 0) :
    get (some entries) index =
      ⟨.error (.invalidIndex index addressBound), [.indexOutOfBounds index addressBound]⟩ := by
  rw [get, checkedIndex_of_notMem (by omega)]
  rfl

/-- What is asked for in order to copy an entry that is there. -/
theorem ofEntry_of_lists (h : argv.Lists index entries entry) :
    Demand.ofEntry argv index = .ofOption (entry.map HostString.bytes) := by
  rw [h.vector_eq, Demand.ofEntry, if_pos h.mem_range, h.entry_eq, Option.getD_some,
    h.upToZero_eq]

end ArgumentVector

/-! ## 2.  Ways -/

namespace Program

/-- Whether a step hands an entry on: it tells the entry itself, its address and all, and nothing
else happens. -/
structure HandsOn (p : Program) (thread : Nat) (s : Step) (entry : Option HostString) : Prop where
  result_eq : (p.step thread s).1.result = .ok (.entry entry)
  after_eq : (p.step thread s).2 = p
  events_eq : (p.step thread s).1.events = []

/-- An entry is handed on by the library and by the entry point alike. -/
theorem handsOn_of_get {p : Program} {thread : Nat} {argv : ArgumentVector} {index : Int}
    {entry : Option HostString} (h : argv.get index = pure entry) {s : Step}
    (hs : s = .entry argv index ∨ s = .entryThrough argv index) : p.HandsOn thread s entry := by
  have heffect : p.effect thread s = ⟨.ok (.entry entry), p, []⟩ := by
    rcases hs with rfl | rfl
    · rw [effect, h]
      rfl
    · rw [effect, Plain.argument, h]
      rfl
  exact ⟨congrArg Effect.result heffect, congrArg Effect.after heffect,
    congrArg Effect.events heffect⟩

/-- Which ways of making a string copy the entry of an argument vector at an index: those that are
given the vector, and the one that is given the index only, if the vector begins with the arguments
that the process was started with, wherever they stand, and the index is one of theirs. -/
def CopiesEntry (p : Program) (argv : ArgumentVector) (index : Int) : Making → Prop
  | .library (.argumentOf argv' index') | .entryPoint (.argumentOf argv' index') =>
    argv' = argv ∧ index' = index
  | .library (.argument i) =>
    index = i ∧ i < p.arguments.length ∧ ∃ (own : List HostString) (rest : _),
      own.map HostString.bytes = p.arguments ∧ argv = some (own.map some ++ rest)
  | _ => False

namespace CopiesEntry

variable {p : Program} {argv : ArgumentVector} {index : Int} {m : Making}

/-- A way to copy an entry is given the vector, or the index of an argument only. -/
theorem cases (hm : p.CopiesEntry argv index m) :
    m.demand p = Demand.ofEntry argv index ∨
      ∃ (i : Nat) (own : List HostString) (rest : _), m = .library (.argument i) ∧ index = i ∧
        i < p.arguments.length ∧ own.map HostString.bytes = p.arguments ∧
        argv = some (own.map some ++ rest) := by
  cases m with
  | library source =>
    cases source with
    | argumentOf argv' index' =>
      obtain ⟨rfl, rfl⟩ := hm
      exact Or.inl rfl
    | argument i =>
      obtain ⟨hindex, hi, own, rest, hown, hargv⟩ := hm
      exact Or.inr ⟨i, own, rest, rfl, hindex, hi, hown, hargv⟩
    | _ => exact hm.elim
  | entryPoint source =>
    cases source with
    | argumentOf argv' index' =>
      obtain ⟨rfl, rfl⟩ := hm
      exact Or.inl rfl
    | _ => exact hm.elim

/-- **All ways to copy an entry ask for the same thing**, its bytes. -/
theorem demand_eq (hm : p.CopiesEntry argv index m) {entries : List (Option HostString)}
    {entry : Option HostString} (h : argv.Lists index entries entry) :
    m.demand p = .ofOption (entry.map HostString.bytes) := by
  rcases hm.cases with hdemand | ⟨i, own, rest, rfl, rfl, hi, hown, hargv⟩
  · rw [hdemand, ArgumentVector.ofEntry_of_lists h]
  · obtain rfl : entries = own.map some ++ rest := Option.some.inj (h.vector_eq.symm.trans hargv)
    have hi' : i < own.length := by rwa [← hown, List.length_map] at hi
    have hentry := h.entry_eq
    rw [Int.toNat_natCast, List.getElem?_append_left (by rwa [List.length_map]),
      List.getElem?_map, List.getElem?_eq_getElem hi'] at hentry
    rw [Making.demand, ← Option.some.inj hentry, ← hown, List.getElem?_map,
      List.getElem?_eq_getElem hi']

/-- Where there is no vector, there is nothing to copy. -/
theorem demand_of_none (hm : p.CopiesEntry none index m) : m.demand p = .nothing := by
  rcases hm.cases with hdemand | ⟨i, own, rest, -, -, -, -, hargv⟩
  · rw [hdemand, Demand.ofEntry]
  · cases hargv

/-- An index below zero is outside a vector. -/
theorem demand_of_neg {entries : List (Option HostString)}
    (hm : p.CopiesEntry (some entries) index m) (h : index < 0) :
    m.demand p = .outside index := by
  rcases hm.cases with hdemand | ⟨i, -, -, -, hindex, -⟩
  · rw [hdemand, Demand.ofEntry, if_neg (by omega)]
  · omega

end CopiesEntry

/-! ## 3.  Agreement -/

variable {p : Program} {name : String} {argv : ArgumentVector} {index : Int}

/-- Ways of making a string that ask for the same thing leave the same memory, whatever the
allocator has. -/
theorem binding?_of_demand_eq (hfree : p.isFree name = true) (thread : Nat) {m m' : Making}
    (h : m.demand p = m'.demand p) :
    (p.step thread (m.step name)).2.binding? name =
      (p.step thread (m'.step name)).2.binding? name := by
  have hmade : ∀ m : Making, (p.step thread (m.step name)).2.binding? name =
      (p.bindNew name ((m.demand p).made? p.allocator)).binding? name := by
    intro m
    obtain ⟨notes, -, heffect⟩ := effect_of_making hfree thread m
    exact congrArg (fun e => e.after.binding? name) heffect
  rw [hmade m, hmade m', h]

/-- An index below zero ends all copies alike. -/
theorem endsAs_of_neg (hfree : p.isFree name = true) (thread : Nat)
    {entries : List (Option HostString)} (h : index < 0) {m : Making}
    (hm : p.CopiesEntry (some entries) index m) : p.EndsAs thread name m (.invalidIndex index) := by
  rw [endsAs_iff hfree, hm.demand_of_neg h]
  rfl

/-- An entry point that is to hand an entry on returns a null pointer for an index below zero, and
records why. -/
theorem effect_entryThrough_of_neg (thread : Nat) (entries : List (Option HostString))
    (h : index < 0) :
    p.effect thread (.entryThrough (some entries) index) =
      ⟨.ok (.entry none), p.absorb thread (some .invalidIndex),
        [.indexOutOfBounds index addressBound]⟩ := by
  rw [effect, Plain.argument, ArgumentVector.get_of_neg entries h]
  rfl

/-- The steps that ask for the entry of an argument vector at an index, two through the library and
two through the entry points. -/
def entrySteps (name : String) (argv : ArgumentVector) (index : Int) : List Step :=
  [.entry argv index, .make name (.argumentOf argv index), .entryThrough argv index,
    .makeThrough name (.argumentOf argv index)]

/-- **An index below zero fails in all four ways alike**, though the entry points do not say so. -/
theorem failures_of_neg (hfree : p.isFree name = true) (thread : Nat)
    (entries : List (Option HostString)) (h : index < 0) :
    ∀ s ∈ entrySteps name (some entries) index,
      p.failures thread s = [.invalidIndex index addressBound] := by
  have hget := ArgumentVector.get_of_neg entries h
  have hends := endsAs_of_neg hfree thread (m := .library (.argumentOf (some entries) index))
    h ⟨rfl, rfl⟩
  intro s hs
  simp only [entrySteps, List.mem_cons, List.not_mem_nil, or_false] at hs
  rcases hs with rfl | rfl | rfl | rfl
  · rw [failures, effect, hget]
    rfl
  · rw [failures, Outcome.failures_of_error hends.result_eq]
    rfl
  · show _ ++ (ArgumentVector.get (some entries) index).failures = _
    rw [hget]
    rfl
  · have hcopy : (ArgumentVector.copy p.allocator (some entries) index).result =
        .error (.invalidIndex index addressBound) := by
      rw [ArgumentVector.copy, Outcome.bind_error (congrArg Outcome.result hget)]
    rw [failures_makeThrough, failuresBehind, if_pos hfree]
    exact Outcome.failures_of_error hcopy

/-- **All ways to an argument agree.**  Ask for an entry of an argument vector by its index, or for
a copy of it under a name of compiled code that is free, through the library or through an entry
point.

* If the vector has an entry there, the entry itself is handed on, the address that stands in the
  vector, and nothing fails.  A null pointer is not copied; the bytes of any other entry are copied,
  if there is room, into a new string with exactly these bytes, this length and this capacity; and
  all copies are the same in memory, whatever the allocator has.  If the vector begins with the
  arguments that the process was started with, the copy of an argument without a vector is one of
  them.
* From their number on, there is no argument, without a failure.
* If there is a vector and the index is below zero, it fails alike in all four ways: the library
  returns the failure, with the largest signed index as its bound, and the entry points return a
  null pointer and record the number 2.
* If there is no vector, there is no entry at any index, and nothing fails. -/
theorem argument_paths_agree (hfree : p.isFree name = true) (thread : Nat)
    (argv : ArgumentVector) (index : Int) :
    (∀ entries entry, argv.Lists index entries entry →
      (∀ s, s = .entry argv index ∨ s = .entryThrough argv index → p.HandsOn thread s entry) ∧
      ∀ m, p.CopiesEntry argv index m →
        (entry = none → p.EndsAs thread name m .absent) ∧
        (∀ source, entry = some source → p.HasRoom source.bytes.length →
          p.MakesCopy thread name m source.bytes) ∧
        ∀ m', p.CopiesEntry argv index m' →
          (p.step thread (m'.step name)).2.binding? name =
            (p.step thread (m.step name)).2.binding? name) ∧
    (∀ i, p.arguments.length ≤ i → p.EndsAs thread name (.library (.argument i)) .absent) ∧
    (∀ entries, argv = some entries → index < 0 →
      (∀ s ∈ entrySteps name argv index,
        p.failures thread s = [.invalidIndex index 9223372036854775807]) ∧
      (p.step thread (.entry argv index)).1.result =
        .error (.invalidIndex index 9223372036854775807) ∧
      (p.step thread (.make name (.argumentOf argv index))).1.result =
        .error (.invalidIndex index 9223372036854775807) ∧
      (p.step thread (.entryThrough argv index)).1.result = .ok (.entry none) ∧
      (p.step thread (.makeThrough name (.argumentOf argv index))).1.result =
        .ok (.made false) ∧
      (p.step thread (.entryThrough argv index)).1.last.toInt = 2 ∧
      (p.step thread (.makeThrough name (.argumentOf argv index))).1.last.toInt = 2) ∧
    (argv = none →
      (∀ s, s = .entry argv index ∨ s = .entryThrough argv index → p.HandsOn thread s none) ∧
      ∀ m, p.CopiesEntry argv index m → p.EndsAs thread name m .absent) := by
  refine ⟨fun entries entry h => ⟨fun s hs => ?_, fun m hm => ⟨fun hnone => ?_,
    fun source hsource hroom => ?_, fun m' hm' => ?_⟩⟩, fun i hi => ?_,
    fun entries hargv hneg => ?_, fun hargv => ?_⟩
  · exact handsOn_of_get (ArgumentVector.get_of_lists h) hs
  · rw [endsAs_iff hfree, hm.demand_eq h, hnone]
    rfl
  · refine makesCopy_of_demand hfree thread ?_ (h.zero_notMem source ?_) hroom
    · rw [hm.demand_eq h, hsource]
      rfl
    · exact List.mem_of_getElem? (hsource ▸ h.entry_eq)
  · exact binding?_of_demand_eq hfree thread ((hm'.demand_eq h).trans (hm.demand_eq h).symm)
  · rw [endsAs_iff hfree, Making.demand, List.getElem?_eq_none hi]
    rfl
  · subst hargv
    have hlibrary := endsAs_of_neg hfree thread (m := .library (.argumentOf (some entries) index))
      hneg ⟨rfl, rfl⟩
    have hentryPoint := endsAs_of_neg hfree thread
      (m := .entryPoint (.argumentOf (some entries) index)) hneg ⟨rfl, rfl⟩
    have hhanded := effect_entryThrough_of_neg (p := p) thread entries hneg
    refine ⟨failures_of_neg hfree thread entries hneg, ?_, hlibrary.result_eq,
      congrArg Effect.result hhanded, hentryPoint.result_eq, ?_, ?_⟩
    · show (p.effect thread (.entry (some entries) index)).result = _
      rw [effect, ArgumentVector.get_of_neg entries hneg]
      rfl
    · show ((p.effect thread (.entryThrough (some entries) index)).after.slots.read
        thread).toInt = 2
      rw [hhanded]
      show ((p.slots.absorb thread _).read thread).toInt = 2
      rw [Slots.read_absorb, if_pos rfl]
      rfl
    · exact congrArg ErrorCode.toInt hentryPoint.slot_eq
  · subst hargv
    refine ⟨fun s hs => handsOn_of_get rfl hs, fun m hm => ?_⟩
    rw [endsAs_iff hfree, hm.demand_of_none]
    rfl

/-- A process that was started with `p` and `-f`, and a vector of these arguments with a second `-f`
and a null pointer behind them, on a thread that has not failed so far.  The second `-f` is copied
as the first one is, but it is not the first one that is handed on in its place. -/
theorem paths_to_four_entries :
    let p : Program := start (.filledWith 7 20) ⟨∅⟩ [[112], [45, 102]] .silent true
    let argv : ArgumentVector :=
      some [some ⟨4096, [112]⟩, some ⟨4098, [45, 102]⟩, some ⟨4101, [45, 102]⟩, none]
    let copy : Making := .library (.argument 1)
    (p.HandsOn 0 (.entryThrough argv 1) (some ⟨4098, [45, 102]⟩) ∧
      p.MakesCopy 0 "abc" copy [45, 102] ∧
      p.MakesCopy 0 "abc" (.entryPoint (.argumentOf argv 1)) [45, 102] ∧
      (p.step 0 (.make "abc" (.argumentOf argv 1))).2.binding? "abc" =
        (p.step 0 (copy.step "abc")).2.binding? "abc") ∧
    (p.HandsOn 0 (.entry argv 2) (some ⟨4101, [45, 102]⟩) ∧
      ¬p.HandsOn 0 (.entry argv 2) (some ⟨4098, [45, 102]⟩) ∧
      p.MakesCopy 0 "abc" (.library (.argumentOf argv 2)) [45, 102]) ∧
    (p.HandsOn 0 (.entry argv 3) none ∧
      p.EndsAs 0 "abc" (.entryPoint (.argumentOf argv 3)) .absent ∧
      p.EndsAs 0 "abc" (.library (.argument 2)) .absent) ∧
    ((p.step 0 (.entry argv (-1))).1.result =
        .error (.invalidIndex (-1) 9223372036854775807) ∧
      (p.step 0 (.makeThrough "abc" (.argumentOf argv (-1)))).1.last.toInt = 2) ∧
    p.HandsOn 0 (.entryThrough none (-1)) none := by
  intro p argv copy
  have hfree : p.isFree "abc" = true := rfl
  have hlists : ∀ (i : Nat) (entry : Option HostString), (argv.getD [])[i]? = some entry →
      argv.Lists i (argv.getD []) entry :=
    fun i _ hentry => ⟨rfl, Int.natCast_nonneg i, hentry, by decide, by simp [argv]⟩
  have hcopy : p.CopiesEntry argv 1 copy :=
    ⟨rfl, by decide, [⟨4096, [112]⟩, ⟨4098, [45, 102]⟩], _, rfl, rfl⟩
  obtain ⟨hinside, -, -, -⟩ := argument_paths_agree hfree 0 argv 1
  obtain ⟨hinside', hpast, -, -⟩ := argument_paths_agree hfree 0 argv 2
  obtain ⟨hinside'', -, -, -⟩ := argument_paths_agree hfree 0 argv 3
  obtain ⟨-, -, hneg, -⟩ := argument_paths_agree hfree 0 argv (-1)
  obtain ⟨-, -, -, hnone⟩ := argument_paths_agree hfree 0 none (-1)
  obtain ⟨hhanded, hcopies⟩ := hinside _ _ (hlists 1 _ rfl)
  obtain ⟨hhanded', hcopies'⟩ := hinside' _ _ (hlists 2 _ rfl)
  obtain ⟨hhanded'', hcopies''⟩ := hinside'' _ _ (hlists 3 _ rfl)
  obtain ⟨-, herror, -, -, -, -, hcode⟩ := hneg _ rfl (by decide)
  have hroom : p.HasRoom ([45, 102] : Bytes).length := ⟨by decide, by decide⟩
  have hsecond := hhanded' _ (Or.inl rfl)
  refine ⟨⟨hhanded _ (Or.inr rfl), (hcopies copy hcopy).2.1 _ rfl hroom,
      (hcopies (.entryPoint (.argumentOf argv 1)) ⟨rfl, rfl⟩).2.1 _ rfl hroom,
      (hcopies copy hcopy).2.2 (.library (.argumentOf argv 1)) ⟨rfl, rfl⟩⟩,
    ⟨hsecond, fun hfirst => ?_,
      (hcopies' (.library (.argumentOf argv 2)) ⟨rfl, rfl⟩).2.1 _ rfl hroom⟩,
    ⟨hhanded'' _ (Or.inl rfl),
      (hcopies'' (.entryPoint (.argumentOf argv 3)) ⟨rfl, rfl⟩).1 rfl, hpast 2 (by decide)⟩,
    ⟨herror, hcode⟩, (hnone rfl).1 _ (Or.inr rfl)⟩
  cases hsecond.result_eq.symm.trans hfirst.result_eq

end Program

end CountedStrings
