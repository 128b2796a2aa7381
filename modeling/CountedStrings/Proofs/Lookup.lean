import CountedStrings.Proofs.Configuration
import CountedStrings.Proofs.Constructions
import Mathlib.Data.List.Induction
import Mathlib.Data.List.TakeWhile

/-!
# Looking a variable up

A look-up goes through the entries of the environment and takes what stands behind `name=` in the
first one that begins so.  It compares bytes and knows nothing of names and values, so a name with
an equals sign in it reaches into the value of a variable.  Still, what it finds is well defined.

## 1.  Tables with distinct keys

In a table without a repeated key, an entry is found under its key (`Table.get?_eq_some_iff`).
Setting and erasing do not repeat a key.

## 2.  One entry

`Environment.Answers` says which names are answered by a variable, and with what.  It is what is
read in the entry of the variable (`valueIn?_entry_eq_some_iff`), because the first equals sign of
an entry is the one behind its name.

## 3.  All entries

A name is answered by one variable at most: the one whose name is in front of the first equals sign
(`Unambiguous.eq_of_answers`).  So the order of the entries does not matter (`lookup_eq_some_iff`,
`Unambiguous.lookup_congr`).

## 4.  Setting and unsetting

`Environment.lastValue` is the value that a variable was last set to in a run.  A name without an
equals sign finds it (`Unambiguous.lookup_changedBy`).  `variables_are_found_by_name` is the law.
-/

namespace CountedStrings

/-! ## 1.  Tables with distinct keys -/

namespace Table

variable {κ : Type*} {α : Type*} [DecidableEq κ]

/-- With distinct keys, each entry is found under its key. -/
theorem get?_eq_some_iff {t : Table κ α} (h : t.keys.Nodup) {key : κ} {value : α} :
    t.get? key = some value ↔ (key, value) ∈ t.entries := by
  obtain ⟨entries⟩ := t
  show find key entries = some value ↔ (key, value) ∈ entries
  induction entries with
  | nil => simp [find]
  | cons entry rest ih =>
    obtain ⟨hnot, hrest⟩ := List.nodup_cons.mp h
    rw [find, List.mem_cons]
    by_cases hkey : entry.1 = key
    · -- no later entry has this key
      have hlater : (key, value) ∉ rest := fun hmem =>
        hnot (List.mem_map.mpr ⟨_, hmem, hkey.symm⟩)
      rw [if_pos hkey, or_iff_left hlater, Option.some.injEq, Prod.ext_iff]
      exact ⟨fun hvalue => ⟨hkey.symm, hvalue.symm⟩, fun hboth => hboth.2.symm⟩
    · have hfirst : (key, value) ≠ entry := fun heq => hkey (congrArg Prod.fst heq).symm
      rw [if_neg hkey, or_iff_right hfirst]
      exact ih hrest

/-- An entry of a table in which a value was set is the new one or an old one. -/
theorem mem_entries_insert {t : Table κ α} {key : κ} {value : α} {x : κ × α}
    (h : x ∈ (t.insert key value).entries) : x = (key, value) ∨ x ∈ t.entries := by
  obtain ⟨entries⟩ := t
  change x ∈ put key value entries at h
  show x = (key, value) ∨ x ∈ entries
  induction entries with
  | nil => exact Or.inl (List.mem_singleton.mp h)
  | cons entry rest ih =>
    rw [put] at h
    split at h
    · rcases List.mem_cons.mp h with hx | hx
      · exact Or.inl hx
      · exact Or.inr (List.mem_cons_of_mem _ hx)
    · rcases List.mem_cons.mp h with hx | hx
      · exact Or.inr (hx ▸ List.mem_cons_self)
      · exact (ih hx).imp_right (List.mem_cons_of_mem _)

/-- Setting a value repeats no key. -/
theorem nodup_keys_insert {t : Table κ α} (h : t.keys.Nodup) (key : κ) (value : α) :
    (t.insert key value).keys.Nodup := by
  obtain ⟨entries⟩ := t
  show ((put key value entries).map Prod.fst).Nodup
  induction entries with
  | nil => exact List.nodup_singleton key
  | cons entry rest ih =>
    obtain ⟨hnot, hrest⟩ := List.nodup_cons.mp h
    rw [put]
    split
    · next hkey =>
      subst hkey
      exact h
    · next hkey =>
      refine List.nodup_cons.mpr ⟨fun hmem => ?_, ih hrest⟩
      obtain ⟨x, hx, hfst⟩ := List.mem_map.mp hmem
      rcases mem_entries_insert (t := ⟨rest⟩) hx with rfl | hold
      · exact hkey hfst.symm
      · exact hnot (List.mem_map.mpr ⟨x, hold, hfst⟩)

/-- An entry of a table in which a key was erased is an old one. -/
theorem mem_entries_erase {t : Table κ α} {key : κ} {x : κ × α}
    (h : x ∈ (t.erase key).entries) : x ∈ t.entries :=
  List.mem_of_mem_filter h

/-- Erasing repeats no key. -/
theorem nodup_keys_erase {t : Table κ α} (h : t.keys.Nodup) (key : κ) :
    (t.erase key).keys.Nodup :=
  h.sublist (List.filter_sublist.map Prod.fst)

end Table

namespace Environment

/-! ## 2.  One entry -/

/-- Whether a variable answers a name, and with what.  Either it is the variable of that name, and
answers with its value; or the name is that of the variable with an equals sign and the beginning of
its value behind it, and another equals sign follows there in the value. -/
def Answers (key value name found : Bytes) : Prop :=
  (name = key ∧ found = value) ∨
    ∃ first, name = key ++ equalsSign :: first ∧ value = first ++ equalsSign :: found

/-- An entry is read under each name with which it could have been made. -/
theorem valueIn?_eq_some_iff {name bytes found : Bytes} :
    valueIn? name bytes = some found ↔ bytes = entry name found := by
  constructor
  · intro h
    rw [valueIn?] at h
    split at h
    · next hprefix =>
      obtain ⟨rest, rfl⟩ := List.isPrefixOf_iff_prefix.mp hprefix
      rw [← Option.some.inj h]
      simp [entry, List.drop_append]
    · cases h
  · rintro rfl
    exact valueIn?_entry name found

/-- **The first equals sign of an entry is the one behind its name.** -/
theorem entry_eq_entry_iff {key value name found : Bytes} (h : equalsSign ∉ key) :
    entry key value = entry name found ↔ Answers key value name found := by
  constructor
  · intro heq
    rcases List.append_eq_append_iff.mp heq with ⟨rest, hname, hrest⟩ | ⟨rest, hkey, hrest⟩
    · -- the name goes on where the other one ends
      cases rest with
      | nil =>
        rw [List.append_nil] at hname
        exact Or.inl ⟨hname, (List.cons.inj hrest).2.symm⟩
      | cons b first =>
        obtain ⟨hb, hvalue⟩ := List.cons.inj hrest
        subst hb
        exact Or.inr ⟨first, hname, hvalue⟩
    · cases rest with
      | nil =>
        rw [List.append_nil] at hkey
        exact Or.inl ⟨hkey.symm, (List.cons.inj hrest).2⟩
      | cons b first =>
        -- otherwise there would be an equals sign in the name of the variable
        obtain ⟨hb, -⟩ := List.cons.inj hrest
        subst hb
        exact absurd (hkey ▸ List.mem_append_right name List.mem_cons_self) h
  · rintro (⟨rfl, rfl⟩ | ⟨first, rfl, rfl⟩)
    · rfl
    · simp [entry]

/-- **What is read in the entry of a variable** is what the variable answers. -/
theorem valueIn?_entry_eq_some_iff {key value name found : Bytes} (h : equalsSign ∉ key) :
    valueIn? name (entry key value) = some found ↔ Answers key value name found := by
  rw [valueIn?_eq_some_iff, entry_eq_entry_iff h]

/-- The variable that answers a name has the name in front of the first equals sign. -/
theorem key_eq_of_answers {key value name found : Bytes} (h : equalsSign ∉ key)
    (ha : Answers key value name found) : key = name.takeWhile (· != equalsSign) := by
  have hkey : ∀ b ∈ key, (b != equalsSign) = true := by
    intro b hb
    refine bne_iff_ne.mpr ?_
    rintro rfl
    exact h hb
  rcases ha with ⟨rfl, -⟩ | ⟨first, rfl, -⟩
  · exact (List.takeWhile_eq_self_iff.mpr hkey).symm
  · rw [List.takeWhile_append_of_pos hkey, List.takeWhile_cons_of_neg (by simp), List.append_nil]

/-! ## 3.  All entries -/

/-- Whether each name has one variable: names are distinct, no equals sign is in a name, and no zero
in a value. -/
structure Unambiguous (e : Environment) : Prop where
  nodup_keys : e.vars.keys.Nodup
  equalsSign_notMem : ∀ x ∈ e.vars.entries, equalsSign ∉ x.1
  zero_notMem : ∀ x ∈ e.vars.entries, (0 : UInt8) ∉ x.2

/-- Whether an environment is as a host hands it to a process: besides, no name is empty. -/
structure WellFormed (e : Environment) : Prop extends Unambiguous e where
  key_ne_nil : ∀ x ∈ e.vars.entries, x.1 ≠ []

namespace Unambiguous

variable {e : Environment} {name found : Bytes}

/-- **No name is answered by two variables**, or by one in two ways. -/
theorem eq_of_answers (he : e.Unambiguous) {x y : Bytes × Bytes} (hx : x ∈ e.vars.entries)
    (hy : y ∈ e.vars.entries) {found' : Bytes} (h : Answers x.1 x.2 name found)
    (h' : Answers y.1 y.2 name found') : x = y ∧ found = found' := by
  have hkey : x.1 = y.1 :=
    (key_eq_of_answers (he.equalsSign_notMem x hx) h).trans
      (key_eq_of_answers (he.equalsSign_notMem y hy) h').symm
  obtain rfl : x = y := List.inj_on_of_nodup_map he.nodup_keys hx hy hkey
  have hread := (valueIn?_entry_eq_some_iff (he.equalsSign_notMem x hx)).mpr h
  have hread' := (valueIn?_entry_eq_some_iff (he.equalsSign_notMem x hx)).mpr h'
  exact ⟨rfl, Option.some.inj (hread.symm.trans hread')⟩

/-- **A look-up finds what a variable answers**, wherever it is among the entries. -/
theorem lookup_eq_some_iff (he : e.Unambiguous) :
    e.lookup name = some found ↔
      name ≠ [] ∧ ∃ x ∈ e.vars.entries, Answers x.1 x.2 name found := by
  rw [lookup]
  by_cases hname : name = []
  · rw [if_pos hname]
    exact iff_of_false (by simp) fun h => h.1 hname
  rw [if_neg hname, and_iff_right hname]
  -- whatever is read in some entry is the answer of a variable
  have hread : ∀ {value : Bytes}, e.entries.findSome? (valueIn? name) = some value →
      ∃ x ∈ e.vars.entries, Answers x.1 x.2 name value := by
    intro value h
    obtain ⟨bytes, hmem, hvalue⟩ := List.exists_of_findSome?_eq_some h
    obtain ⟨x, hx, rfl⟩ := List.mem_map.mp hmem
    exact ⟨x, hx, (valueIn?_entry_eq_some_iff (he.equalsSign_notMem x hx)).mp hvalue⟩
  constructor
  · exact hread
  · rintro ⟨x, hx, ha⟩
    cases hfound : e.entries.findSome? (valueIn? name) with
    | none =>
      have hnone := List.findSome?_eq_none_iff.mp hfound _ (List.mem_map_of_mem hx)
      have hsome := (valueIn?_entry_eq_some_iff (he.equalsSign_notMem x hx)).mpr ha
      cases hnone.symm.trans hsome
    | some value =>
      obtain ⟨y, hy, ha'⟩ := hread hfound
      rw [(he.eq_of_answers hy hx ha' ha).2]

/-- What is found has no zero in it. -/
theorem zero_notMem_lookup (he : e.Unambiguous) (h : e.lookup name = some found) :
    (0 : UInt8) ∉ found := by
  obtain ⟨-, x, hx, ha⟩ := he.lookup_eq_some_iff.mp h
  have hzero := he.zero_notMem x hx
  rcases ha with ⟨-, rfl⟩ | ⟨first, -, hvalue⟩
  · exact hzero
  · rw [hvalue] at hzero
    exact fun hmem => hzero (List.mem_append_right _ (List.mem_cons_of_mem _ hmem))

/-- **The order of the entries does not matter.** -/
theorem lookup_congr (he : e.Unambiguous) {e' : Environment}
    (h : e'.vars.entries.Perm e.vars.entries) : e'.lookup = e.lookup := by
  have he' : e'.Unambiguous :=
    ⟨(h.map Prod.fst).nodup_iff.mpr he.nodup_keys,
      fun x hx => he.equalsSign_notMem x (h.mem_iff.mp hx),
      fun x hx => he.zero_notMem x (h.mem_iff.mp hx)⟩
  funext name
  refine Option.ext fun found => ?_
  rw [he.lookup_eq_some_iff, he'.lookup_eq_some_iff]
  simp only [h.mem_iff]

/-- A name without an equals sign finds the variable of that name. -/
theorem lookup_eq_get? (he : e.Unambiguous) (hname : name ≠ []) (hsign : equalsSign ∉ name) :
    e.lookup name = e.vars.get? name := by
  refine Option.ext fun found => ?_
  rw [he.lookup_eq_some_iff, Table.get?_eq_some_iff he.nodup_keys, and_iff_right hname]
  constructor
  · rintro ⟨x, hx, ⟨rfl, rfl⟩ | ⟨first, rfl, -⟩⟩
    · exact hx
    · exact absurd (List.mem_append_right _ List.mem_cons_self) hsign
  · intro hmem
    exact ⟨_, hmem, Or.inl ⟨rfl, rfl⟩⟩

end Unambiguous

/-- Where no name is empty, the empty name need not be kept apart. -/
theorem WellFormed.lookup_eq_some_iff {e : Environment} (he : e.WellFormed) {name found : Bytes} :
    e.lookup name = some found ↔ ∃ x ∈ e.vars.entries, Answers x.1 x.2 name found := by
  rw [he.toUnambiguous.lookup_eq_some_iff, and_iff_right_iff_imp]
  rintro ⟨x, hx, ha⟩ rfl
  rcases ha with ⟨hname, -⟩ | ⟨first, hname, -⟩
  · exact he.key_ne_nil x hx hname.symm
  · exact absurd hname (by simp)

end Environment

/-! ## 4.  Setting and unsetting -/

/-- What a step does to the variable of a name: it sets it to a value, or unsets it, or neither. -/
def Step.variableChange? (name : Bytes) : Step → Option (Option Bytes)
  | .setVariable key value => if key = name then some (some value) else none
  | .unsetVariable key => if key = name then some none else none
  | _ => none

/-- Whether a step sets no variable under a name with an equals sign, and none to a value with a
zero. -/
def Step.SetsPlainly : Step → Prop
  | .setVariable key value => Environment.equalsSign ∉ key ∧ (0 : UInt8) ∉ value
  | _ => True

namespace Environment

/-- What a run leaves in the variable of a name: the value that it was last set to, or nothing if it
was last unset.  If no step is about the variable, it is as it was at the start. -/
def lastValue (e : Environment) (name : Bytes) (steps : List (Nat × Step)) : Option Bytes :=
  (steps.filterMap fun x => x.2.variableChange? name).getLast?.getD (e.vars.get? name)

theorem changedBy_concat (e : Environment) (steps : List (Nat × Step)) (x : Nat × Step) :
    e.changedBy (steps ++ [x]) = x.2.changeEnvironment (e.changedBy steps) := by
  rw [changedBy, List.foldl_append]
  rfl

/-- A step does to a variable what it says. -/
theorem get?_changeEnvironment (e : Environment) (s : Step) (name : Bytes) :
    (s.changeEnvironment e).vars.get? name =
      (s.variableChange? name).getD (e.vars.get? name) := by
  cases s with
  | setVariable key value =>
    refine (Table.get?_insert e.vars key name value).trans ?_
    rw [Step.variableChange?]
    split <;> rfl
  | unsetVariable key =>
    refine (Table.get?_erase e.vars key name).trans ?_
    rw [Step.variableChange?]
    split <;> rfl
  | _ => rfl

/-- **The last step about a variable counts.** -/
theorem get?_changedBy (e : Environment) (name : Bytes) (steps : List (Nat × Step)) :
    (e.changedBy steps).vars.get? name = e.lastValue name steps := by
  induction steps using List.reverseRecOn with
  | nil => rfl
  | append_singleton before x ih =>
    rw [changedBy_concat, get?_changeEnvironment, ih, lastValue, lastValue, List.filterMap_append]
    cases hx : x.2.variableChange? name with
    | none =>
      simp only [List.filterMap_cons, hx, List.filterMap_nil, List.append_nil]
      rfl
    | some change =>
      simp only [List.filterMap_cons, hx, List.filterMap_nil, List.getLast?_concat]
      rfl

namespace Unambiguous

variable {e : Environment}

/-- Setting a variable under a name without an equals sign, and unsetting one, leaves each name with
one variable. -/
theorem changeEnvironment (he : e.Unambiguous) {s : Step} (hs : s.SetsPlainly) :
    (s.changeEnvironment e).Unambiguous := by
  cases s with
  | setVariable key value =>
    obtain ⟨hsign, hzero⟩ := hs
    refine ⟨Table.nodup_keys_insert he.nodup_keys key value, fun x hx => ?_, fun x hx => ?_⟩
    · rcases Table.mem_entries_insert hx with rfl | hold
      · exact hsign
      · exact he.equalsSign_notMem x hold
    · rcases Table.mem_entries_insert hx with rfl | hold
      · exact hzero
      · exact he.zero_notMem x hold
  | unsetVariable key =>
    exact ⟨Table.nodup_keys_erase he.nodup_keys key,
      fun x hx => he.equalsSign_notMem x (Table.mem_entries_erase hx),
      fun x hx => he.zero_notMem x (Table.mem_entries_erase hx)⟩
  | _ => exact he

/-- So does a run. -/
theorem changedBy (he : e.Unambiguous) {steps : List (Nat × Step)}
    (h : ∀ x ∈ steps, x.2.SetsPlainly) : (e.changedBy steps).Unambiguous := by
  induction steps generalizing e with
  | nil => exact he
  | cons x rest ih =>
    obtain ⟨hx, hrest⟩ := List.forall_mem_cons.mp h
    exact ih (he.changeEnvironment hx) hrest

/-- **A name without an equals sign finds what its variable was last set to.** -/
theorem lookup_changedBy (he : e.Unambiguous) {steps : List (Nat × Step)}
    (h : ∀ x ∈ steps, x.2.SetsPlainly) {name : Bytes} (hname : name ≠ [])
    (hsign : equalsSign ∉ name) : (e.changedBy steps).lookup name = e.lastValue name steps := by
  rw [(he.changedBy h).lookup_eq_get? hname hsign, get?_changedBy]

end Unambiguous

end Environment

namespace Making

/-- Whether a way of making a string looks up a zero-terminated name in the environment. -/
def LooksUp (n : Bytes) : Making → Prop
  | .library (.variable name) => name.upToZero = n
  | .entryPoint (.variable name) => name.map Bytes.upToZero = some n
  | _ => False

/-- A look-up asks for a string of what is found. -/
theorem LooksUp.demand_eq {m : Making} {n : Bytes} (h : m.LooksUp n) (p : Program) :
    m.demand p = .ofOption (p.environment.lookup n) := by
  cases m with
  | library source =>
    cases source with
    | «variable» name => exact congrArg (fun n => Demand.ofOption (p.environment.lookup n)) h
    | _ => exact h.elim
  | entryPoint source =>
    cases source with
    | «variable» name =>
      obtain ⟨bytes, rfl, hbytes⟩ := Option.map_eq_some_iff.mp h
      exact congrArg (fun n => Demand.ofOption (p.environment.lookup n)) hbytes
    | _ => exact h.elim

end Making

namespace Program

variable {p : Program} {name : String} {m : Making} {n : Bytes}

/-- What a look-up finds is copied. -/
theorem makesCopy_of_lookup (hfree : p.isFree name = true) (thread : Nat) (hm : m.LooksUp n)
    (he : p.environment.Unambiguous) {found : Bytes} (h : p.environment.lookup n = some found)
    (hroom : p.HasRoom found.length) : p.MakesCopy thread name m found := by
  refine makesCopy_of_demand hfree thread ?_ (he.zero_notMem_lookup h) hroom
  rw [hm.demand_eq p, h]
  rfl

/-- Nothing is made exactly if a look-up finds nothing. -/
theorem endsAs_absent_iff_lookup (hfree : p.isFree name = true) (thread : Nat)
    (hm : m.LooksUp n) : p.EndsAs thread name m .absent ↔ p.environment.lookup n = none := by
  rw [endsAs_iff hfree, Demand.ending_eq_absent_iff, hm.demand_eq p,
    Demand.ofOption_eq_nothing_iff]

/-- **A copy of some bytes is made** exactly if a look-up finds them and there is room. -/
theorem makesCopy_iff_lookup (hfree : p.isFree name = true) (thread : Nat) (hm : m.LooksUp n)
    (he : p.environment.Unambiguous) {found : Bytes} :
    p.MakesCopy thread name m found ↔
      p.environment.lookup n = some found ∧ p.HasRoom found.length := by
  constructor
  · intro h
    have hmade := (endsAs_iff hfree thread m _).mp h.endsAs
    rw [hm.demand_eq p] at hmade
    cases hlookup : p.environment.lookup n with
    | none =>
      rw [hlookup] at hmade
      cases hmade
    | some value =>
      rw [hlookup] at hmade
      obtain ⟨-, hroom⟩ := Ending.ofSize_eq_made_iff.mp hmade
      -- what was found is copied as well, so it is the same
      obtain rfl := h.eq (makesCopy_of_lookup hfree thread hm he hlookup hroom)
      exact ⟨rfl, hroom⟩
  · rintro ⟨hlookup, hroom⟩
    exact makesCopy_of_lookup hfree thread hm he hlookup hroom

/-- A look-up answers alike in all environments that find the same. -/
theorem step_of_lookup_eq (hfree : p.isFree name = true) (thread : Nat) (hm : m.LooksUp n)
    {e : Environment} (h : e.lookup = p.environment.lookup) :
    ({ p with environment := e }.step thread (m.step name)).1 =
      (p.step thread (m.step name)).1 := by
  have hcopy : ∀ bytes, e.copy p.allocator bytes = p.environment.copy p.allocator bytes := by
    intro bytes
    rw [Environment.copy, Environment.copy, h]
  have hfree' : { p with environment := e }.isFree name = true := hfree
  cases m with
  | library source =>
    cases source with
    | «variable» bytes =>
      have hbuild : { p with environment := e }.build (.variable bytes) =
          p.build (.variable bytes) := hcopy bytes
      simp only [step, Making.step, effect, make, if_pos hfree, if_pos hfree', hbuild]
      cases (p.build (.variable bytes)).result with
      | ok made => cases made <;> rfl
      | error error => rfl
    | _ => exact hm.elim
  | entryPoint source =>
    cases source with
    | «variable» bytes =>
      have hbuild : { p with environment := e }.buildThrough (.variable bytes) =
          p.buildThrough (.variable bytes) := by
        cases bytes with
        | none => rfl
        | some bytes => exact congrArg (fun x => x.orRecord none) (hcopy bytes)
      simp only [step, Making.step, effect, makeThrough, if_pos hfree, if_pos hfree', hbuild]
      cases (p.buildThrough (.variable bytes)).value <;> rfl
    | _ => exact hm.elim

/-- **Variables are found by their names.**  Take an environment in which names are distinct and not
empty, without an equals sign, and values are without a zero, and look a name up, through the
library or through the entry point, under a name of compiled code that is free.

* If there is room for it, a value is copied exactly if a variable answers the name with that value:
  either the name is that of the variable, or it reaches into the value up to an equals sign, and
  what is behind is found.  Nothing is made exactly if no variable answers.
* No name is answered by two variables, or in two ways; and the whole answer of the step is the same
  for every order of the entries.
* Let the process take any steps, of which none sets a variable under a name with an equals sign.
  After that, a name without an equals sign finds what its variable was last set to, also if that is
  empty, and nothing if it was last unset or if it was not there and never set.  The empty name is
  nobody's name and finds nothing. -/
theorem variables_are_found_by_name (he : p.environment.WellFormed) (hfree : p.isFree name = true)
    (thread : Nat) (hm : m.LooksUp n) :
    ((∀ x ∈ p.environment.vars.entries, ∀ found,
        Environment.Answers x.1 x.2 n found → p.HasRoom found.length) →
      ∀ found, p.MakesCopy thread name m found ↔
        ∃ x ∈ p.environment.vars.entries, Environment.Answers x.1 x.2 n found) ∧
    (p.EndsAs thread name m .absent ↔
      ∀ x ∈ p.environment.vars.entries, ∀ found, ¬ Environment.Answers x.1 x.2 n found) ∧
    (∀ x ∈ p.environment.vars.entries, ∀ y ∈ p.environment.vars.entries, ∀ found found',
      Environment.Answers x.1 x.2 n found → Environment.Answers y.1 y.2 n found' →
        x = y ∧ found = found') ∧
    (∀ e : Environment, e.vars.entries.Perm p.environment.vars.entries →
      ({ p with environment := e }.step thread (m.step name)).1 =
        (p.step thread (m.step name)).1) ∧
    ∀ steps thread' name', (∀ x ∈ steps, x.2.SetsPlainly) → Environment.equalsSign ∉ n →
      (p.after steps).isFree name' = true →
        (∀ value, p.environment.lastValue n steps = some value → n ≠ [] →
          p.HasRoom value.length → (p.after steps).MakesCopy thread' name' m value) ∧
        (p.environment.lastValue n steps = none ∨ n = [] →
          (p.after steps).EndsAs thread' name' m .absent) := by
  refine ⟨fun hroom found => ?_, ?_, fun x hx y hy found found' h h' => ?_, fun e hperm => ?_,
    fun steps thread' name' hsteps hsign hfree' => ⟨fun value hvalue hne hroom => ?_, fun h => ?_⟩⟩
  · rw [makesCopy_iff_lookup hfree thread hm he.toUnambiguous, he.lookup_eq_some_iff,
      and_iff_left_iff_imp]
    rintro ⟨x, hx, ha⟩
    exact hroom x hx found ha
  · rw [endsAs_absent_iff_lookup hfree thread hm, Option.eq_none_iff_forall_ne_some]
    constructor
    · intro hnone x hx found ha
      exact hnone found (he.lookup_eq_some_iff.mpr ⟨x, hx, ha⟩)
    · intro hnone found hfound
      obtain ⟨x, hx, ha⟩ := he.lookup_eq_some_iff.mp hfound
      exact hnone x hx found ha
  · exact he.eq_of_answers hx hy h h'
  · exact step_of_lookup_eq hfree thread hm (he.lookup_congr hperm)
  · have hafter : (p.after steps).environment.Unambiguous := by
      rw [environment_after]
      exact he.changedBy hsteps
    refine makesCopy_of_lookup hfree' thread' hm hafter ?_ ?_
    · rw [environment_after, he.lookup_changedBy hsteps hne hsign, hvalue]
    · rwa [HasRoom, (p.given_after _).1]
  · rw [endsAs_absent_iff_lookup hfree' thread' hm, environment_after]
    by_cases hne : n = []
    · rw [Environment.lookup, if_pos hne]
    · rw [he.lookup_changedBy hsteps hne hsign]
      exact h.resolve_right hne

/-- With `AB` empty and `A` set to `b=c`, the name `A=b` finds `c`, in either order.  Later `A` is
set to `h`, `B` to nothing, and `AB` is unset. -/
theorem name_reaches_into_value :
    let p : Program := start (.filledWith 7 64)
      ⟨.ofList [([65, 66], []), ([65], [98, 61, 99])]⟩ [] .silent true
    let swapped : Environment := ⟨.ofList [([65], [98, 61, 99]), ([65, 66], [])]⟩
    let m : Making := .entryPoint (.variable (some [65, 61, 98, 0, 7]))
    let steps : List (Nat × Step) :=
      [(0, .setVariable [65] [104]), (1, .setVariable [66] []), (0, .unsetVariable [65, 66])]
    (p.MakesCopy 0 "abc" m [99] ∧
      ({ p with environment := swapped }.step 0 (m.step "abc")).1 =
        (p.step 0 (m.step "abc")).1) ∧
    ((p.after steps).MakesCopy 1 "abc" (.library (.variable [65])) [104] ∧
      (p.after steps).MakesCopy 1 "abc" (.library (.variable [66])) [] ∧
      (p.after steps).EndsAs 1 "abc" (.library (.variable [65, 66])) .absent) ∧
    p.EndsAs 0 "abc" (.library (.variable [66])) .absent := by
  intro p swapped m steps
  have he : p.environment.WellFormed := ⟨⟨by decide, by decide, by decide⟩, by decide⟩
  have hfree : ∀ name, p.isFree name = true := fun _ => rfl
  have hlooks : ∀ n : Bytes, n.upToZero = n → Making.LooksUp n (.library (.variable n)) :=
    fun _ h => h
  have hplain : ∀ x ∈ steps, x.2.SetsPlainly := by
    refine List.forall_mem_cons.mpr ⟨⟨by decide, by decide⟩, ?_⟩
    refine List.forall_mem_cons.mpr ⟨⟨by decide, by decide⟩, ?_⟩
    exact List.forall_mem_singleton.mpr trivial
  have hanswer : Environment.Answers [65] [98, 61, 99] [65, 61, 98] [99] :=
    Or.inr ⟨[98], rfl, rfl⟩
  have hm : m.LooksUp [65, 61, 98] := rfl
  obtain ⟨hmakes, -, hunique, horder, -⟩ := variables_are_found_by_name he (hfree "abc") 0 hm
  obtain ⟨-, -, -, -, hset⟩ :=
    variables_are_found_by_name he (hfree "abc") 0 (hlooks [65] rfl)
  obtain ⟨-, habsent, -, -, hempty⟩ :=
    variables_are_found_by_name he (hfree "abc") 0 (hlooks [66] rfl)
  obtain ⟨-, -, -, -, hunset⟩ :=
    variables_are_found_by_name he (hfree "abc") 0 (hlooks [65, 66] rfl)
  have hroom : ∀ x ∈ p.environment.vars.entries, ∀ found,
      Environment.Answers x.1 x.2 [65, 61, 98] found → p.HasRoom found.length := by
    intro x hx found ha
    obtain ⟨-, rfl⟩ := hunique x hx ([65], [98, 61, 99]) (by decide) found [99] ha hanswer
    exact ⟨by decide, by decide⟩
  have hnone : ∀ x ∈ p.environment.vars.entries, x.1 ≠ [66] := by decide
  refine ⟨⟨(hmakes hroom [99]).mpr ⟨([65], [98, 61, 99]), by decide, hanswer⟩,
      horder swapped (.swap _ _ _)⟩, ⟨?_, ?_, ?_⟩, ?_⟩
  · exact (hset steps 1 "abc" hplain (by decide) rfl).1 [104] (by decide) (by decide)
      ⟨by decide, by decide⟩
  · exact (hempty steps 1 "abc" hplain (by decide) rfl).1 [] (by decide) (by decide)
      ⟨by decide, by decide⟩
  · exact (hunset steps 1 "abc" hplain (by decide) rfl).2 (Or.inl (by decide))
  · refine habsent.mpr fun x hx found ha => hnone x hx ?_
    exact Environment.key_eq_of_answers (he.equalsSign_notMem x hx) ha

end Program

end CountedStrings
