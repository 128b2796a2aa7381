/-!
# Finite tables

A table assigns values to finitely many keys and remembers the order in which the keys first came.
Names of strings, slots of threads, variables of the environment, entries of a directory and
variables of a shell are all kept in tables.

Only the look-up is a view of a table: two tables with the same look-ups may list their keys in
different orders.  The look-up after each operation is given by `get?_insert` and `get?_erase`.
-/

namespace CountedStrings

universe u v

/-- Values for finitely many keys, in the order in which the keys came. -/
structure Table (κ : Type u) (α : Type v) where
  /-- The keys with their values. -/
  entries : List (κ × α)

namespace Table

variable {κ : Type u} {α : Type v}

/-- The table without keys. -/
def empty : Table κ α := ⟨[]⟩

instance : EmptyCollection (Table κ α) := ⟨empty⟩

/-- The table of a list of pairs.  Of two pairs with one key the first is seen. -/
def ofList (entries : List (κ × α)) : Table κ α := ⟨entries⟩

/-- The keys, in order. -/
def keys (t : Table κ α) : List κ := t.entries.map (·.1)

variable [DecidableEq κ]

/-- The value of the first entry with the given key. -/
def find (key : κ) : List (κ × α) → Option α
  | [] => none
  | entry :: rest => if entry.1 = key then some entry.2 else find key rest

/-- The value of a key. -/
def get? (t : Table κ α) (key : κ) : Option α := find key t.entries

/-- Puts a value in place of the first entry with its key, or at the end. -/
def put (key : κ) (value : α) : List (κ × α) → List (κ × α)
  | [] => [(key, value)]
  | entry :: rest => if entry.1 = key then (key, value) :: rest else entry :: put key value rest

/-- The table with one value set. -/
def insert (t : Table κ α) (key : κ) (value : α) : Table κ α := ⟨put key value t.entries⟩

/-- The table without one key. -/
def erase (t : Table κ α) (key : κ) : Table κ α := ⟨t.entries.filter (fun entry => entry.1 ≠ key)⟩

/-- Whether a key has a value. -/
def contains (t : Table κ α) (key : κ) : Bool := (t.get? key).isSome

@[simp] theorem get?_empty (key : κ) : (∅ : Table κ α).get? key = none := rfl

theorem find_put (key key' : κ) (value : α) (entries : List (κ × α)) :
    find key' (put key value entries) = if key = key' then some value else find key' entries := by
  induction entries with
  | nil => simp [put, find]
  | cons entry rest ih =>
    by_cases h : entry.1 = key
    · by_cases h' : key = key' <;> simp_all [put, find]
    · by_cases h' : entry.1 = key'
      · have : key ≠ key' := fun hk => h (h'.trans hk.symm)
        simp_all [put, find]
      · simp_all [put, find]

/-- Setting a value changes the look-up of its key and of no other. -/
theorem get?_insert (t : Table κ α) (key key' : κ) (value : α) :
    (t.insert key value).get? key' = if key = key' then some value else t.get? key' :=
  find_put key key' value t.entries

@[simp] theorem get?_insert_self (t : Table κ α) (key : κ) (value : α) :
    (t.insert key value).get? key = some value := by
  simp [get?_insert]

theorem get?_insert_of_ne (t : Table κ α) {key key' : κ} (h : key ≠ key') (value : α) :
    (t.insert key value).get? key' = t.get? key' := by
  simp [get?_insert, h]

theorem find_filter_ne (key key' : κ) (entries : List (κ × α)) :
    find key' (entries.filter (fun entry => entry.1 ≠ key)) =
      if key = key' then none else find key' entries := by
  induction entries with
  | nil => simp [find]
  | cons entry rest ih =>
    by_cases h : entry.1 = key
    · by_cases h' : key = key' <;> simp_all [find]
    · by_cases h' : entry.1 = key'
      · have : key ≠ key' := fun hk => h (h'.trans hk.symm)
        simp_all [find]
      · simp_all [find]

/-- Erasing changes the look-up of one key and of no other. -/
theorem get?_erase (t : Table κ α) (key key' : κ) :
    (t.erase key).get? key' = if key = key' then none else t.get? key' :=
  find_filter_ne key key' t.entries

@[simp] theorem get?_erase_self (t : Table κ α) (key : κ) : (t.erase key).get? key = none := by
  simp [get?_erase]

theorem get?_erase_of_ne (t : Table κ α) {key key' : κ} (h : key ≠ key') :
    (t.erase key).get? key' = t.get? key' := by
  simp [get?_erase, h]

end Table

end CountedStrings
