import CountedStrings.Surroundings.Shell.Descriptor
import CountedStrings.Surroundings.Shell.Number

/-!
# Variables of the interpreter

## 1.  Values

A variable may be *exported*, so that programs find it in their environment, and it may be *fixed*,
so that giving it a value is an error.  Some values matter to the interpreter itself: with another
`PATH` programs are looked for anew, and `OPTIND` says where the reading of options stands.

## 2.  Names taken for a while

Functions, and commands behind assignments, take names for themselves.  What stood under the names
before is kept, and put back at the end.

## 3.  Listings

Variables are listed in the order of their names, with their values in quotes (`quote`).
-/

namespace CountedStrings.Shell

/-! ## 1.  Values -/

/-- The value of a variable. -/
def valueOf? (name : String) : Run (Option String) := do
  return ((← get).vars.get? name).bind (·.value)

/-- What is known about a variable. -/
def variableNamed (name : String) : Run Variable := do
  return ((← get).vars.get? name).getD .unknown

/-- Puts a variable under a name. -/
def putVariable (name : String) (v : Variable) : Run Unit :=
  modify fun s => { s with vars := s.vars.insert name v }

/-- Does what a new value of a variable means to the interpreter itself. -/
def noticeValue (name value : String) : Run Unit := do
  match name with
  | "PATH" => modify fun s => { s with found := ∅ }
  | "OPTIND" =>
    match Number.ofText? (some 10) value with
    | some n =>
      modify fun s => { s with optionIndex := if n ≤ 0 then 1 else n.toNat, lettersRead := 0 }
    | none => misuse ("Illegal number: " ++ value)
  | _ => return

/-- Gives a value to a variable, exports it on request, and fixes it on request. -/
def assignVariable (name value : String) (export_ fix : Bool) : Run Unit := do
  if !isName name then misuse (name ++ ": bad variable name")
  let old ← variableNamed name
  if old.fixed then misuse (name ++ ": is read only")
  noticeValue name value
  let exported := old.exported || export_ || (← hasOption 'a')
  putVariable name ⟨some value, exported, fix⟩

/-- Gives a value to a variable. -/
def setVariable (name value : String) : Run Unit := assignVariable name value false false

/-- Forgets a variable. -/
def unsetVariable (name : String) : Run Unit := do
  if !isName name then misuse (name ++ ": bad variable name")
  if (← variableNamed name).fixed then misuse (name ++ ": is read only")
  if name = "PATH" then modify fun s => { s with found := ∅ }
  modify fun s => { s with vars := s.vars.erase name }

/-- The variables that an environment gives to an interpreter. -/
def variablesOf (entries : List (String × String)) : Table String Variable :=
  .ofList (entries.filterMap fun (name, value) =>
    if isName name then some (name, ⟨some value, true, false⟩) else none)

/-- The environment that the interpreter gives to programs. -/
def exportedEntries (s : State) : List (String × String) :=
  s.vars.entries.filterMap fun (name, v) =>
    if v.exported then v.value.map fun value => (name, value) else none

/-- The place of a name among others: the remainder of a sum over its characters. -/
def bucket (places : Nat) (name : String) : Nat :=
  let cs := name.toList.map Char.toNat
  (cs.headD 0 * 16 + cs.foldl (· + ·) 0) % places

/-- The entries of a table in the order of the places of their names. -/
def byBucket {α : Type} (places : Nat) (entries : List (String × α)) : List (String × α) :=
  entries.mergeSort fun a b => bucket places a.1 ≤ bucket places b.1

/-- The environment in the order in which programs are given it. -/
def orderedEntries (s : State) : List (String × String) := byBucket 39 (exportedEntries s)

/-! ## 2.  Names taken for a while -/

/-- Keeps what stands under a name, unless that was done already. -/
def keepName (name : String) : Run Unit :=
  modify fun s =>
    match s.outer with
    | [] => s
    | o :: rest =>
      if o.vars.contains name then s
      else
        let o := { o with vars := o.vars.insert name (s.vars.get? name) }
        { s with outer := o :: rest }

/-- Takes a name, with a value or without.  That a text is no name is noticed at once only if there is
no value. -/
def takeName (name : String) (value : Option String) (export_ : Bool) : Run Unit := do
  match value with
  | some value =>
    keepName name
    if isName name then assignVariable name value export_ false
    else putVariable name ⟨some value, export_, false⟩
  | none =>
    if !isName name then misuse (name ++ ": bad variable name")
    keepName name

/-- Puts back what stood under a name. -/
def putBackName (name : String) (old : Option Variable) : Run Unit := do
  if !isName name then misuse (name ++ ": bad variable name")
  if name = "PATH" then modify fun s => { s with found := ∅ }
  modify fun s =>
    { s with vars := old.elim (s.vars.erase name) (s.vars.insert name) }

/-- Runs something that may take names, and puts back what stood under them, the last one first. -/
def takingNames (run : Run Unit) : Run Unit := do
  let outer := (← get).outer
  modify fun s => { s with outer := ⟨∅, none⟩ :: s.outer }
  let stop ← attempt run
  let taken := (← get).outer.head?
  modify fun s => { s with outer := outer, options := (taken.bind (·.options)).getD s.options }
  let entries := (taken.elim [] (·.vars.entries)).reverse
  match stop with
  | none => for (name, old) in entries do putBackName name old
  | some stop => do
    for (name, old) in entries do
      if isName name then putBackName name old
    throw stop

/-! ## 3.  Listings -/

/-- A text in quotes, quotes in it in quotes of the other kind; for a text of the given length. -/
def quoteWithin : Nat → List Char → List Char
  | 0, _ => []
  | length + 1, cs =>
    let plain := cs.takeWhile (· ≠ '\'')
    let rest := cs.drop plain.length
    let quotes := rest.takeWhile (· = '\'')
    let behind := rest.drop quotes.length
    let first := '\'' :: plain ++ ['\'']
    if quotes.isEmpty then first
    else
      let first := first ++ '"' :: quotes ++ ['"']
      if behind.isEmpty then first else first ++ quoteWithin length behind

/-- A text in quotes. -/
def quote (text : String) : String :=
  let cs := text.toList
  String.ofList (quoteWithin (cs.length + 1) cs)

/-- A variable in a listing. -/
def listedVariable (name : String) (v : Variable) : String :=
  name ++ (v.value.map ("=" ++ quote ·)).getD ""

/-- Lists the variables that a test holds for, each behind a beginning. -/
def listVariables (beginning : String) (holds : Variable → Bool) : Run Unit := do
  let entries := (← get).vars.entries.mergeSort fun a b => a.1 ≤ b.1
  for (name, v) in entries do
    if holds v then print (beginning ++ listedVariable name v ++ "\n")

end CountedStrings.Shell
