import CountedStrings.Surroundings.Shell.Utility.Basic

/-!
# Orders of names

## 1.  Orders that keep a relation

`tsort` reads pairs of names and prints the names in an order in which the first of each pair stands in
front of the second.  Where pairs lead in a circle, it says so and forgets one of them.

## 2.  Orders that nobody can foresee

`shuf` prints lines in an order of its own choice.
-/

namespace CountedStrings.Shell.Utility

/-! ## 1.  Orders that keep a relation -/

/-- Names with pairs of them. -/
structure Precedence where
  /-- The names in the order of their characters. -/
  names : Array String
  /-- The names behind each name, those that were read last in front. -/
  followers : Array (List Nat)
  /-- How many names that are not printed yet stand in front of each name. -/
  waits : Array Nat
  isPrinted : Array Bool
  /-- The next name of the chain that is followed, for each name in it. -/
  links : Array (Option Nat)
  /-- The name at the end of the chain. -/
  chain : Option Nat

namespace Precedence

/-- The pairs among names that were read. -/
def pairsOf : List String → List (String × String)
  | a :: b :: rest => (a, b) :: pairsOf rest
  | _ => []

/-- Names and pairs that were read. -/
def ofTokens (tokens : List String) : Precedence :=
  let names := ((tokens.mergeSort fun a b => a ≤ b).foldr
    (fun name (found : List String) => if found.head? = some name then found else name :: found) [])
  let places : Table String Nat := .ofList names.zipIdx
  let empty : Precedence :=
    ⟨names.toArray, Array.replicate names.length [], Array.replicate names.length 0,
      Array.replicate names.length false, Array.replicate names.length none, none⟩
  (pairsOf tokens).foldl (fun p (a, b) =>
    match places.get? a, places.get? b with
    | some i, some j =>
      if i = j then p
      else
        { p with followers := p.followers.modify i (j :: ·), waits := p.waits.modify j (· + 1) }
    | _, _ => p) empty

/-- The name of a number. -/
def name (p : Precedence) (i : Nat) : String := p.names[i]?.getD ""

/-- Whether nothing that is not printed stands in front of a name. -/
def isFree (p : Precedence) (i : Nat) : Bool :=
  p.waits[i]? = some 0 && p.isPrinted[i]? = some false

/-- Prints names that are free, and those that become free by that, one behind the other.  The budget
has to be at least the number of names. -/
def release (p : Precedence) : Nat → List Nat → List String × Precedence
  | 0, _ | _, [] => ([], p)
  | budget + 1, i :: queue =>
    let behind := p.followers[i]?.getD []
    let waits := behind.foldl (fun (waits : Array Nat) j => waits.modify j (· - 1)) p.waits
    let freed := behind.filter fun j => waits[j]? = some 0
    let after := { p with waits := waits, isPrinted := p.isPrinted.setIfInBounds i true }
    let (others, after) := after.release budget (queue ++ freed)
    (p.name i :: others, after)

/-- The names of a circle, from the end of the chain to a name in it, with the chain taken apart as far
as that. -/
def circle (p : Precedence) (stop : Nat) : Nat → Nat → List Nat × Precedence
  | 0, _ => ([], p)
  | budget + 1, i =>
    if i = stop then ([i], p)
    else
      let next := (p.links[i]?).join
      let cut := { p with links := p.links.setIfInBounds i none }
      match next with
      | none => ([i], cut)
      | some j =>
        let (others, cut) := cut.circle stop budget j
        (i :: others, cut)

/-- The chain taken apart from a name on. -/
def unlink (p : Precedence) : Nat → Nat → Precedence
  | 0, _ => p
  | budget + 1, i =>
    let next := (p.links[i]?).join
    let cut := { p with links := p.links.setIfInBounds i none }
    match next with
    | none => cut
    | some j => cut.unlink budget j

/-- Looks at one name while a circle is looked for: it may become the end of the chain, or close a
circle. -/
def follow (p : Precedence) (k : Nat) : Option (List Nat) × Precedence :=
  if p.waits[k]?.getD 0 = 0 || p.isPrinted[k]?.getD false then (none, p)
  else
    match p.chain with
    | none => (none, { p with chain := some k })
    | some last =>
      let behind := p.followers[k]?.getD []
      if !behind.contains last then (none, p)
      else
        match (p.links[k]?).join with
        | none => (none, { p with links := p.links.setIfInBounds k (some last), chain := some k })
        | some _ =>
          let budget := p.names.size + 1
          let (found, cut) := p.circle k budget last
          let cut := { cut with
            followers := cut.followers.modify k (·.erase last)
            waits := cut.waits.modify last (· - 1) }
          (some found, { cut.unlink budget k with chain := none })

/-- Goes through names while a circle is looked for. -/
def walk (p : Precedence) : List Nat → Option (List Nat) × Precedence
  | [] => (none, p)
  | k :: rest =>
    match p.follow k with
    | (some found, p) => (some found, p)
    | (none, p) => p.walk rest

/-- Finds a circle, and forgets a pair of it.  The budget bounds how often all names are gone
through. -/
def breakCircle (p : Precedence) : Nat → List Nat × Precedence
  | 0 => ([], p)
  | budget + 1 =>
    match p.walk (List.range p.names.size) with
    | (some found, p) => (found, p)
    | (none, p) => p.breakCircle budget

end Precedence

/-- Prints all names that are left; complains about circles.  The budget has to be more than the number
of pairs. -/
def arrange (name title : String) : Nat → Nat → Precedence → Run Nat
  | 0, status, _ => return status
  | budget + 1, status, p => do
    let free := (List.range p.names.size).filter p.isFree
    let (printed, p) := p.release (p.names.size + 1) free
    for word in printed do print (word ++ "\n")
    if p.isPrinted.all id then return status
    report name (title ++ ": input contains a loop:")
    let (found, p) := p.breakCircle (p.names.size + 2)
    for i in found do report name (p.name i)
    arrange name title budget 1 p

/-- Prints names in an order that pairs of them allow. -/
def tsort : Body := fun name arguments => do
  let (_, operands) ← options name ⟨"", "", [], true, 1⟩ arguments
  if let _ :: extra :: _ := operands then extraOperand name extra 1
  let operand := operands.headD "-"
  let title := quotedIfNeeded true operand
  match ← contentOf operand with
  | .error (.opening e) => fail name (title ++ ": " ++ e.message) 1
  | .error (.reading e) => fail name (title ++ ": read error: " ++ e.message) 1
  | .ok bytes => do
    let isGap (c : Char) : Bool := c = ' ' || c = '\t' || c = '\n'
    let words := ((textOf bytes).toList.splitBy fun a b => isGap a = isGap b).filter fun word =>
      !word.any isGap
    let tokens := words.map String.ofList
    if tokens.length % 2 = 1 then
      fail name (title ++ ": input contains an odd number of tokens") 1
    finish name (← arrange name title (tokens.length + 1) 0 (.ofTokens tokens))

/-! ## 2.  Orders that nobody can foresee -/

/-- The options of `shuf`. -/
def shufSyntax : Syntax where
  flags := "erz"
  valued := "ino"
  long := [⟨"echo", 'e', .no⟩, ⟨"input-range", 'i', .yes⟩, ⟨"head-count", 'n', .yes⟩,
    ⟨"output", 'o', .yes⟩, ⟨"random-source", 'R', .yes⟩, ⟨"repeat", 'r', .no⟩,
    ⟨"zero-terminated", 'z', .no⟩]
  permutes := true
  status := 1

/-- The numbers from one to another that a text names, the first of them and how many there are. -/
def numberRange (name text : String) : Run (Nat × Nat) := do
  match (text.splitOn "-").map Number.ofDigits? with
  | [some first, some last] =>
    if last + 1 < first then fail name ("invalid input range: " ++ (← cited text)) 1
    return (first, last + 1 - first)
  | _ => fail name ("invalid input range: " ++ (← cited text)) 1

/-- The lines that are printed in another order. -/
def shufInput (name : String) (given : List Given) (operands : List String) :
    Run (List String) := do
  let mark := recordMark given
  if has given 'e' then return operands
  else
    match valueOf given 'i' with
    | some text => do
      let (first, count) ← numberRange name text
      return (List.range count).map fun i => toString (first + i)
    | none =>
      match ← contentOf (operands.headD "-") with
      | .ok bytes => return recordsOf mark (textOf bytes)
      | .error (.opening e) => fail name (operands.headD "-" ++ ": " ++ e.message) 1
      | .error (.reading e) => fail name ("read error: " ++ e.message) 1

/-- Prints lines in another order: the last one first. -/
def shuf : Body := fun name arguments => do
  let (given, operands) ← options name shufSyntax arguments
  let ranges := given.filter fun (letter, _) => letter = 'i'
  if 1 < ranges.length then fail name "multiple -i options specified" 1
  for (_, text) in ranges do discard (numberRange name text)
  let counts ← (given.filter fun (letter, _) => letter = 'n').mapM fun (_, text) => do
    match Number.ofDigits? text with
    | some n => return n
    | none => fail name ("invalid line count: " ++ (← cited text)) 1
  if has given 'e' && !ranges.isEmpty then misused name "cannot combine -e and -i options" 1
  let most := if has given 'e' then operands.length else if ranges.isEmpty then 1 else 0
  if let extra :: _ := operands.drop most then extraOperand name extra 1
  let lines ← if counts.contains 0 then pure [] else shufInput name given operands
  let lines := lines.reverse
  let lines ←
    if has given 'r' && !counts.contains 0 then do
      if lines.isEmpty then fail name "no lines to repeat" 1
      let wanted := (counts.min?).getD pipeRoom
      let all := lines.toArray
      pure ((List.range wanted).map fun i => all[i % all.size]?.getD "")
    else pure (match counts.min? with
      | some n => lines.take n
      | none => lines)
  let text := String.join (lines.map (· ++ (recordMark given).toString))
  match valueOf given 'o' with
  | none =>
    print text
    finish name 0
  | some path =>
    match ← openForWriting path true false false with
    | .error e => fail name (path ++ ": " ++ e.message) 1
    | .ok number =>
      setDescriptor scratchDescriptor number
      discard (write scratchDescriptor (bytesOf text))
      closeDescriptor scratchDescriptor
      return 0

end CountedStrings.Shell.Utility
