import CountedStrings.Surroundings.Shell.Utility.Path

/-!
# Owners

`chown` and `chgrp` give files to users and groups.  Names stand for numbers, and a number stands for
itself.

## 1.  Names

Whom files are given to is said in one word: a user, a colon and a group, each of which may be missing.
Behind a user's name, the colon alone stands for the user's own group.

## 2.  Giving away

What is told of a file names the user and the group as they were given, and those whom the file belonged
to by their names.
-/

namespace CountedStrings.Shell.Utility

/-! ## 1.  Names -/

/-- The names of users. -/
def userNames : List (String × Nat) :=
  [("root", 0), ("daemon", 1), ("bin", 2), ("sys", 3), ("sync", 4), ("games", 5), ("man", 6),
    ("lp", 7), ("mail", 8), ("news", 9), ("uucp", 10), ("proxy", 13), ("www-data", 33),
    ("backup", 34), ("list", 38), ("irc", 39), ("_apt", 42), ("nobody", 65534)]

/-- The names of groups. -/
def groupNames : List (String × Nat) :=
  [("root", 0), ("daemon", 1), ("bin", 2), ("sys", 3), ("adm", 4), ("tty", 5), ("disk", 6),
    ("lp", 7), ("mail", 8), ("news", 9), ("uucp", 10), ("man", 12), ("proxy", 13), ("kmem", 15),
    ("dialout", 20), ("fax", 21), ("voice", 22), ("cdrom", 24), ("floppy", 25), ("tape", 26),
    ("sudo", 27), ("audio", 29), ("dip", 30), ("www-data", 33), ("backup", 34), ("operator", 37),
    ("list", 38), ("irc", 39), ("src", 40), ("shadow", 42), ("utmp", 43), ("video", 44),
    ("sasl", 45), ("plugdev", 46), ("staff", 50), ("games", 60), ("users", 100),
    ("nogroup", 65534)]

/-- The number that a text stands for, given what names stand for.  A name has no plus sign in front. -/
def ownerNumber? (names : List (String × Nat)) (text : String) : Option Nat :=
  match names.lookup text with
  | some n => some n
  | none =>
    let digits := String.ofList (text.toList.dropWhile (· = ' '))
    let digits := if digits.startsWith "+" then (digits.drop 1).toString else digits
    (Number.ofDigits? digits).filter (· < Nat.pow 2 32 - 1)

/-- The name of a number, or its digits. -/
def ownerName (names : List (String × Nat)) (n : Nat) : String :=
  ((names.find? fun (_, m) => m = n).map (·.1)).getD (toString n)

/-- A user or a group. -/
structure Party where
  number : Nat
  /-- What it is called where files are given to it. -/
  word : String

/-- Whom a file is given to. -/
structure Owner where
  user : Option Party
  group : Option Party
  /-- Whether the user is left out where both are told. -/
  isUserUnsaid : Bool

/-- The user or the group that a text stands for. -/
def Party.ofText? (names : List (String × Nat)) (text : String) : Option Party :=
  (ownerNumber? names text).map fun n =>
    ⟨n, if (names.lookup text).isSome then text else toString n⟩

/-- Why a word does not say whom files are given to. -/
inductive OwnerError where
  | user
  | group
  /-- The user that should bring the group along has none. -/
  | ownGroup

/-- What is said of a word that does not say whom files are given to. -/
def OwnerError.message : OwnerError → String
  | .user => "invalid user: "
  | .group => "invalid group: "
  | .ownGroup => "invalid spec: "

/-- The owner that a user and a group stand for, the second of which is there if it was set off. -/
def Owner.ofParts (user : String) (group : Option String) : Except OwnerError Owner := do
  let isKnown := (userNames.lookup user).isSome
  let userParty ←
    if user = "" then pure none
    else if group = some "" && !isKnown then throw .ownGroup
    else
      match Party.ofText? userNames user with
      | some party => pure (some party)
      | none => throw .user
  let groupParty ←
    match group, userParty with
    | none, _ | some "", none => pure none
    | some "", some party =>
      let number := if user = "sync" || user = "nobody" || user = "_apt" then 65534
        else if user = "games" then 60 else if user = "man" then 12 else party.number
      pure (some ⟨number, ownerName groupNames number⟩)
    | some text, _ =>
      match Party.ofText? groupNames text with
      | some party => pure (some party)
      | none => throw .group
  let hasGroupName := match group with
    | some "" => isKnown
    | some text => (groupNames.lookup text).isSome
    | none => false
  return ⟨userParty, groupParty, !isKnown && hasGroupName⟩

/-- Reads a user, a colon and a group, each of which may be missing.  A point may stand for the colon. -/
def readOwner (name text : String) : Run Owner := do
  let split (mark : Char) : String × Option String :=
    let cs := text.toList
    let user := cs.takeWhile (· ≠ mark)
    (String.ofList user,
      if user.length = cs.length then none else some (String.ofList (cs.drop (user.length + 1))))
  let (user, group) := split ':'
  match Owner.ofParts user group with
  | .ok owner => return owner
  | .error e => do
    if group.isNone then
      let (user, group) := split '.'
      if group.isSome then
        if let .ok owner := Owner.ofParts user group then
          report name ("warning: '.' should be ':': " ++ (← cited text))
          return owner
    fail name (e.message ++ (← cited text)) 1

/-- A user and a group in one word. -/
def ownerWord : Option String → Option String → Option String
  | some user, some group => some (user ++ ":" ++ group)
  | some user, none => some user
  | none, group => group

/-- What is told of a user: nothing stands for one who is left out. -/
def Owner.userWord (o : Owner) : Option String :=
  if o.isUserUnsaid then some "" else o.user.map (·.word)

/-! ## 2.  Giving away -/

/-- The options of `chown` and `chgrp`. -/
def ownerSyntax : Syntax where
  flags := "RcfhvHLP"
  valued := ""
  long := [⟨"changes", 'c', .no⟩, ⟨"dereference", 'D', .no⟩, ⟨"no-dereference", 'h', .no⟩,
    ⟨"from", 'F', .yes⟩, ⟨"no-preserve-root", 'N', .no⟩, ⟨"preserve-root", 'p', .no⟩,
    ⟨"quiet", 'f', .no⟩, ⟨"silent", 'f', .no⟩, ⟨"recursive", 'R', .no⟩, ⟨"reference", 'Q', .yes⟩,
    ⟨"verbose", 'v', .no⟩]
  permutes := true
  status := 1

/-- What is given away, and to whom, in words. -/
def Owner.object (o : Owner) : String :=
  if o.userWord.isNone && o.group.isSome then "group" else "ownership"

/-- Says whom a file was given to that belonged to others. -/
def Owner.tell (o : Owner) (given : List Given) (path : String) (old : Nat × Nat) (isFit : Bool) :
    Run Unit := do
  let isSame := !isFit || ((o.user.map (·.number)).getD old.1 = old.1 &&
    (o.group.map (·.number)).getD old.2 = old.2)
  let isTold := match lastOf given ['v', 'c'] with
    | some 'v' => true
    | some _ => !isSame
    | none => false
  if isTold then
    let oldWord := ownerWord (o.userWord.map fun _ => ownerName userNames old.1)
      (o.group.map fun _ => ownerName groupNames old.2)
    let newWord := ownerWord o.userWord (o.group.map (·.word))
    if isSame then
      print (o.object ++ " of " ++ quoted path ++ " retained" ++
        (match oldWord with
        | some word => " as " ++ word
        | none => "") ++ "\n")
    else
      print ("changed " ++ o.object ++ " of " ++ quoted path ++ " from " ++ oldWord.getD "" ++ " to " ++
        newWord.getD "" ++ "\n")

/-- Gives a node and all that lies in it away, down to a depth, as far as it belongs to those whom it is
taken from. -/
def Owner.give (o : Owner) (given : List Given) (source : Owner) : Nat → String → Nat → Run Unit
  | 0, _, _ => return
  | depth + 1, path, id => do
    let files := (← get).files
    if has given 'R' && files.isDirectory id then
      for (entry, child) in (files.entriesOf id).entries do
        o.give given source depth (pathInto path (Bytes.toByteText entry)) child
    let old := ownerOf files id
    let isFit := (source.user.map (·.number)).getD old.1 = old.1 &&
      (source.group.map (·.number)).getD old.2 = old.2
    if isFit then
      changeFiles fun files => setOwner files id (o.user.map (·.number)) (o.group.map (·.number))
    o.tell given path old isFit

/-- Gives files away; `read` makes an owner of the argument that says to whom, and `like` of a user and a
group that have a file already. -/
def givingAway (read : String → String → Run Owner) (like : Party → Party → Owner) : Body :=
    fun name arguments => do
  let (given, operands) ← options name ownerSyntax arguments
  let reference := valueOf given 'Q'
  match operands with
  | [] => missingOperand name 1
  | [word] =>
    if reference.isNone then misused name ("missing operand after " ++ (← cited word)) 1
  | _ => pure ()
  let source : Owner ←
    match valueOf given 'F' with
    | some text => readOwner name text
    | none => pure ⟨none, none, false⟩
  let owner ←
    match reference with
    | none => read name (operands.headD "")
    | some path =>
      match ← nodeAt path with
      | .ok id =>
        let (user, group) := ownerOf (← get).files id
        pure (like ⟨user, ownerName userNames user⟩ ⟨group, ownerName groupNames group⟩)
      | .error e => fail name ("failed to get attributes of " ++ quoted path ++ ": " ++ e.message) 1
  let files := if reference.isSome then operands else operands.drop 1
  let status ← forEachOperand files fun operand => do
    let node ← if has given 'h' then linkAt operand else nodeAt operand
    match node with
    | .ok id =>
      owner.give given source (← get).files.nodes.size operand id
      return true
    | .error e =>
      if !has given 'f' then
        let verb := if (← linkAt operand).toOption.isSome then "cannot dereference " else "cannot access "
        report name (verb ++ quoted operand ++ ": " ++ e.message)
      if has given 'v' then
        print ("failed to change " ++ owner.object ++ " of " ++ quoted operand ++
          (match ownerWord owner.userWord (owner.group.map (·.word)) with
          | some word => " to " ++ word
          | none => "") ++ "\n")
      return false
  finish name status

/-- Gives files to users and groups. -/
def chown : Body := givingAway readOwner fun user group => ⟨some user, some group, false⟩

/-- Gives files to groups. -/
def chgrp : Body :=
  givingAway
    (fun name text => do
      if text = "" then return ⟨none, none, false⟩
      match Party.ofText? groupNames text with
      | some party => return ⟨none, some { party with word := text }, false⟩
      | none => fail name ("invalid group: " ++ (← cited text)) 1)
    fun _ group => ⟨none, some group, false⟩

end CountedStrings.Shell.Utility
