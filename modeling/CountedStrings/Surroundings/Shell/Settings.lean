import CountedStrings.Surroundings.Shell.Descriptor

/-!
# Options of the interpreter

An option is switched on and off by its letter or by its name.  Two of them have no letter; the
state knows them by a character that cannot be given.
-/

namespace CountedStrings.Shell

/-- An option of the interpreter. -/
structure Setting where
  name : String
  letter : Char
  /-- Whether the letter can be given. -/
  isGiven : Bool

namespace Setting

/-- All options, in the order in which they are listed. -/
def all : List Setting :=
  [⟨"errexit", 'e', true⟩, ⟨"noglob", 'f', true⟩, ⟨"ignoreeof", 'I', true⟩,
    ⟨"interactive", 'i', true⟩, ⟨"monitor", 'm', true⟩, ⟨"noexec", 'n', true⟩,
    ⟨"stdin", 's', true⟩, ⟨"xtrace", 'x', true⟩, ⟨"verbose", 'v', true⟩, ⟨"vi", 'V', true⟩,
    ⟨"emacs", 'E', true⟩, ⟨"noclobber", 'C', true⟩, ⟨"allexport", 'a', true⟩,
    ⟨"notify", 'b', true⟩, ⟨"nounset", 'u', true⟩, ⟨"privileged", 'p', true⟩,
    ⟨"nolog", 'l', false⟩, ⟨"debug", 'd', false⟩]

/-- Switches an option on or off. -/
def switch (letter : Char) (on : Bool) : Run Unit :=
  modify fun s =>
    let others := s.options.filter (· ≠ letter)
    let others := match letter, on with
      | 'V', true => others.filter (· ≠ 'E')
      | 'E', true => others.filter (· ≠ 'V')
      | _, _ => others
    { s with options := if on then letter :: others else others }

/-- Switches the option of a letter. -/
def switchLetter (letter : Char) (on : Bool) : Run Unit := do
  if all.any fun o => o.isGiven && o.letter = letter then switch letter on
  else misuse ("Illegal option -" ++ letter.toString)

/-- Switches the option of a name. -/
def switchName (name : String) (on : Bool) : Run Unit := do
  match all.find? fun o => o.name = name with
  | some o => switch o.letter on
  | none => misuse ("Illegal option -o " ++ name)

/-- A text at the left end of a column. -/
def inColumn (width : Nat) (text : String) : String :=
  text ++ String.ofList (List.replicate (width - text.length) ' ')

/-- Lists all options with their states, or as commands that bring the states about. -/
def list (asCommands : Bool) : Run Unit := do
  if !asCommands then print "Current option settings\n"
  for o in all do
    let on ← hasOption o.letter
    if asCommands then print ("set " ++ (if on then "-o " else "+o ") ++ o.name ++ "\n")
    else print (inColumn 16 o.name ++ (if on then "on" else "off") ++ "\n")

/-- Switches options as an argument says whose sign was read; gives the arguments behind it. -/
def switchLetters (on : Bool) : List Char → List String → Run (List String)
  | [], rest => return rest
  | 'o' :: letters, name :: rest => do
    switchName name on
    switchLetters on letters rest
  | 'o' :: letters, [] => do
    list (!on)
    switchLetters on letters []
  | c :: letters, rest => do
    switchLetter c on
    switchLetters on letters rest

end Setting

end CountedStrings.Shell
