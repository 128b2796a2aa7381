import CountedStrings.Surroundings.Shell.Builtin.Arguments
import CountedStrings.Surroundings.Shell.Field
import CountedStrings.Surroundings.Shell.Settings

/-!
# Built-in commands about variables

The commands that set, mark, list and forget variables, functions, arguments and options, and those
that put into variables what they read (`read`) or what the next option is (`getopts`).
-/

namespace CountedStrings.Shell.Builtin

/-! ## 1.  Marks -/

/-- The name in front of the first `=` of an argument, and the value behind it. -/
def nameAndValue (argument : String) : String × Option String :=
  let cs := argument.toList
  let name := cs.takeWhile (· ≠ '=')
  match cs.drop name.length with
  | [] => (argument, none)
  | _ :: value => (String.ofList name, some (String.ofList value))

/-- Marks a variable, with a new value on request. -/
def markVariable (argument : String) (exports fixes : Bool) : Run Unit := do
  match nameAndValue argument with
  | (name, some value) => assignVariable name value exports fixes
  | (name, none) =>
    match (← get).vars.get? name with
    | some v =>
      putVariable name { v with exported := v.exported || exports, fixed := v.fixed || fixes }
    | none => do
      if !isName name then misuse (name ++ ": bad variable name")
      putVariable name ⟨none, exports, fixes⟩

/-- Marks variables, or lists those that are marked. -/
def mark (name : String) (exports fixes : Bool) : Body := fun arguments => do
  let (given, names) ← options "p" "" arguments
  if names.isEmpty || !given.isEmpty then
    listVariables (name ++ " ") fun v => if exports then v.exported else v.fixed
  else
    for argument in names do markVariable argument exports fixes
  return 0

/-- Forgets variables or functions. -/
def unset : Body := fun arguments => do
  let (given, names) ← options "vf" "" arguments
  let functions := given.getLast?.any fun (letter, _) => letter = 'f'
  for name in names do
    if functions then modify fun s => { s with functions := s.functions.erase name }
    else unsetVariable name
  return 0

/-- Lets the function that is running have a variable, or the options, for itself. -/
def takeForFunction (argument : String) : Run Unit := do
  if argument = "-" then
    modify fun s =>
      match s.outer with
      | [] => s
      | o :: rest => { s with outer := { o with options := o.options.or (some s.options) } :: rest }
  else
    let (name, value) := nameAndValue argument
    takeName name value false

/-- Lets the function that is running have variables for itself. -/
def local_ : Body := fun arguments => do
  if (← get).outer.isEmpty then misuse "not in a function"
  for argument in arguments do takeForFunction argument
  return 0

/-! ## 2.  Arguments and options -/

/-- Gives the interpreter other arguments. -/
def setArguments (arguments : List String) : Run Unit :=
  modify fun s => { s with arguments := arguments, optionIndex := 1, lettersRead := 0 }

/-- Switches options as arguments say, and gives the others to the interpreter.  The budget has to be
more than the number of arguments. -/
def switchOptions : Nat → List String → Run Unit
  | 0, _ | _, [] => return
  | budget + 1, argument :: rest => do
    match argument.toList with
    | ['-'] => do
      Setting.switch 'x' false
      Setting.switch 'v' false
      if !rest.isEmpty then setArguments rest
    | ['-', '-'] => setArguments rest
    | sign :: letters =>
      if sign = '-' || sign = '+' then do
        let rest ← Setting.switchLetters (sign = '-') letters rest
        switchOptions budget rest
      else setArguments (argument :: rest)
    | [] => setArguments (argument :: rest)

/-- Switches options and sets arguments, or lists the variables. -/
def set_ : Body := fun arguments => do
  if arguments.isEmpty then listVariables "" (·.value.isSome)
  else switchOptions (arguments.length + 1) arguments
  return 0

/-- Drops arguments from the front. -/
def shift : Body := fun arguments => do
  let n ← match arguments with
    | [] => pure 1
    | text :: _ => count text
  if (← get).arguments.length < n then misuse "can't shift that many"
  let rest := (← get).arguments.drop n
  setArguments rest
  return 0

/-- Where the reading of options stands. -/
structure OptionReading where
  /-- The letter that was read, or what stands in its place. -/
  letter : Char
  /-- Whether there are no more options. -/
  finished : Bool
  index : Nat
  lettersRead : Nat

/-- Reads a letter behind which the given letters stand, in an argument behind which the given ones
stand. -/
def readLetter (wanted : List Char) (c : Char) (letters : List Char) (rest : List String)
    (index lettersRead : Nat) : Run OptionReading := do
  let quiet := wanted.head? = some ':'
  let behind := (wanted.dropWhile (· ≠ c)).drop 1
  let here := if letters.isEmpty then 0 else lettersRead
  let problem (text : String) (instead : Char) (index here : Nat) : Run OptionReading := do
    if quiet then setVariable "OPTARG" c.toString
    else
      complain (text ++ "\n")
      unsetVariable "OPTARG"
    return ⟨instead, false, index, here⟩
  if !wanted.contains c || c = ':' then
    problem ("Illegal option -" ++ c.toString) '?' index here
  else if behind.head? = some ':' then
    match letters, rest with
    | [], [] =>
      problem ("No arg for -" ++ c.toString ++ " option") (if quiet then ':' else '?') index 0
    | [], value :: _ => do
      setVariable "OPTARG" value
      return ⟨c, false, index + 1, 0⟩
    | letters, _ => do
      setVariable "OPTARG" (String.ofList letters)
      return ⟨c, false, index, 0⟩
  else do
    setVariable "OPTARG" ""
    return ⟨c, false, index, here⟩

/-- Reads the next option of arguments. -/
def readOption (wanted : List Char) (arguments : List String) (index lettersRead : Nat) :
    Run OptionReading := do
  let current := ((arguments[index - 2]?).getD "").toList
  let left := if 1 < index && 0 < lettersRead then current.drop lettersRead else []
  match left with
  | c :: letters => readLetter wanted c letters (arguments.drop (index - 1)) index (lettersRead + 1)
  | [] =>
    match arguments.drop (index - 1) with
    | argument :: rest =>
      match argument.toList with
      | ['-', '-'] => return ⟨'?', true, index + 1, 0⟩
      | '-' :: c :: letters => readLetter wanted c letters rest (index + 1) 2
      | _ => return ⟨'?', true, index, 0⟩
    | [] => return ⟨'?', true, index, 0⟩

/-- Puts the next option into a variable. -/
def getopts : Body := fun arguments => do
  match arguments with
  | wanted :: name :: others => do
    let s ← get
    let among := if others.isEmpty then s.arguments else others
    let exceeded := among.length + 1 < s.optionIndex
    let index := if exceeded then 1 else s.optionIndex
    let lettersRead := if exceeded then 0 else s.lettersRead
    let reading ← readOption wanted.toList among index lettersRead
    setVariable "OPTIND" (toString reading.index)
    setVariable name reading.letter.toString
    modify fun s =>
      { s with optionIndex := reading.index, lettersRead := reading.lettersRead }
    return if reading.finished then 1 else 0
  | _ => misuse "Usage: getopts optstring var [arg...]"

/-! ## 3.  Reading -/

/-- The pieces of the next line of the input, and whether the line has an end. -/
def linePieces (raw : Bool) : Nat → Bool → List Piece → Run (List Piece × Bool)
  | 0, _, pieces => return (pieces.reverse, false)
  | budget + 1, escaped, pieces => do
    match ← read 0 (some 1) with
    | .error _ => return (pieces.reverse, false)
    | .ok bytes =>
      match bytes.toList with
      | [] => return (pieces.reverse, false)
      | b :: _ =>
        let c := Char.ofNat b.toNat
        if c = '\x00' then linePieces raw budget escaped pieces
        else if escaped then
          if c = '\n' then linePieces raw budget false (.region false :: pieces)
          else linePieces raw budget false (.region false :: .glyph c true false :: pieces)
        else if c = '\\' && !raw then linePieces raw budget true pieces
        else if c = '\n' then return (pieces.reverse, true)
        else linePieces raw budget false (.glyph c false true :: pieces)

/-- The length of a line that nobody writes. -/
def longestLine : Nat := 1073741824

/-- Gives values to variables, the empty one to those for which there is none. -/
def assignEach : List String → List String → Run Unit
  | [], _ => return
  | name :: names, values => do
    setVariable name (values.headD "")
    assignEach names values.tail

/-- Puts the fields of a line of the input into variables. -/
def read_ : Body := fun arguments => do
  let (given, names) ← options "r" "p" arguments
  if names.isEmpty then misuse "arg count"
  let raw := given.any fun (letter, _) => letter = 'r'
  let (pieces, ended) ← linePieces raw longestLine false [.region false]
  let fields := splitFields (← separators) (some names.length) pieces
  assignEach names (fields.map Pattern.toText)
  return if ended then 0 else 1

end CountedStrings.Shell.Builtin
