import CountedStrings.Surroundings.Shell.Descriptor
import CountedStrings.Surroundings.Shell.Number

/-!
# Arguments of built-in commands

Built-in commands take their options from the front of their arguments.  Several letters may stand
behind one dash, and the argument of an option stands behind its letter or is the next argument.
`--` ends the options.
-/

namespace CountedStrings.Shell.Builtin

/-- What a built-in command does with its arguments; it gives its status. -/
abbrev Body := List String → Run Nat

/-- An option that was given, with its argument if it has one. -/
abbrev Given := Char × String

/-- The options among the letters of an argument, the arguments behind it, and whether the letters
are all options. -/
def lettersOf (flags valued : List Char) : List Char → List String →
    Run (List Given × List String)
  | [], rest => return ([], rest)
  | c :: letters, rest => do
    if flags.contains c then
      let (given, rest) ← lettersOf flags valued letters rest
      return ((c, "") :: given, rest)
    else if valued.contains c then
      match letters, rest with
      | [], [] => misuse ("No arg for -" ++ c.toString ++ " option")
      | [], value :: rest => return ([(c, value)], rest)
      | letters, rest => return ([(c, String.ofList letters)], rest)
    else misuse ("Illegal option -" ++ c.toString)

/-- The options in front of arguments.  The budget has to be more than the number of arguments. -/
def optionsWithin (flags valued : List Char) : Nat → List String → Run (List Given × List String)
  | 0, arguments => return ([], arguments)
  | budget + 1, arguments => do
    match arguments with
    | [] => return ([], [])
    | argument :: rest =>
      match argument.toList with
      | ['-', '-'] => return ([], rest)
      | '-' :: c :: letters => do
        let (first, rest) ← lettersOf flags valued (c :: letters) rest
        let (others, rest) ← optionsWithin flags valued budget rest
        return (first ++ others, rest)
      | _ => return ([], arguments)

/-- The options in front of arguments, and the other arguments. -/
def options (flags valued : String) (arguments : List String) : Run (List Given × List String) :=
  optionsWithin flags.toList valued.toList (arguments.length + 1) arguments

/-- The arguments of a command without options. -/
def operands (arguments : List String) : Run (List String) := do
  return (← options "" "" arguments).2

/-- Complains about a text that should be a number. -/
def badNumber {α : Type} (text : String) : Run α := misuse ("Illegal number: " ++ text)

/-- The largest number that can be counted with. -/
def largestCount : Int := 2147483647

/-- The number that an argument is. -/
def count (text : String) : Run Nat := do
  match Number.ofText? (some 10) text with
  | some n => if n < 0 || largestCount < n then badNumber text else return n.toNat
  | none => badNumber text

end CountedStrings.Shell.Builtin
