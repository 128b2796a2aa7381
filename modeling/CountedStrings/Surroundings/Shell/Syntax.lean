/-!
# The language of commands

The syntax trees of the command language: words made of parts, redirections, and commands.  Texts
hold one character per byte.

A *word* is what is written between blanks.  Its parts say where the bytes come from (written down,
a parameter, the output of commands, arithmetic) and which of them stand in quotes, because what is
not quoted may still be split into several words or stand for names of files.

The body of a here-document stands behind the line that asks for it.  A redirection therefore holds
only the number of its document; the reader of a line hands the bodies over separately.

Commands that can complain know the line on which they stand.
-/

namespace CountedStrings.Shell

/-- What an expansion makes of a parameter. -/
inductive ParameterForm where
  /-- Its value. -/
  | value
  /-- The length of its value. -/
  | length
  /-- Its value, or a word if it is unset (or, on request, empty). -/
  | default (orEmpty : Bool)
  /-- The same, and the word becomes its value. -/
  | assign (orEmpty : Bool)
  /-- The same, but there is no word to fall back to. -/
  | demand (orEmpty : Bool)
  /-- A word, unless it is unset (or, on request, empty). -/
  | alternative (orEmpty : Bool)
  /-- Its value without a beginning that matches a pattern. -/
  | dropBeginning (longest : Bool)
  /-- Its value without an end that matches a pattern. -/
  | dropEnd (longest : Bool)
  /-- No expansion at all, which is found out only when it is needed. -/
  | malformed
  deriving DecidableEq

/-- How a redirection opens a file. -/
inductive FileMode where
  | input
  /-- Writing, which may be kept from replacing a file. -/
  | output
  /-- Writing, whatever there is. -/
  | replace
  | append
  | readWrite
  deriving DecidableEq

mutual

/-- A piece of a word. -/
inductive Part where
  /-- Characters that stand in no quotes. -/
  | text (text : String)
  /-- Characters behind a backslash. -/
  | literal (text : String)
  /-- What stands between quotes. -/
  | quoted (parts : List Part)
  | parameter (name : String) (form : ParameterForm) (word : List Part)
  /-- What commands print. -/
  | output (body : Option Command)
  | arithmetic (expression : List Part)

/-- Where a descriptor is copied from. -/
inductive Source where
  | descriptor (number : Nat)
  /-- From nowhere: the descriptor is closed. -/
  | closed
  /-- From the descriptor that a word names. -/
  | word (word : List Part)

/-- A redirection of a descriptor. -/
inductive Redirection where
  | file (descriptor : Nat) (mode : FileMode) (target : List Part)
  | copy (descriptor : Nat) (source : Source)
  /-- Lets a here-document be read, given by its number. -/
  | document (descriptor number : Nat)

/-- An assignment of a word to a variable. -/
inductive Assignment where
  | mk (name : String) (word : List Part)

/-- The patterns of a case with the commands for it. -/
inductive Branch where
  | mk (patterns : List (List Part)) (body : Option Command)

/-- A command. -/
inductive Command where
  | simple (line : Nat) (assignments : List Assignment) (words : List (List Part))
      (redirections : List Redirection)
  /-- Commands that feed one another. -/
  | pipeline (stages : List Command)
  /-- A command whose status counts the other way round. -/
  | negation (c : Command)
  /-- The second command runs if the first succeeds. -/
  | both (first second : Command)
  /-- The second command runs if the first fails. -/
  | either (first second : Command)
  /-- Commands that run one after the other. -/
  | sequence (commands : List Command)
  /-- A command that nobody waits for. -/
  | background (c : Command)
  | subshell (line : Nat) (c : Command) (redirections : List Redirection)
  | conditional (test yes : Command) (no : Option Command)
  /-- A loop that goes on as long as the test succeeds, or fails. -/
  | loop (whileSucceeds : Bool) (test body : Command)
  /-- A loop over words. -/
  | each (line : Nat) (name : String) (words : List (List Part)) (body : Command)
  | select (line : Nat) (word : List Part) (branches : List Branch)
  | define (name : String) (body : Command)
  | redirected (line : Nat) (c : Command) (redirections : List Redirection)

end

/-- A piece of text between blanks. -/
abbrev Word := List Part

namespace Word

/-- The text of a part that was written down without quotes. -/
def writtenText : Part → String
  | .text text | .literal text => text
  | _ => ""

/-- The text of a part that was written down. -/
def plainPart : Part → String
  | .quoted parts => String.join (parts.map writtenText)
  | part => writtenText part

/-- The text of a word that was written down, without its quotes. -/
def plainText (word : Word) : String := String.join (word.map plainPart)

/-- The text of a word without quotes and expansions. -/
def bare? : Word → Option String
  | [.text text] => some text
  | _ => none

end Word

/-- The commands whose errors end the interpreter, and whose names no function can have. -/
def specialCommands : List String :=
  [".", ":", "break", "continue", "eval", "exec", "exit", "export", "local", "readonly", "return",
    "set", "shift", "times", "trap", "unset"]

/-- Whether a character can begin a name. -/
def beginsName (c : Char) : Bool := c.isAlpha || c = '_'

/-- Whether a character can stand in a name. -/
def continuesName (c : Char) : Bool := c.isAlphanum || c = '_'

/-- Whether a text can be the name of a variable. -/
def isName (text : String) : Bool :=
  match text.toList with
  | [] => false
  | c :: rest => beginsName c && rest.all continuesName

/-- The name and what follows its `=`, if a word begins so. -/
def Word.assignment? : Word → Option (String × Word)
  | .text text :: rest =>
    let name := text.toList.takeWhile continuesName
    let behind := text.toList.drop name.length
    if isName (String.ofList name) && behind.head? = some '=' then
      let first := String.ofList (behind.drop 1)
      some (String.ofList name, if first = "" then rest else .text first :: rest)
    else none
  | _ => none

end CountedStrings.Shell
