import CountedStrings.Surroundings.Shell.Syntax
import CountedStrings.Table

/-!
# What a reader of commands reads

A text of commands is read character by character and made into *tokens*: words, operators and
reserved words.  This file holds the state of a reader, its errors, and the steps on characters.

* A backslash in front of the end of a line joins the two lines; most places read through it
  (`nextJoined`).
* An *alias* is a word that stands for a text.  While that text is read, the alias is asleep, so it
  cannot stand for itself.
* The bodies of here-documents wait until the end of the line on which they were asked for.
-/

namespace CountedStrings.Shell.Grammar

/-- Why a text is not a list of commands. -/
structure SyntaxError where
  /-- The line on which this was noticed. -/
  line : Nat
  message : String
  deriving DecidableEq

/-- A redirection of which the word behind the operator is still to be read. -/
inductive Redirecting where
  | file (descriptor : Nat) (mode : FileMode)
  | copy (descriptor : Nat)
  /-- A here-document, and whether tabs in front of its lines are dropped. -/
  | document (descriptor : Nat) (dropsTabs : Bool)

/-- A word, an operator or a reserved word. -/
inductive Token where
  | finish
  | newline
  /-- One of the operators between commands, as it is written. -/
  | operator (text : String)
  | redirecting (r : Redirecting)
  /-- A word, and whether any of it was quoted. -/
  | word (w : Word) (quoted : Bool)
  | reserved (text : String)

namespace Token

/-- The words that are reserved where a command can begin. -/
def reservedWords : List String :=
  ["!", "case", "do", "done", "elif", "else", "esac", "fi", "for", "if", "in", "then", "until",
    "while", "\x7b", "\x7d"]

/-- A token as a complaint names it. -/
def describe : Token → String
  | .finish => "end of file"
  | .newline => "newline"
  | .operator text | .reserved text => "\"" ++ text ++ "\""
  | .redirecting _ => "redirection"
  | .word _ _ => "word"

/-- Whether a token ends a list of commands. -/
def endsList : Token → Bool
  | .finish => true
  | .operator text => text = ")" || text = ";;"
  | .reserved text => ["do", "done", "elif", "else", "esac", "fi", "then", "\x7d"].contains text
  | _ => false

/-- Whether a token is the given operator. -/
def isOperator (t : Token) (text : String) : Bool :=
  match t with
  | .operator own => own = text
  | _ => false

/-- Whether a token is the given reserved word. -/
def isReserved (t : Token) (text : String) : Bool :=
  match t with
  | .reserved own => own = text
  | _ => false

end Token

/-- A here-document whose body is still to be read. -/
structure PendingDocument where
  number : Nat
  delimiter : List Char
  dropsTabs : Bool
  /-- Whether its body is text and nothing else. -/
  verbatim : Bool

/-- A text that goes on behind the text of an alias. -/
structure Interrupted where
  aliasName : String
  /-- Whether the text of the alias ends in a blank, so that the next word may be an alias too. -/
  endsInBlank : Bool
  rest : List Char

/-- The state of a reader. -/
structure Reader where
  rest : List Char
  interrupted : List Interrupted
  aliases : Table String String
  line : Nat
  /-- The token that was put back, to be read again. -/
  putBack : Option Token
  /-- Whether the next word may be an alias because of what stood in front of it. -/
  aliasNext : Bool
  pending : List PendingDocument
  /-- The bodies of the here-documents, by their numbers. -/
  documents : List (Nat × Word)
  /-- The number of the next here-document. -/
  nextDocument : Nat

/-- A computation of a reader. -/
abbrev Read (α : Type) := EStateM SyntaxError Reader α

/-- A reader at the start of a text. -/
def Reader.ofText (aliases : Table String String) (nextDocument : Nat) (text : List Char) :
    Reader where
  rest := text
  interrupted := []
  aliases := aliases
  line := 1
  putBack := none
  aliasNext := false
  pending := []
  documents := []
  nextDocument := nextDocument

/-- Stops with a complaint. -/
def fail {α : Type} (message : String) : Read α := do
  throw ⟨(← get).line, message⟩

/-- The state behind the texts of aliases that are at their end. -/
def Reader.resumed (r : Reader) : List Interrupted → Reader
  | [] => { r with interrupted := [] }
  | i :: outer =>
    match r.rest with
    | _ :: _ => { r with interrupted := i :: outer }
    | [] => { r with rest := i.rest, aliasNext := r.aliasNext || i.endsInBlank }.resumed outer

/-- The next character, if there is one. -/
def next : Read (Option Char) := do
  let r ← get
  match r.rest with
  | c :: rest =>
    set { r with rest := rest }
    return some c
  | [] =>
    let r := r.resumed r.interrupted
    match r.rest with
    | c :: rest =>
      set { r with rest := rest }
      return some c
    | [] =>
      set r
      return none

/-- Puts a character back. -/
def unread (c : Option Char) : Read Unit :=
  match c with
  | none => pure ()
  | some c => modify fun r => { r with rest := c :: r.rest }

/-- Counts a line. -/
def countLine : Read Unit := modify fun r => { r with line := r.line + 1 }

/-- Drops backslashes that stand in front of the end of a line; counts the lines joined. -/
def dropJoins : Nat → List Char → Nat × List Char
  | joined, '\\' :: '\n' :: rest => dropJoins (joined + 1) rest
  | joined, cs => (joined, cs)

/-- The next character of the joined lines. -/
def nextJoined : Read (Option Char) := do
  match ← next with
  | some '\\' => do
    let r ← get
    match dropJoins 0 ('\\' :: r.rest) with
    | (0, _) => return some '\\'
    | (joined, rest) =>
      set { r with rest := rest, line := r.line + joined }
      next
  | c => return c

/-- Drops the rest of a line. -/
def dropLine : Read Unit := modify fun r => { r with rest := r.rest.dropWhile (· ≠ '\n') }

/-- Lets a token be read again. -/
def putBack (t : Token) : Read Unit := modify fun r => { r with putBack := some t }

/-- Takes the token that was put back. -/
def takePutBack : Read (Option Token) := do
  let r ← get
  set { r with putBack := none }
  return r.putBack

/-- The text of an alias, unless it is asleep. -/
def alias? (name : String) : Read (Option String) := do
  let r ← get
  if r.interrupted.any fun i => i.aliasName = name then return none
  else return r.aliases.get? name

/-- Reads the text of an alias next. -/
def interrupt (name text : String) : Read Unit :=
  modify fun r =>
    let cs := text.toList
    let endsInBlank := cs.getLast?.any fun c => c = ' ' || c = '\t'
    { r with rest := cs, interrupted := ⟨name, endsInBlank, r.rest⟩ :: r.interrupted }

/-- Stops because of a token that cannot stand where it does. -/
def unexpected {α : Type} (t : Token) : Read α := fail (t.describe ++ " unexpected")

/-- Stops because of a token that stands in the place of another one. -/
def unexpectedFor {α : Type} (t wanted : Token) : Read α :=
  fail (t.describe ++ " unexpected (expecting " ++ wanted.describe ++ ")")

end CountedStrings.Shell.Grammar
