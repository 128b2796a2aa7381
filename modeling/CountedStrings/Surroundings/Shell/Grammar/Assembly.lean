import CountedStrings.Surroundings.Shell.Syntax

/-!
# Putting words together

A word is read character by character.  What a character means depends on where it stands: between
blanks, in single or double quotes, in a parameter expansion, or in arithmetic, and all of these may
be nested.  An *assembly* is a word that is being put together.

* Its *frames* hold the parts that were read, one frame for each construction that is still open.
* Its *levels* say how the next character is to be taken.  A level is opened by arithmetic, and by a
  parameter expansion whose word is taken in another way than what surrounds it.
-/

namespace CountedStrings.Shell.Grammar

/-- How characters are taken. -/
inductive Mode where
  | plain
  | double
  | single
  | arithmetic
  deriving DecidableEq

/-- A level of a word. -/
structure Level where
  mode : Mode
  /-- Whether double quotes are around, or what counts like them. -/
  doubled : Bool
  /-- Whether double quotes are open inside of a parameter expansion. -/
  innerDouble : Bool
  /-- How many parameter expansions are open. -/
  braces : Nat
  /-- How many of them were opened in double quotes. -/
  doubledBraces : Nat
  /-- How many parentheses are open in arithmetic. -/
  parentheses : Nat
  /-- Whether the level was opened by a parameter expansion. -/
  ofBrace : Bool

/-- A level on which nothing is open. -/
def Level.start (mode : Mode) (doubled : Bool) : Level :=
  ⟨mode, doubled, false, 0, 0, 0, false⟩

/-- A construction that is still open. -/
inductive Opened where
  | word
  | quotes
  | parameter (name : String) (form : ParameterForm)
  | arithmetic

/-- A construction with the parts that were read in it, the last one first. -/
structure Frame where
  opened : Opened
  parts : List Part

/-- The part that a construction becomes when it is closed. -/
def Frame.close (f : Frame) : List Part :=
  let parts := f.parts.reverse
  match f.opened with
  | .word => parts
  | .quotes => [.quoted parts]
  | .parameter name form => [.parameter name form parts]
  | .arithmetic => [.arithmetic parts]

/-- A word that is being put together. -/
structure Assembly where
  level : Level
  outerLevels : List Level
  frame : Frame
  outerFrames : List Frame
  /-- The characters since the last part, the last one first. -/
  characters : List Char
  /-- Whether any of the word was quoted. -/
  quoted : Bool

namespace Assembly

/-- A word of which nothing was read. -/
def start (mode : Mode) (doubled : Bool) : Assembly :=
  ⟨.start mode doubled, [], ⟨.word, []⟩, [], [], false⟩

/-- Takes a character as it is. -/
def put (a : Assembly) (c : Char) : Assembly := { a with characters := c :: a.characters }

/-- Makes a part of the characters since the last part. -/
def flush (a : Assembly) : Assembly :=
  match a.characters with
  | [] => a
  | cs =>
    { a with
      frame := { a.frame with parts := .text (String.ofList cs.reverse) :: a.frame.parts }
      characters := [] }

/-- Takes a part. -/
def putPart (a : Assembly) (part : Part) : Assembly :=
  let a := a.flush
  { a with frame := { a.frame with parts := part :: a.frame.parts } }

/-- Opens a construction. -/
def openFrame (a : Assembly) (opened : Opened) : Assembly :=
  let a := a.flush
  { a with frame := ⟨opened, []⟩, outerFrames := a.frame :: a.outerFrames }

/-- Closes the innermost construction. -/
def closeFrame (a : Assembly) : Assembly :=
  let a := a.flush
  match a.outerFrames with
  | [] => a
  | outer :: rest =>
    { a with
      frame := { outer with parts := a.frame.close.reverse ++ outer.parts }, outerFrames := rest }

/-- Opens a level. -/
def pushLevel (a : Assembly) (level : Level) : Assembly :=
  { a with level := level, outerLevels := a.level :: a.outerLevels }

/-- Goes back to the level outside. -/
def popLevel (a : Assembly) : Assembly :=
  match a.outerLevels with
  | [] => a
  | outer :: rest => { a with level := outer, outerLevels := rest }

/-- Changes the innermost level. -/
def onLevel (a : Assembly) (change : Level → Level) : Assembly :=
  { a with level := change a.level }

/-- Opens quotes. -/
def openQuotes (a : Assembly) (document : Bool) : Assembly :=
  if document then a else a.openFrame .quotes

/-- Closes quotes. -/
def closeQuotes (a : Assembly) (document : Bool) : Assembly :=
  if document then a else a.closeFrame

/-- Takes the double quotes inside of a parameter expansion, which open and close by turns, or
outside of one, where `opens` says which of the two they do. -/
def toggleDouble (a : Assembly) (document opens : Bool) : Assembly :=
  if a.level.braces > 0 then
    let a := a.onLevel fun l => { l with innerDouble := !l.innerDouble }
    if a.level.innerDouble then a.openQuotes document else a.closeQuotes document
  else if opens then a.openQuotes document
  else a.closeQuotes document

/-- Opens a parameter expansion, whose word is taken as `mode` says. -/
def openParameter (a : Assembly) (name : String) (form : ParameterForm) (mode : Mode) : Assembly :=
  let a := a.openFrame (.parameter name form)
  let a :=
    if mode ≠ a.level.mode || a.level.innerDouble then
      a.pushLevel { Level.start mode (mode ≠ .plain) with ofBrace := true }
    else a
  a.onLevel fun l =>
    { l with
      braces := l.braces + 1, doubledBraces := l.doubledBraces + if l.doubled then 1 else 0 }

/-- Takes a closing brace. -/
def closeBrace (a : Assembly) : Assembly :=
  if a.level.innerDouble || a.level.braces = 0 then a.put '\x7d'
  else
    let a := a.closeFrame
    let a := a.onLevel fun l => { l with braces := l.braces - 1 }
    if a.level.braces = 0 && a.level.ofBrace then a.popLevel
    else a.onLevel fun l => { l with doubledBraces := l.doubledBraces - 1 }

/-- Opens arithmetic. -/
def openArithmetic (a : Assembly) : Assembly :=
  (a.openFrame .arithmetic).pushLevel (.start .arithmetic true)

/-- The finished word. -/
def finish (a : Assembly) : Word := a.flush.frame.close

end Assembly

end CountedStrings.Shell.Grammar
