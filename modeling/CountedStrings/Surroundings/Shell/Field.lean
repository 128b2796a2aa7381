import CountedStrings.Surroundings.Shell.Pattern
import CountedStrings.Surroundings.Shell.Variables

/-!
# Fields

What the parts of a word expand to is a row of *pieces*, and the pieces make up *fields*, the words
that a command gets.  What came out of an expansion and was not quoted is split where characters of
the variable `IFS` stand.  White space among them only separates; any other character among them
ends a field even if there is nothing in it.  A pair of quotes makes a field even if nothing stands
between them.

Each expansion starts a *region* of pieces that may be split, and white space at the end of a region
does not run on into the next one.  The arguments of the interpreter, as a whole, are a region of
their own, split between them and, in quotes, nowhere else.

A field whose unquoted characters make it a pattern stands for the paths that match it, if there
are any.
-/

namespace CountedStrings.Shell

/-- A piece of what a word expands to. -/
inductive Piece where
  /-- A character: whether it was quoted, and whether a field may be split at it. -/
  | glyph (c : Char) (quoted splits : Bool)
  /-- A pair of quotes, which makes a field. -/
  | quotes
  /-- The border between two arguments. -/
  | border
  /-- The start of a region; whether it is split at borders only. -/
  | region (bordersOnly : Bool)

namespace Piece

/-- The pieces of a text. -/
def ofText (quoted splits : Bool) (text : String) : List Piece :=
  text.toList.map fun c => .glyph c quoted splits

/-- The pieces of a text that came out of an expansion. -/
def ofExpansion (quoted : Bool) (text : String) : List Piece :=
  if quoted then ofText true false text else .region false :: ofText false true text

/-- The character of a piece as it stands in a pattern. -/
def glyph? : Piece → Option Glyph
  | .glyph c quoted _ => some (c, quoted)
  | .border => some (' ', true)
  | .quotes | .region _ => none

/-- The pattern of pieces that are not split. -/
def toPattern (pieces : List Piece) : List Glyph := pieces.filterMap glyph?

/-- The text of pieces that are not split. -/
def toText (pieces : List Piece) : String := Pattern.toText (toPattern pieces)

end Piece

/-- Where a row of pieces is being split. -/
structure Splitting where
  /-- The finished fields, the last one first. -/
  fields : List (List Glyph)
  /-- The field that was begun, its last character first. -/
  current : List Glyph
  /-- Whether anything of a field was seen. -/
  begun : Bool
  /-- Whether the last thing seen was white space behind a field. -/
  spaced : Bool
  /-- Whether the region, and the one before, are split at borders only. -/
  bordersOnly : Bool
  afterBorders : Bool
  /-- How many more fields are wanted, if not all; when there are enough, the rest is one field. -/
  wanted : Option Nat
  /-- The last field without the separators at its end, if there are some. -/
  shortened : Option (List Glyph)

namespace Splitting

/-- A splitting of which nothing was seen. -/
def start (wanted : Option Nat) : Splitting := ⟨[], [], false, false, false, false, wanted, none⟩

/-- Takes a character. -/
def take (s : Splitting) (glyph : Glyph) : Splitting :=
  { s with current := glyph :: s.current, begun := true }

/-- Starts the field anew. -/
def restart (s : Splitting) : Splitting := { s with current := [], begun := false }

/-- Ends the field. -/
def finish (s : Splitting) : Splitting :=
  { s with fields := s.current.reverse :: s.fields, current := [], begun := false }

/-- Takes a character of a region in the field that holds all the rest. -/
def takeRest (s : Splitting) (glyph : Glyph) (separates space : Bool) : Splitting :=
  if space then { s with shortened := s.shortened.or (some s.current) }.take glyph
  else
    let shortened := if separates && s.spaced then s.shortened else none
    { s with shortened := shortened, spaced := false }.take glyph

/-- Takes a character of a region: whether it separates, and whether it is white space. -/
def visit (s : Splitting) (glyph : Glyph) (separates space : Bool) : Splitting :=
  if s.wanted = some 0 then s.takeRest glyph separates space
  else if s.spaced then
    if space then s.restart
    else
      let s := { s.restart with spaced := false }
      if separates then s else s.take glyph
  else if separates then
    let s := { s with spaced := space && !s.bordersOnly && !s.afterBorders }
    if !s.begun && s.spaced then { s with spaced := false }
    else
      match s.wanted with
      | some 1 => { s with wanted := some 0, shortened := some s.current }.take glyph
      | wanted => { s with wanted := wanted.map (· - 1) }.finish
  else s.take glyph

/-- Takes one piece. -/
def step (separators : List Char) (s : Splitting) : Piece → Splitting
  | .glyph c quoted splits =>
    if splits then
      let separates := separators.contains c
      s.visit (c, quoted) separates (separates && [' ', '\t', '\n'].contains c)
    else s.take (c, quoted)
  | .quotes => { s with begun := true }
  | .border => s.visit (' ', true) true true
  | .region bordersOnly =>
    { s with bordersOnly := bordersOnly, afterBorders := s.bordersOnly, spaced := false }

/-- The fields of a splitting at its end. -/
def result (s : Splitting) : List (List Glyph) :=
  let last := if s.bordersOnly then s.current else s.shortened.getD s.current
  let present := s.bordersOnly || (s.begun && (s.shortened.isNone || !last.isEmpty))
  (if present then last.reverse :: s.fields else s.fields).reverse

end Splitting

/-- The fields of a row of pieces, not more than wanted. -/
def splitFields (separators : List Char) (wanted : Option Nat) (pieces : List Piece) :
    List (List Glyph) :=
  (pieces.foldl (Splitting.step separators) (.start wanted)).result

/-- The words that a field stands for. -/
def fieldWords (files : FileSystem) (field : List Glyph) : List String :=
  match Glob.expand files field with
  | [] => [Pattern.toText field]
  | paths => paths

/-- The characters at which fields are split. -/
def separators : Run (List Char) := do
  return ((← valueOf? "IFS").getD " \t\n").toList

end CountedStrings.Shell
