import CountedStrings.Surroundings.FileSystem.Change

/-!
# Patterns

A pattern is a text in which some characters may stand for others: `*` for any text, `?` for any
character, and a bracket expression for any character of a set.  A character that was quoted stands
for itself, and so does one behind a backslash that was not quoted.

## 1.  Matching

`matches?` compares a pattern with a text.  A bracket expression lists characters, ranges and named
classes; `!` at its start turns it round.  A bracket that is never closed stands for itself.

## 2.  Names of files

`Glob.expand` finds the names of files that match a pattern with slashes in it.  A dot at the start
of a name is matched only by a dot.
-/

namespace CountedStrings.Shell

/-- A character of a pattern, and whether it stands for itself. -/
abbrev Glyph := Char × Bool

namespace Pattern

/-- A pattern in which every character stands for itself. -/
def literal (text : String) : List Glyph := text.toList.map fun c => (c, true)

/-- The text of a pattern. -/
def toText (pattern : List Glyph) : String := String.ofList (pattern.map (·.1))

/-- A pattern in which backslashes that were not quoted have done their work. -/
def unescaped : List Glyph → List Glyph
  | ('\\', false) :: (c, _) :: rest => (c, true) :: unescaped rest
  | glyph :: rest => glyph :: unescaped rest
  | [] => []

/-! ## 1.  Matching -/

/-- What a bracket expression lists. -/
inductive Item where
  | range (low high : Char)
  | all (holds : Char → Bool)

/-- The number of a character as a byte with a sign, by which ranges are ordered. -/
def rank (c : Char) : Int := if c.toNat < 128 then c.toNat else (c.toNat : Int) - 256

/-- Whether an item holds a character. -/
def Item.holds (c : Char) : Item → Bool
  | .range low high => rank low ≤ rank c && rank c ≤ rank high
  | .all holds => holds c

/-- Whether a character has a shape. -/
def isGraphic (c : Char) : Bool := 0x21 ≤ c.toNat && c.toNat ≤ 0x7E

/-- The named classes of characters, all of them within the first 128. -/
def classes : List (String × (Char → Bool)) :=
  [("alnum", Char.isAlphanum), ("alpha", Char.isAlpha), ("digit", Char.isDigit),
    ("lower", Char.isLower), ("upper", Char.isUpper), ("blank", fun c => c = ' ' || c = '\t'),
    ("space", fun c => c = ' ' || (0x09 ≤ c.toNat && c.toNat ≤ 0x0D)),
    ("cntrl", fun c => c.toNat < 0x20 || c.toNat = 0x7F), ("graph", isGraphic),
    ("print", fun c => c = ' ' || isGraphic c), ("punct", fun c => isGraphic c && !c.isAlphanum),
    ("xdigit", fun c => c.isDigit || ['a', 'b', 'c', 'd', 'e', 'f'].contains c.toLower)]

/-- The class that a pattern behind an opening bracket begins with, and the pattern behind it. -/
def class? (pattern : List Glyph) : Option ((Char → Bool) × List Glyph) :=
  classes.findSome? fun (name, holds) =>
    let written := (':' :: name.toList ++ [':', ']']).map fun c => (c, false)
    if written.isPrefixOf pattern then some (holds, pattern.drop written.length) else none

/-- The items of a bracket expression, and the pattern behind it.  Its first character never closes
it.  The budget has to be the length of the pattern. -/
def bracketItems (first : Bool) : Nat → List Glyph → Option (List Item × List Glyph)
  | 0, _ | _, [] => none
  | budget + 1, (c, quoted) :: rest =>
    if c = ']' && !quoted && !first then some ([], rest)
    else
      match if c = '[' && !quoted then class? rest else none with
      | some (holds, rest) =>
        (bracketItems false budget rest).map fun (items, rest) => (.all holds :: items, rest)
      | none =>
        match rest with
        | ('-', false) :: (high, highQuoted) :: behind =>
          if high = ']' && !highQuoted then
            (bracketItems false budget rest).map fun (items, rest) => (.range c c :: items, rest)
          else
            (bracketItems false budget behind).map fun (items, rest) =>
              (.range c high :: items, rest)
        | _ =>
          (bracketItems false budget rest).map fun (items, rest) => (.range c c :: items, rest)

/-- What a bracket expression matches, and the pattern behind it. -/
def bracket? (pattern : List Glyph) : Option ((Char → Bool) × List Glyph) :=
  match pattern with
  | ('!', false) :: rest =>
    (bracketItems true rest.length rest).map fun (items, rest) =>
      (fun c => !items.any (·.holds c), rest)
  | _ =>
    (bracketItems true pattern.length pattern).map fun (items, rest) =>
      (fun c => items.any (·.holds c), rest)

/-- Whether a pattern matches the whole of a text.  The budget has to be the sum of both lengths. -/
def matchesWithin : Nat → List Glyph → List Char → Bool
  | _, [], cs => cs.isEmpty
  | 0, _ :: _, _ => false
  | budget + 1, ('*', false) :: pattern, cs =>
    matchesWithin budget pattern cs ||
      match cs with
      | [] => false
      | _ :: rest => matchesWithin budget (('*', false) :: pattern) rest
  | budget + 1, ('?', false) :: pattern, cs =>
    match cs with
    | [] => false
    | _ :: rest => matchesWithin budget pattern rest
  | budget + 1, ('[', false) :: pattern, cs =>
    match cs with
    | [] => false
    | c :: rest =>
      match bracket? pattern with
      | some (holds, pattern) => holds c && matchesWithin budget pattern rest
      | none => c = '[' && matchesWithin budget pattern rest
  | budget + 1, (d, _) :: pattern, cs =>
    match cs with
    | [] => false
    | c :: rest => c = d && matchesWithin budget pattern rest

/-- A pattern with one star in place of several in a row. -/
def withSingleStars : List Glyph → List Glyph
  | ('*', false) :: ('*', false) :: rest => withSingleStars (('*', false) :: rest)
  | glyph :: rest => glyph :: withSingleStars rest
  | [] => []

/-- Whether a pattern matches the whole of a text. -/
def matches? (pattern : List Glyph) (text : List Char) : Bool :=
  let pattern := withSingleStars (unescaped pattern)
  matchesWithin (pattern.length + text.length) pattern text

/-- What stands between two arguments while it is not yet known what becomes of the border.  No byte
is this character. -/
def border : Char := Char.ofNat 0x100

/-- Whether a pattern matches a part of a text, of which it sees no more than one argument. -/
def matchesArgument? (pattern : List Glyph) (text : List Char) : Bool :=
  matches? pattern (text.takeWhile (· ≠ border))

/-- A text without the shortest or the longest beginning that a pattern matches. -/
def dropBeginning (longest : Bool) (pattern : List Glyph) (text : List Char) : List Char :=
  let lengths := List.range (text.length + 1)
  let lengths := if longest then lengths.reverse else lengths
  match lengths.find? fun n => matchesArgument? pattern (text.take n) with
  | some n => text.drop n
  | none => text

/-- A text without the shortest or the longest end that a pattern matches. -/
def dropEnd (longest : Bool) (pattern : List Glyph) (text : List Char) : List Char :=
  let lengths := List.range (text.length + 1)
  let lengths := if longest then lengths else lengths.reverse
  match lengths.find? fun n => matchesArgument? pattern (text.drop n) with
  | some n => text.take n
  | none => text

end Pattern

namespace Glob

/-- A pattern cut at its slashes. -/
def cutAtSlashes : List Glyph → List (List Glyph)
  | [] => [[]]
  | ('/', _) :: rest => [] :: cutAtSlashes rest
  | glyph :: rest =>
    match cutAtSlashes rest with
    | [] => [[glyph]]
    | part :: parts => (glyph :: part) :: parts

/-- Whether a bracket that was opened in front of a pattern is closed in it, with something between
the two. -/
def closesBracket (pattern : List Glyph) : Bool :=
  let inside := match pattern with
    | ('!', false) :: rest => rest
    | _ => pattern
  (inside.drop 1).contains (']', false)

/-- Whether a pattern without slashes can match anything but its own text. -/
def isProper : List Glyph → Bool
  | [] => false
  | ('*', false) :: _ | ('?', false) :: _ => true
  | ('[', false) :: rest => closesBracket rest || isProper rest
  | _ :: rest => isProper rest

/-- The names in a directory that a pattern without slashes is compared with: those of its entries,
and those of the directory itself and the one above where a dot asks for them. -/
def candidates (files : FileSystem) (id : Nat) (pattern : List Glyph) : List Bytes :=
  let names := files.listNames id
  if pattern.head?.any (·.1 = '.') then [0x2E] :: [0x2E, 0x2E] :: names
  else names.filter fun name => name.head? ≠ some 0x2E

/-- The names in a directory that a pattern without slashes matches. -/
def matching (files : FileSystem) (directory : String) (pattern : List Glyph) : List String :=
  let path := if directory = "" then FileSystem.selfName else Bytes.ofByteText directory
  match files.find path with
  | .error _ => []
  | .ok id =>
    (candidates files id pattern).filterMap fun name =>
      let text := Bytes.toCharacters name
      if Pattern.matches? pattern text then some (String.ofList text) else none

/-- Whether a path leads to something. -/
def present (files : FileSystem) (path : String) : Bool :=
  (files.findLink (Bytes.ofByteText path)).toBool

/-- The paths that begin with the given text and go on as the cut pattern says. -/
def expandFrom (files : FileSystem) (beginning : String) : List (List Glyph) → List String
  | [] => []
  | [last] =>
    if isProper last then (matching files beginning last).map (beginning ++ ·)
    else
      let path := beginning ++ Pattern.toText last
      if present files path then [path] else []
  | part :: rest =>
    if isProper part then
      (matching files beginning part).flatMap fun name =>
        expandFrom files (beginning ++ name ++ "/") rest
    else expandFrom files (beginning ++ Pattern.toText part ++ "/") rest

/-- The paths that match a pattern, in ascending order. -/
def expand (files : FileSystem) (pattern : List Glyph) : List String :=
  let parts := cutAtSlashes (Pattern.unescaped pattern)
  if parts.any isProper then (expandFrom files "" parts).mergeSort fun a b => a ≤ b else []

end Glob

end CountedStrings.Shell
