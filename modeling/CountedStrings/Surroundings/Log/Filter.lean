import CountedStrings.Log.Record
import CountedStrings.Surroundings.Log.Alphanumeric
import CountedStrings.Text.Blank

/-!
# Which records are let through

A filter is written as directives with commas between them:

    level          the level for every target
    target         everything from the targets that begin with this one
    target=level   the level for the targets that begin with this one
    target=        the same as the target alone

A level is `off`, `error`, `warn`, `info`, `debug` or `trace` in capital or small letters, or a
number from 0 to 5.  A word that is no level is a target.  Empty directives do not count.

## 1.  Levels and directives

A directive that begins with neither a letter, a number, `-`, `:` nor `_` is refused, and so is one
with something other than a level behind its first `=`.  Blanks in front of a directive are passed
over when its beginning is judged, but they stay part of its words: a level with blanks around it is
no level, and a directive with a `=` cannot begin with a blank.  The first refused directive refuses
the filter.

## 2.  The verdict on a record

Of the directives whose target begins the target of the record, the one with the longest target
decides; a directive without a target is the shortest of all.  A directive with the target of an
earlier one takes its place.  A record about which no directive speaks is dropped.
-/

namespace CountedStrings

/-- The least grave level that is let through, or nothing if not even an error is. -/
abbrev Threshold := Option Level

/-- One instruction of a filter. -/
structure Directive where
  /-- The beginning of the targets it speaks about; without one, it speaks about all. -/
  target : Option (List Char)
  /-- What it lets through. -/
  threshold : Threshold
  deriving DecidableEq

/-- A list of instructions, no two about one target. -/
structure Filter where
  directives : List Directive
  deriving DecidableEq

/-- Why a text is no filter. -/
inductive FilterError where
  /-- A directive begins with a character that begins neither a level nor a target. -/
  | directive
  /-- The text behind the first `=` of a directive is no level. -/
  | level
  deriving DecidableEq

/-- A refusal in words. -/
def FilterError.message : FilterError → String
  | .directive => "invalid filter directive"
  | .level => "error parsing level filter: expected one of \"off\", \"error\", \"warn\", " ++
      "\"info\", \"debug\", \"trace\", or a number 0-5"

namespace Threshold

/-! ## 1.  Levels and directives -/

/-- The threshold of a number. -/
def ofNat? : Nat → Option Threshold
  | 0 => some none
  | 1 => some (some .error)
  | 2 => some (some .warn)
  | 3 => some (some .info)
  | 4 => some (some .debug)
  | 5 => some (some .trace)
  | _ => none

/-- The value of a list of decimal digits. -/
def digitsValue (digits : List Char) : Nat :=
  digits.foldl (fun n c => n * 10 + (c.toNat - '0'.toNat)) 0

/-- The threshold written as a number, with or without a plus sign and leading zeros. -/
def ofDigits? (text : List Char) : Option Threshold :=
  let digits := if text.head? = some '+' then text.drop 1 else text
  if digits ≠ [] ∧ digits.all Char.isDigit then ofNat? (digitsValue digits) else none

/-- The threshold written as a word, in capital or small letters. -/
def ofWord? (text : List Char) : Option Threshold :=
  match String.ofList (text.map Char.toLower) with
  | "off" => some none
  | "error" => some (some .error)
  | "warn" => some (some .warn)
  | "info" => some (some .info)
  | "debug" => some (some .debug)
  | "trace" => some (some .trace)
  | _ => none

/-- The threshold written as a word or as a number. -/
def parse? (text : List Char) : Option Threshold :=
  (ofDigits? text).or (ofWord? text)

/-- Whether a level is let through. -/
def admits (threshold : Threshold) (level : Level) : Bool :=
  match threshold with
  | none => false
  | some least => level.verbosity ≤ least.verbosity

end Threshold

namespace Directive

/-- Whether a directive can begin with a character. -/
def mayBeginWith (c : Char) : Bool :=
  c = '-' || c = ':' || c = '_' || Text.isAlphanumeric c

/-- The directive written without a `=`. -/
def ofWord (word : List Char) : Directive :=
  match Threshold.parse? word with
  | some threshold => ⟨none, threshold⟩
  | none => ⟨some word, some .trace⟩

/-- The directive of a target and what is written behind the `=`. -/
def ofPair (target level : List Char) : Except FilterError Directive :=
  if level = [] then .ok ⟨some target, some .trace⟩
  else
    match Threshold.parse? level with
    | some threshold => .ok ⟨some target, threshold⟩
    | none => .error .level

/-- Reads a directive that is not empty. -/
def parse (text : List Char) : Except FilterError Directive :=
  if (text.dropWhile Text.isBlank).head?.any mayBeginWith then
    if '=' ∈ text then
      if text.head?.any Text.isBlank then .error .level
      else ofPair (text.takeWhile (· ≠ '=')) ((text.dropWhile (· ≠ '=')).drop 1)
    else .ok (ofWord text)
  else .error .directive

/-- Whether a directive speaks about a target. -/
def speaksAbout (d : Directive) (target : List Char) : Bool :=
  match d.target with
  | none => true
  | some beginning => beginning.isPrefixOf target

/-- How closely a directive speaks about its targets. -/
def closeness (d : Directive) : Nat :=
  match d.target with
  | none => 0
  | some beginning => beginning.length + 1

end Directive

namespace Filter

/-- A filter with one more directive, in place of an earlier one with its target. -/
def add (f : Filter) (d : Directive) : Filter :=
  ⟨f.directives.filter (fun earlier => earlier.target ≠ d.target) ++ [d]⟩

/-- The parts of a text between commas. -/
def splitAtCommas : List Char → List (List Char)
  | [] => [[]]
  | c :: rest =>
    if c = ',' then [] :: splitAtCommas rest
    else
      match splitAtCommas rest with
      | [] => [[c]]
      | part :: parts => (c :: part) :: parts

/-- Reads a filter. -/
def parse (text : String) : Except FilterError Filter := do
  let parts := (splitAtCommas text.toList).filter (· ≠ [])
  let directives ← parts.mapM Directive.parse
  return directives.foldl add ⟨[]⟩

/-! ## 2.  The verdict on a record -/

/-- Of two directives, the one that speaks more closely; the later one if neither does. -/
def closer (best : Option Directive) (d : Directive) : Option Directive :=
  match best with
  | none => some d
  | some b => if d.closeness < b.closeness then some b else some d

/-- The directive that decides about a target. -/
def deciding (f : Filter) (target : List Char) : Option Directive :=
  (f.directives.filter (·.speaksAbout target)).foldl closer none

/-- Whether a record is let through. -/
def admits (f : Filter) (record : Record) : Bool :=
  match f.deciding record.target.toList with
  | none => false
  | some d => d.threshold.admits record.level

end Filter

end CountedStrings
