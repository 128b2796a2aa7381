import CountedStrings.Surroundings.Shell.Number
import CountedStrings.Surroundings.Shell.Pattern

/-!
# Regular expressions

Regular expressions in the basic notation: `.`, bracket expressions, `*`, groups and repetitions
behind backslashes, and what an earlier group stood for.

## 1.  Expressions

`Regular` is the form of an expression.

## 2.  Bracket expressions

A bracket expression lists characters, ranges and names between marks.  Its first character never
closes it.

## 3.  Reading

`Regular.ofText` reads an expression.  A star at the start of an alternative stands for itself, and so
do `^` anywhere but there and `$` anywhere but at the end.

## 4.  Matching

`Regular.outcomes` lists the ways in which an expression can match from a place on, the most eager
first, and `longest?` picks the longest one.
-/

namespace CountedStrings.Shell

/-- Why a text is no regular expression. -/
inductive RegularError where
  | openGroup
  | closedGroup
  | openBracket
  | openBound
  | badBound
  | largeBound
  | badReference
  | badRange
  | noClass
  | noElement
  | trailingBackslash
  | unfinished
  deriving DecidableEq

/-- Why a text is no regular expression, in words. -/
def RegularError.message : RegularError → String
  | .openGroup => "Unmatched ( or \\("
  | .closedGroup => "Unmatched ) or \\)"
  | .openBracket => "Unmatched [, [^, [:, [., or [="
  | .openBound => "Unmatched \\\x7b"
  | .badBound => "Invalid content of \\\x7b\\\x7d"
  | .largeBound => "Regular expression too big"
  | .badReference => "Invalid back reference"
  | .badRange => "Invalid range end"
  | .noClass => "Invalid character class name"
  | .noElement => "Invalid collation character"
  | .trailingBackslash => "Trailing backslash"
  | .unfinished => "Invalid regular expression"

/-! ## 1.  Expressions -/

/-- A regular expression. -/
inductive Regular where
  | nothing
  | one (holds : Char → Bool)
  /-- A place, given what stands in front of it and behind it. -/
  | place (holds : Option Char → Option Char → Bool)
  | group (index : Nat) (inner : Regular)
  /-- The text that a group stood for. -/
  | again (index : Nat)
  | both (first second : Regular)
  | either (first second : Regular)
  | repeated (inner : Regular) (least : Nat) (most : Option Nat)

namespace Regular

/-- The place at the start of the text. -/
def start : Regular := .place fun before _ => before.isNone

/-- The place at the end of the text. -/
def stop : Regular := .place fun _ behind => behind.isNone

/-! ## 2.  Bracket expressions -/

/-- What a bracket expression lists. -/
inductive Element where
  | character (c : Char)
  /-- A character by its name between marks. -/
  | named (c : Char)
  | set (holds : Char → Bool)

/-- The element that a text between marks of a kind names. -/
def Element.ofName (mark : Char) (name : List Char) : Except RegularError Element :=
  if mark = ':' then
    match Pattern.classes.lookup (String.ofList name) with
    | some holds => .ok (.set holds)
    | none => .error .noClass
  else
    match name with
    | [c] => .ok (if mark = '=' then .set (· = c) else .named c)
    | _ => .error .noElement

/-- The text up to a mark with a bracket behind it, and what stands behind both. -/
def upToMark (mark : Char) : List Char → Except RegularError (List Char × List Char)
  | [] | [_] => .error .openBracket
  | c :: d :: rest =>
    if c = mark && d = ']' then .ok ([], rest)
    else (upToMark mark (d :: rest)).map fun (name, rest) => (c :: name, rest)

/-- The element at the start of a text; a hyphen is one only where nothing stands in front of it. -/
def element (hyphen : Bool) (cs : List Char) : Except RegularError (Element × List Char) := do
  match cs with
  | [] => throw .openBracket
  | '[' :: mark :: rest =>
    if mark = '.' || mark = '=' || mark = ':' then
      let (name, rest) ← upToMark mark rest
      return (← Element.ofName mark name, rest)
    else return (.character '[', mark :: rest)
  | '-' :: rest =>
    if hyphen || rest.head? = some ']' then return (.character '-', rest) else throw .badRange
  | c :: rest => return (.character c, rest)

/-- The characters of a range. -/
def range (low high : Element) : Except RegularError (Char → Bool) :=
  match low, high with
  | .set _, _ | _, .set _ => .error .badRange
  | .character a, .character b | .character a, .named b | .named a, .character b
  | .named a, .named b => .ok fun c => a ≤ c && c ≤ b

/-- Whether an element may begin a range. -/
def Element.beginsRange : Element → Bool
  | .set _ => false
  | _ => true

/-- The characters that an element stands for. -/
def Element.holds : Element → Char → Bool
  | .character a | .named a => (· = a)
  | .set holds => holds

/-- The characters of a bracket expression, and what stands behind it.  The budget has to be the length
of the text. -/
def elements : Nat → Bool → List Char → Except RegularError ((Char → Bool) × List Char)
  | 0, _, _ => .error .openBracket
  | budget + 1, first, cs => do
    let (low, rest) ← element first cs
    let (holds, rest) ← match rest with
      | '-' :: behind =>
        if !low.beginsRange || behind.head? = some ']' then pure (low.holds, rest)
        else if behind.isEmpty then throw .openBracket
        else do
          let (high, rest) ← element true behind
          pure (← range low high, rest)
      | rest => pure (low.holds, rest)
    match rest with
    | ']' :: rest => return (holds, rest)
    | rest => do
      let (others, rest) ← elements budget false rest
      return (fun c => holds c || others c, rest)

/-- The expression that a bracket expression is, and what stands behind it. -/
def bracket (cs : List Char) : Except RegularError (Regular × List Char) := do
  let (turned, cs) := match cs with
    | '^' :: rest => (true, rest)
    | cs => (false, cs)
  if cs.isEmpty then throw .unfinished
  let (holds, rest) ← elements cs.length true cs
  return (.one fun c => holds c != turned, rest)

/-! ## 3.  Reading -/

/-- The greatest number of repetitions. -/
def mostRepetitions : Nat := 32767

/-- The number in front of a comma or the end of bounds, unless something else stands there, and what
stands behind it. -/
def bound : List Char → Option (List Char) × List Char
  | [] => (none, [])
  | ',' :: rest => (some [], ',' :: rest)
  | '\\' :: '\x7d' :: rest => (some [], '\\' :: '\x7d' :: rest)
  | c :: rest =>
    let (digits, rest) := bound rest
    (if c.isDigit then digits.map (c :: ·) else none, rest)

/-- The bounds of a repetition behind `\{`, and what stands behind them. -/
def bounds (cs : List Char) : Except RegularError (Nat × Option Nat × List Char) := do
  let (low, rest) := bound cs
  let (high, rest) := match low, rest with
    | some _, ',' :: rest => bound rest
    | _, rest => (low, rest)
  match low, high, rest with
  | some low, some high, '\\' :: _ :: behind =>
    let isSingle := (bound cs).2.head? ≠ some ','
    let least := Number.digitsValue 10 low
    let most := if high.isEmpty then none else some (Number.digitsValue 10 high)
    if (isSingle && low.isEmpty) || most.any (· < least) then throw .badBound
    if mostRepetitions < most.getD least then throw .largeBound
    return (least, most, behind)
  | _, _, [] => throw .openBound
  | _, _, _ => throw .badBound

/-- The repetitions behind an expression, and what stands behind them. -/
def repetitions : Nat → Regular → List Char → Except RegularError (Regular × List Char)
  | budget + 1, r, '*' :: rest => repetitions budget (.repeated r 0 none) rest
  | budget + 1, r, '\\' :: '+' :: rest => repetitions budget (.repeated r 1 none) rest
  | budget + 1, r, '\\' :: '?' :: rest => repetitions budget (.repeated r 0 (some 1)) rest
  | budget + 1, r, '\\' :: '\x7b' :: rest => do
    let (least, most, rest) ← bounds rest
    repetitions budget (.repeated r least most) rest
  | _, r, cs => .ok (r, cs)

/-- Whether an alternative ends in front of a text. -/
def endsHere : List Char → Bool
  | [] | '\\' :: ')' :: _ | '\\' :: '|' :: _ => true
  | _ => false

/-- Whether a character belongs to words. -/
def isWordCharacter (c : Char) : Bool := c.isAlphanum || c = '_'

/-- What a letter behind a backslash stands for. -/
def ofLetter (c : Char) : Regular :=
  let isSpace : Char → Bool := fun c => Number.isBlank c
  let inWord (c : Option Char) : Bool := c.any isWordCharacter
  match c with
  | 'w' => .one isWordCharacter
  | 'W' => .one fun c => !isWordCharacter c
  | 's' => .one isSpace
  | 'S' => .one fun c => !isSpace c
  | 'b' => .place fun before behind => inWord before != inWord behind
  | 'B' => .place fun before behind => inWord before = inWord behind
  | '<' => .place fun before behind => !inWord before && inWord behind
  | '>' => .place fun before behind => inWord before && !inWord behind
  | '\x60' => start
  | '\'' => stop
  | c => .one (· = c)

/-- Where an item stands in an alternative. -/
inductive Standing where
  | first
  | behindAnchor
  | inside
  deriving DecidableEq

/-- The groups that were met so far. -/
structure Groups where
  opened : Nat
  /-- The groups that are at their end. -/
  closed : List Nat

/-- What reading an expression gives: the expression, what stands behind it, and the groups. -/
abbrev Reading := Except RegularError (Regular × List Char × Groups)

/-- Reads one alternative, from its start or from further on; `alternatives` reads what stands in a
group. -/
def sequence (alternatives : List Char → Groups → Reading) :
    Nat → Standing → List Char → Groups → Reading
  | 0, _, cs, groups => .ok (.nothing, cs, groups)
  | budget + 1, standing, cs, groups =>
    if endsHere cs then .ok (.nothing, cs, groups)
    else do
      let (item, rest, groups) : Regular × List Char × Groups ← match cs with
        | [] => pure (.nothing, [], groups)
        | '\\' :: '(' :: rest => do
          let index := groups.opened + 1
          let (inner, rest, after) ← alternatives rest { groups with opened := index }
          match rest with
          | '\\' :: ')' :: rest =>
            pure (.group index inner, rest, { after with closed := index :: after.closed })
          | _ => throw .openGroup
        | ['\\'] => throw .trailingBackslash
        | '\\' :: c :: rest =>
          if c.isDigit && c ≠ '0' then
            let index := c.toNat - '0'.toNat
            if groups.closed.contains index then pure (.again index, rest, groups)
            else throw .badReference
          else pure (ofLetter c, rest, groups)
        | '.' :: rest => pure (.one fun _ => true, rest, groups)
        | '[' :: rest => do
          let (item, rest) ← bracket rest
          pure (item, rest, groups)
        | '^' :: rest =>
          pure (if standing = .first then start else .one (· = '^'), rest, groups)
        | '$' :: rest => pure (if endsHere rest then stop else .one (· = '$'), rest, groups)
        | c :: rest => pure (.one (· = c), rest, groups)
      let isAnchor := standing = .first && cs.head? = some '^'
      let (item, rest) ← if isAnchor then pure (item, rest) else repetitions rest.length item rest
      let next := if isAnchor then Standing.behindAnchor else .inside
      let (others, rest, groups) ← sequence alternatives budget next rest groups
      return (.both item others, rest, groups)

/-- Reads alternatives.  The budget has to be more than the length of the text. -/
def alternatives : Nat → List Char → Groups → Reading
  | 0, cs, groups => .ok (.nothing, cs, groups)
  | budget + 1, cs, groups => do
    let (r, rest, groups) ← sequence (alternatives budget) (cs.length + 1) .first cs groups
    match rest with
    | '\\' :: '|' :: rest => do
      let (others, rest, groups) ← alternatives budget rest groups
      return (.either r others, rest, groups)
    | _ => return (r, rest, groups)

/-- The regular expression that a text is. -/
def ofText (text : String) : Except RegularError Regular := do
  let cs := text.toList
  let (r, rest, _) ← alternatives (cs.length + 1) cs ⟨0, []⟩
  if rest.isEmpty then return r else throw .closedGroup

/-- Whether an expression has a group. -/
def hasGroup : Regular → Bool
  | .group _ _ => true
  | .both a b | .either a b => a.hasGroup || b.hasGroup
  | .repeated inner _ _ => inner.hasGroup
  | _ => false

/-! ## 4.  Matching -/

/-- How far a match has come. -/
structure Progress where
  /-- How many characters were matched. -/
  count : Nat
  /-- The character in front. -/
  before : Option Char
  rest : List Char
  /-- What the groups stood for, the latest first. -/
  groups : List (Nat × List Char)

/-- The progress behind some more characters. -/
def Progress.skip (p : Progress) (count : Nat) : Progress :=
  { p with
    count := p.count + count
    before := ((p.rest.take count).getLast?).or p.before
    rest := p.rest.drop count }

/-- The ways to repeat something, at most so often. -/
def repeatedOutcomes (once : Progress → List Progress) : Nat → Nat → Progress → List Progress
  | 0, least, p => if least = 0 then [p] else []
  | most + 1, least, p =>
    let longer := (once p).flatMap fun q =>
      if q.count = p.count && least = 0 then [] else repeatedOutcomes once most (least - 1) q
    if least = 0 then longer ++ [p] else longer

/-- The ways in which an expression matches from a place on. -/
def outcomes : Regular → Progress → List Progress
  | .nothing, p => [p]
  | .one holds, p =>
    match p.rest with
    | c :: _ => if holds c then [p.skip 1] else []
    | [] => []
  | .place holds, p => if holds p.before p.rest.head? then [p] else []
  | .group index inner, p =>
    (inner.outcomes p).map fun q =>
      { q with groups := (index, p.rest.take (q.count - p.count)) :: q.groups }
  | .again index, p =>
    match p.groups.lookup index with
    | some text => if text.isPrefixOf p.rest then [p.skip text.length] else []
    | none => []
  | .both a b, p => (a.outcomes p).flatMap b.outcomes
  | .either a b, p => a.outcomes p ++ b.outcomes p
  | .repeated inner least most, p =>
    let bound := p.rest.length + least + 1
    repeatedOutcomes inner.outcomes ((most.map (min bound)).getD bound) least p

/-- The longest match at the start of a text that stands behind a character. -/
def longestBehind? (r : Regular) (before : Option Char) (cs : List Char) : Option Progress :=
  match r.outcomes ⟨0, before, cs, []⟩ with
  | [] => none
  | first :: others => some (others.foldl (fun p q => if p.count < q.count then q else p) first)

/-- The longest match at the start of a text. -/
def longest? (r : Regular) (cs : List Char) : Option Progress := r.longestBehind? none cs

/-- Whether an expression matches somewhere in a text. -/
def occursIn (r : Regular) (cs : List Char) : Bool :=
  (List.range (cs.length + 1)).any fun n =>
    !(r.outcomes ⟨0, (cs.take n).getLast?, cs.drop n, []⟩).isEmpty

end Regular

end CountedStrings.Shell
