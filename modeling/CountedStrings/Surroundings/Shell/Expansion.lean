import CountedStrings.Surroundings.Shell.Arithmetic
import CountedStrings.Surroundings.Shell.Field

/-!
# Expansion of words

What the parts of a word stand for.

## 1.  Parameters

A parameter is a variable, an argument, or one of the special parameters that tell about the
interpreter.  `$@` and `$*` are all arguments at once.  Where fields are made, the borders between
the arguments stay visible (`Pattern.border`); elsewhere the first character of `IFS` joins them.

## 2.  Home directories

A tilde at the start of a word, and in the value of an assignment behind a colon too, stands for a
home directory.

## 3.  Parts

The parts of a word become pieces, one after the other.  A fallback in a parameter expansion is
looked at only if it is needed.  How commands are run to see what they print is handed in, since
commands are run elsewhere.

## 4.  Words

A word becomes fields, a text, or a pattern, depending on where it stands.
-/

namespace CountedStrings.Shell

/-! ## 1.  Parameters -/

/-- The letters of the options, in the order in which they are told. -/
def toldLetters : List Char :=
  ['p', 'u', 'b', 'a', 'C', 'E', 'V', 'v', 'x', 's', 'n', 'm', 'i', 'I', 'f', 'e']

/-- Where a part stands, as far as its expansion depends on that. -/
structure Surroundings where
  /-- Whether it stands in double quotes. -/
  quoted : Bool
  /-- Whether fields are made. -/
  splits : Bool
  /-- Whether it stands in the fallback of a parameter expansion. -/
  fallback : Bool
  /-- Whether a tilde at the start means something. -/
  tildeFirst : Bool
  /-- Whether a tilde behind a colon means something. -/
  tildeBehindColon : Bool

/-- The surroundings of a word that is made into fields. -/
def Surroundings.fields : Surroundings := ⟨false, true, false, true, false⟩

/-- The surroundings of a word that is neither split nor quoted. -/
def Surroundings.text : Surroundings := ⟨false, false, false, true, false⟩

/-- The surroundings of the value of an assignment. -/
def Surroundings.assigned : Surroundings := ⟨false, false, false, true, true⟩

/-- The surroundings of an arithmetic expression. -/
def Surroundings.plain : Surroundings := ⟨false, false, false, false, false⟩

/-- The surroundings of a text in which only the dollar sign and its like mean something. -/
def Surroundings.document : Surroundings := ⟨true, false, false, false, false⟩

/-- All arguments as one text. -/
def joinedArguments (x : Surroundings) (name : String) : Run String := do
  let s ← get
  let visible := x.splits && (name = "@" || !x.quoted)
  let between ←
    if visible then pure Pattern.border.toString
    else
      match ← valueOf? "IFS" with
      | none => pure " "
      | some text => pure (String.ofList (text.toList.take 1))
  return between.intercalate s.arguments

/-- The value of a parameter. -/
def parameterValue? (x : Surroundings) (name : String) : Run (Option String) := do
  let s ← get
  match name with
  | "?" => return some (toString s.status)
  | "$" => return some (toString s.original)
  | "#" => return some (toString s.arguments.length)
  | "@" | "*" => return some (← joinedArguments x name)
  | "-" => return some (String.ofList (toldLetters.filter s.options.contains))
  | "!" => return s.started.map toString
  | _ =>
    match Number.ofDigits? name with
    | some 0 => return some s.name
    | some (n + 1) => return s.arguments[n]?
    | none => valueOf? name

/-- Whether the fallback of an expansion is needed. -/
def isAbsent (orEmpty : Bool) : Option String → Bool
  | none => true
  | some text => orEmpty && text = ""

/-- The pieces of a text that came out of the expansion of a parameter. -/
def piecesOf (x : Surroundings) (name text : String) : Run (List Piece) := do
  let ofChar (c : Char) : Piece := if c = Pattern.border then .border else .glyph c x.quoted (!x.quoted)
  let pieces := text.toList.map ofChar
  if !x.quoted then return .region false :: pieces
  else if name = "@" && !(← get).arguments.isEmpty then return .region true :: pieces
  else return pieces

/-! ## 2.  Home directories -/

/-- The home directories of those whom the host knows. -/
def homes : List (String × String) :=
  [("root", "/root"), ("daemon", "/usr/sbin"), ("bin", "/bin"), ("sys", "/dev"), ("sync", "/bin"),
    ("games", "/usr/games"), ("man", "/var/cache/man"), ("lp", "/var/spool/lpd"),
    ("mail", "/var/mail"), ("news", "/var/spool/news"), ("uucp", "/var/spool/uucp"),
    ("proxy", "/bin"), ("www-data", "/var/www"), ("backup", "/var/backups"), ("list", "/var/list"),
    ("irc", "/run/ircd"), ("_apt", "/nonexistent"), ("nobody", "/nonexistent")]

/-- The home directory of somebody, or of the one who runs the interpreter. -/
def home? (name : String) : Run (Option String) :=
  if name = "" then valueOf? "HOME" else return homes.lookup name

/-- The pieces of a text with nothing special in it. -/
def plainPieces (x : Surroundings) (text : List Char) : List Piece :=
  let splits := x.fallback && !x.quoted
  let pieces := Piece.ofText x.quoted splits (String.ofList text)
  if splits && !text.isEmpty then .region false :: pieces else pieces

/-- The pieces of a text from a place where a tilde may stand.  The name behind the tilde ends in
front of a slash or with the word.  The budget has to be more than the length of the text. -/
def tildePieces (x : Surroundings) (last : Bool) : Nat → List Char → Run (List Piece)
  | 0, _ => return []
  | budget + 1, text => do
    let (first, text) ←
      match text with
      | '~' :: rest => do
        let name := rest.takeWhile fun c => c ≠ '/' && !(x.tildeBehindColon && c = ':')
        let behind := rest.drop name.length
        let home ← if behind.isEmpty && !last then pure none else home? (String.ofList name)
        match home with
        | some home => pure (Piece.ofText true false home, behind)
        | none => pure (plainPieces x ('~' :: name), behind)
      | text => pure ([], text)
    let before := if x.tildeBehindColon then text.takeWhile (· ≠ ':') else text
    match text.drop before.length with
    | [] => return first ++ plainPieces x before
    | colon :: behind =>
      return first ++ plainPieces x (before ++ [colon]) ++ (← tildePieces x last budget behind)

/-- The pieces of a text that was written down. -/
def textPieces (x : Surroundings) (last : Bool) (text : String) : Run (List Piece) := do
  let cs := text.toList
  if x.tildeFirst then tildePieces x last (cs.length + 1) cs
  else if x.tildeBehindColon then
    let before := cs.takeWhile (· ≠ ':')
    match cs.drop before.length with
    | [] => return plainPieces x cs
    | colon :: behind =>
      return plainPieces x (before ++ [colon]) ++ (← tildePieces x last (cs.length + 1) behind)
  else return plainPieces x cs

/-! ## 3.  Parts -/

/-- Runs commands; gives what they print. -/
abbrev Capture := Option Command → Run String

/-- Complains about a parameter that is needed, with what its expansion says about that. -/
def demandParameter (name : String) (orEmpty isEmpty : Bool) (text : String) : Run (List Piece) :=
  let reason :=
    if isEmpty then "parameter not set" ++ if orEmpty then " or null" else "" else text
  misuse (name ++ ": " ++ reason)

/-- The value of a parameter without a beginning or an end. -/
def trimmed (drop : List Glyph → List Char → List Char) (pattern : List Piece)
    (value : Option String) : String :=
  String.ofList (drop (Piece.toPattern pattern) (value.getD "").toList)

/-- Whether the parts between two quotes are all arguments and nothing else. -/
def areArguments : List Part → Bool
  | [.parameter name .value _] => name = "@"
  | _ => false

mutual

/-- The pieces that a part of a word expands to; whether it is the last part matters to a tilde. -/
def expandPart (capture : Capture) (x : Surroundings) (last : Bool) (part : Part) :
    Run (List Piece) :=
  match part with
  | .text text => textPieces x last text
  | .literal text =>
    return (if x.fallback then [.region false] else []) ++ Piece.ofText true false text
  | .quoted parts => do
    let inside := { x with quoted := true, tildeFirst := false, tildeBehindColon := false }
    let pieces ← expandParts capture inside parts
    return if areArguments parts then pieces else .quotes :: pieces
  | .output body => do return Piece.ofExpansion x.quoted (← capture body)
  | .arithmetic expression => do
    let n ← Arithmetic.value (Piece.toText (← expandParts capture .plain expression))
    return Piece.ofExpansion x.quoted (toString n)
  | .parameter name form word => do
    let fallback : Run (List Piece) :=
      expandParts capture { x with fallback := true, tildeFirst := !x.quoted } word
    let text : Run String := do
      let alone := { Surroundings.plain with quoted := x.quoted, tildeFirst := !x.quoted }
      return Piece.toText (← expandParts capture alone word)
    let value ← parameterValue? x name
    let own : Run (List Piece) := piecesOf x name (value.getD "")
    let needed : Run Unit := do
      if value.isNone && (← hasOption 'u') then misuse (name ++ ": parameter not set")
    match form with
    | .malformed => misuse "Bad substitution"
    | .value => needed *> own
    | .length => do
      needed
      return Piece.ofExpansion x.quoted (toString (value.getD "").length)
    | .default orEmpty => if isAbsent orEmpty value then fallback else own
    | .alternative orEmpty =>
      if isAbsent orEmpty value then return Piece.ofExpansion x.quoted "" else fallback
    | .assign orEmpty =>
      if isAbsent orEmpty value then do
        setVariable name (← text)
        piecesOf x name ((← parameterValue? x name).getD "")
      else own
    | .demand orEmpty =>
      if isAbsent orEmpty value then do
        demandParameter name orEmpty word.isEmpty (← text)
      else own
    | .dropBeginning longest => do
      needed
      let pattern ← expandParts capture .text word
      piecesOf x name (trimmed (Pattern.dropBeginning longest) pattern value)
    | .dropEnd longest => do
      needed
      let pattern ← expandParts capture .text word
      piecesOf x name (trimmed (Pattern.dropEnd longest) pattern value)

/-- The pieces that the parts of a word expand to. -/
def expandParts (capture : Capture) (x : Surroundings) (parts : List Part) : Run (List Piece) :=
  match parts with
  | [] => return []
  | part :: rest => do
    let first ← expandPart capture x rest.isEmpty part
    return first ++ (← expandParts capture { x with tildeFirst := false } rest)

end

/-! ## 4.  Words -/

namespace Word

/-- The text that a word stands for where it is neither split nor a pattern. -/
def expand (capture : Capture) (x : Surroundings) (word : Word) : Run String := do
  return Piece.toText (← expandParts capture x word)

/-- The pattern that a word stands for. -/
def expandPattern (capture : Capture) (word : Word) : Run (List Glyph) := do
  return Piece.toPattern (← expandParts capture .text word)

/-- The words that a command gets for a word. -/
def expandFields (capture : Capture) (word : Word) : Run (List String) := do
  let pieces ← expandParts capture .fields word
  let fields := splitFields (← separators) none pieces
  let s ← get
  if s.options.contains 'f' then return fields.map Pattern.toText
  else return fields.flatMap (fieldWords s.files)

/-- The words that a command gets for words. -/
def expandAll (capture : Capture) : List Word → Run (List String)
  | [] => return []
  | word :: rest => do
    let first ← word.expandFields capture
    return first ++ (← expandAll capture rest)

end Word

end CountedStrings.Shell
