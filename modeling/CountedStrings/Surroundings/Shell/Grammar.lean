import CountedStrings.Surroundings.Shell.Grammar.Assembly
import CountedStrings.Surroundings.Shell.Grammar.Input

/-!
# Reading commands

A text is read one complete line at a time, where a line goes on for as long as something in it is
still open.  What was read is run before anything behind it is looked at, so a mistake further down
does not keep the commands above it from running.

The functions below form one recursion, because words may hold commands and commands are made of
words.  A budget, larger than the nesting of any text of the given length, ends it.

`readLine` is what other modules use.
-/

namespace CountedStrings.Shell.Grammar

/-- What else a word is taken for when it is read. -/
structure Expected where
  /-- Newlines in front of it are skipped. -/
  newlines : Bool
  /-- It may be reserved. -/
  reserved : Bool
  /-- It may be an alias. -/
  aliases : Bool

/-- A word and nothing else. -/
def Expected.wordOnly : Expected := ⟨false, false, false⟩

/-- The first word of a command. -/
def Expected.command : Expected := ⟨false, true, true⟩

/-- The first word of a command, perhaps on a line further down. -/
def Expected.commandBelow : Expected := ⟨true, true, true⟩

/-- What a word is read for. -/
inductive Purpose where
  /-- A word of a command. -/
  | word
  /-- The delimiter of a here-document, in which nothing is expanded. -/
  | delimiter
  /-- The body of a here-document. -/
  | body (d : PendingDocument)

/-- Whether a word is the body of a here-document. -/
def Purpose.isBody : Purpose → Bool
  | .body _ => true
  | _ => false

/-- The characters that can stand for a parameter by themselves. -/
def isSpecialParameter (c : Char) : Bool :=
  ['!', '$', '#', '?', '*', '@', '-'].contains c || c.isDigit

/-- Looks for the delimiter of a here-document at the start of a line, of which the given character
was read already.  The line of the delimiter counts as the end of the text. -/
def atLineStart (d : PendingDocument) (c : Option Char) : Read (Option Char) := do
  let r ← get
  let cs := c.toList ++ r.rest
  let cs := if d.dropsTabs then cs.dropWhile (· = '\t') else cs
  let behind := cs.drop d.delimiter.length
  if d.delimiter.isPrefixOf cs && behind.head?.all (· = '\n') then
    set { r with rest := behind.drop 1, line := r.line + if behind.isEmpty then 0 else 1 }
    return none
  else
    set { r with rest := cs.drop 1 }
    return cs.head?

/-- The rest of a name whose first character was read; gives the character behind it too. -/
def nameLoop (holds : Char → Bool) : Nat → List Char → Read (String × Option Char)
  | 0, name => return (String.ofList name.reverse, none)
  | budget + 1, name => do
    match ← nextJoined with
    | some c =>
      if holds c then nameLoop holds budget (c :: name)
      else return (String.ofList name.reverse, some c)
    | none => return (String.ofList name.reverse, none)

/-- The name or number that begins with the given character, and the character behind it. -/
def readParameterName (budget : Nat) (first : Char) : Read (String × Option Char) :=
  nameLoop (if first.isDigit then Char.isDigit else continuesName) budget [first]

/-- What stands between the name of a parameter and the word behind it: nothing if the expansion
ends there, or else its form and how its word is taken. -/
def readForm (mode : Mode) (c : Option Char) : Read (Option (ParameterForm × Mode)) := do
  let mode := if mode = .arithmetic then .double else mode
  let orEmpty := c == some ':'
  let c ← if orEmpty then nextJoined else pure c
  match c, orEmpty with
  | some '\x7d', false => return none
  | some '-', _ => return some (.default orEmpty, mode)
  | some '+', _ => return some (.alternative orEmpty, mode)
  | some '=', _ => return some (.assign orEmpty, mode)
  | some '?', _ => return some (.demand orEmpty, mode)
  | some '%', false | some '#', false => do
    let again ← nextJoined
    let longest := again = c
    if !longest then unread again
    return some (if c = some '%' then .dropEnd longest else .dropBeginning longest, .plain)
  | some '\x7d', true => fail "Missing '\x7d'"
  | _, _ => return some (.malformed, mode)

/-- Opens the expansion of a parameter of which the name was read, or takes it as a whole. -/
def openNamed (a : Assembly) (name : String) (c : Option Char) : Read Assembly := do
  match ← readForm a.level.mode c with
  | none => return a.putPart (.parameter name .value [])
  | some (form, mode) => return a.openParameter name form mode

/-- How the word of an expansion is taken that changes nothing about it. -/
def sameMode (a : Assembly) : Mode :=
  if a.level.mode = .arithmetic then .double else a.level.mode

/-- Opens an expansion that is none. -/
def openMalformed (a : Assembly) (c : Option Char) : Read Assembly := do
  unread c
  return a.openParameter "" .malformed (sameMode a)

/-- Reads a parameter in braces up to its word. -/
def readBraces (budget : Nat) (a : Assembly) : Read Assembly := do
  match ← nextJoined with
  | none => openMalformed a none
  | some '#' => do
    let c ← nextJoined
    match c with
    | none => openNamed a "#" none
    | some d =>
      if continuesName d then
        let (name, behind) ← readParameterName budget d
        if behind = some '\x7d' then
          unread behind
          return a.openParameter name .length (sameMode a)
        else openMalformed a behind
      else
        let behind ← nextJoined
        if d = '\x7d' || behind ≠ some '\x7d' then
          unread behind
          openNamed a "#" c
        else if isSpecialParameter d then
          unread behind
          return a.openParameter d.toString .length (sameMode a)
        else openMalformed a behind
  | some c =>
    if continuesName c then
      let (name, behind) ← readParameterName budget c
      openNamed a name behind
    else if c = '\x7d' then openMalformed a (some c)
    else
      let behind ← nextJoined
      if isSpecialParameter c then openNamed a c.toString behind else openMalformed a behind

/-- The text between old-fashioned quotes that stand for what commands print. -/
def backquotedText (doubled : Bool) : Nat → List Char → Read (List Char)
  | 0, _ => fail "EOF in backquote substitution"
  | budget + 1, cs => do
    match ← nextJoined with
    | none => fail "EOF in backquote substitution"
    | some '\x60' => return cs.reverse
    | some '\\' => do
      match ← next with
      | none => fail "EOF in backquote substitution"
      | some c =>
        let drops := c = '\\' || c = '\x60' || c = '$' || (doubled && c = '"')
        backquotedText doubled budget (if drops then c :: cs else c :: '\\' :: cs)
    | some c => do
      if c = '\n' then countLine
      backquotedText doubled budget (c :: cs)

/-- A word that was read for the delimiter of a here-document. -/
def awaitDocument (descriptor : Nat) (dropsTabs : Bool) (w : Word) (quoted : Bool) :
    Read Redirection := do
  let r ← get
  let d : PendingDocument := ⟨r.nextDocument, w.plainText.toList, dropsTabs, quoted⟩
  set { r with
    pending := r.pending ++ [d]
    nextDocument := r.nextDocument + 1 }
  return .document descriptor r.nextDocument

/-- Where a descriptor is copied from, given the word behind the operator. -/
def sourceOf (w : Word) : Source :=
  match w with
  | [.text "-"] => .closed
  | [.text text] =>
    match text.toList with
    | [c] => if c.isDigit then .descriptor (c.toNat - '0'.toNat) else .word w
    | _ => .word w
  | _ => .word w

/-- The operator of a redirection, of which the first character was read. -/
def readRedirecting (first : Char) (descriptor : Option Nat) : Read Token := do
  if first = '>' then
    let n := descriptor.getD 1
    match ← nextJoined with
    | some '>' => return .redirecting (.file n .append)
    | some '|' => return .redirecting (.file n .replace)
    | some '&' => return .redirecting (.copy n)
    | c => do
      unread c
      return .redirecting (.file n .output)
  else
    let n := descriptor.getD 0
    match ← nextJoined with
    | some '<' => do
      let c ← nextJoined
      if c ≠ some '-' then unread c
      return .redirecting (.document n (c = some '-'))
    | some '&' => return .redirecting (.copy n)
    | some '>' => return .redirecting (.file n .readWrite)
    | c => do
      unread c
      return .redirecting (.file n .input)

/-- Makes a token of a word that was put together, and of the character behind it. -/
def finishWord (a : Assembly) (c : Option Char) : Read Token := do
  if a.level.mode = .arithmetic then fail "Missing '))'"
  if a.level.mode ≠ .plain then fail "Unterminated quoted string"
  if a.level.braces ≠ 0 then fail "Missing '\x7d'"
  let w := a.finish
  let descriptor? : Option (Option Nat) :=
    match w with
    | [] => some none
    | [.text text] =>
      match text.toList with
      | [d] => if d.isDigit then some (some (d.toNat - '0'.toNat)) else none
      | _ => none
    | _ => none
  match c, descriptor?, a.quoted with
  | some '>', some descriptor, false => readRedirecting '>' descriptor
  | some '<', some descriptor, false => readRedirecting '<' descriptor
  | _, _, _ => do
    unread c
    return .word w a.quoted

/-- An operator that may be written twice to mean another one. -/
def readDoubled (c : Char) : Read Token := do
  let again ← nextJoined
  if again = some c then return .operator (String.ofList [c, c])
  else
    unread again
    return .operator c.toString

/-- Commands as one command. -/
def joined : List Command → Command
  | [c] => c
  | commands => .sequence commands

/-- What stands for all arguments. -/
def allArguments : Word := [.quoted [.parameter "@" .value []]]

mutual

/-- Reads a word on from the given character; gives the character behind it too. -/
def wordLoop (budget : Nat) (purpose : Purpose) (a : Assembly) (c : Option Char) :
    Read (Assembly × Option Char) :=
  match budget with
  | 0 => fail "word too long"
  | budget + 1 => do
    match c with
    | none => return (a, none)
    | some d =>
      let mode := a.level.mode
      let goOn (a : Assembly) : Read (Assembly × Option Char) := do
        wordLoop budget purpose a (← if a.level.mode = .single then next else nextJoined)
      let document := purpose.isBody
      match d with
      | '\n' =>
        if mode = .plain && a.level.braces = 0 then return (a, c)
        else
          countLine
          let behind ← if mode = .single then next else nextJoined
          let behind ← match purpose with
            | .body d => atLineStart d behind
            | _ => pure behind
          wordLoop budget purpose (a.put '\n') behind
      | '\\' =>
        if mode = .single then goOn (a.put d)
        else
          match ← next with
          | none => goOn (a.putPart (.literal "\\"))
          | some e =>
            let l := a.level
            let keeps := l.doubled && e ≠ '\\' && e ≠ '\x60' && e ≠ '$' &&
              (e ≠ '"' || (document && l.braces = 0)) && (e ≠ '\x7d' || l.braces = 0)
            let text := String.ofList (if keeps then ['\\', e] else [e])
            goOn { a.putPart (.literal text) with quoted := true }
      | '\'' =>
        match mode with
        | .plain => goOn ((a.onLevel fun l => { l with mode := .single }).openQuotes document)
        | .single =>
          if document && a.level.braces = 0 then goOn (a.put d)
          else
            let a := a.closeQuotes document
            goOn { a.onLevel fun l => { l with mode := .plain } with quoted := true }
        | _ => goOn (a.put d)
      | '"' =>
        match mode with
        | .plain =>
          let a := a.onLevel fun l => { l with mode := .double, doubled := true }
          goOn (a.toggleDouble document true)
        | .double =>
          if document && a.level.braces = 0 then goOn (a.put d)
          else
            let ends := a.level.doubledBraces = 0
            let a := a.toggleDouble document false
            let a := a.onLevel fun l =>
              if ends then { l with mode := .plain, doubled := false } else l
            goOn { a with quoted := true }
        | _ => goOn (a.put d)
      | '\x60' =>
        match mode, purpose with
        | .single, _ => goOn (a.put d)
        | _, .delimiter => goOn { a.put d with quoted := true }
        | _, _ => do
          let text ← backquotedText a.level.doubled budget []
          goOn (a.putPart (.output (← backquoted budget text)))
      | '$' =>
        match mode, purpose with
        | .single, _ | _, .delimiter => goOn (a.put d)
        | _, _ => goOn (← dollar budget a)
      | '\x7d' => if mode = .single then goOn (a.put d) else goOn a.closeBrace
      | '(' =>
        match mode with
        | .arithmetic =>
          goOn ((a.onLevel fun l => { l with parentheses := l.parentheses + 1 }).put d)
        | .plain => if a.level.braces = 0 then return (a, c) else goOn (a.put d)
        | _ => goOn (a.put d)
      | ')' =>
        match mode with
        | .arithmetic =>
          if a.level.parentheses > 0 then
            goOn ((a.onLevel fun l => { l with parentheses := l.parentheses - 1 }).put d)
          else
            let again ← nextJoined
            if again = some ')' then goOn a.popLevel.closeFrame
            else
              unread again
              goOn (a.put d)
        | .plain => if a.level.braces = 0 then return (a, c) else goOn (a.put d)
        | _ => goOn (a.put d)
      | _ =>
        if mode = .plain && a.level.braces = 0 && [' ', '\t', ';', '&', '|', '<', '>'].contains d
        then return (a, c)
        else goOn (a.put d)

/-- Reads what stands behind a dollar sign. -/
def dollar (budget : Nat) (a : Assembly) : Read Assembly :=
  match budget with
  | 0 => fail "word too long"
  | budget + 1 => do
    match ← nextJoined with
    | none => return a.put '$'
    | some '(' => do
      let again ← nextJoined
      if again = some '(' then return a.openArithmetic
      else
        unread again
        return a.putPart (.output (← substituted budget))
    | some '\x7b' => readBraces budget a
    | some c =>
      if beginsName c then
        let (name, behind) ← readParameterName budget c
        unread behind
        return a.putPart (.parameter name .value [])
      else if isSpecialParameter c then return a.putPart (.parameter c.toString .value [])
      else
        unread (some c)
        return a.put '$'

/-- Reads commands up to a closing parenthesis. -/
def substituted (budget : Nat) : Read (Option Command) :=
  match budget with
  | 0 => fail "commands too deep"
  | budget + 1 => do
    let pending := (← get).pending
    modify fun r => { r with pending := [] }
    let body ← list budget false true
    let t ← readToken budget .wordOnly
    if !t.isOperator ")" then unexpectedFor t (.operator ")")
    let r ← get
    set { r with rest := [], interrupted := [] }
    readDocuments budget
    modify fun r' =>
      { r' with rest := r.rest, interrupted := r.interrupted, line := r.line, pending := pending }
    return body

/-- Reads commands from a text of their own. -/
def backquoted (budget : Nat) (text : List Char) : Read (Option Command) :=
  match budget with
  | 0 => fail "commands too deep"
  | budget + 1 => do
    let r ← get
    set { r with rest := text, interrupted := [], line := 1, pending := [] }
    let body ← list budget false true
    readDocuments budget
    modify fun r' =>
      { r' with
        rest := r.rest, interrupted := r.interrupted, line := r.line, pending := r.pending
        putBack := none }
    return body

/-- Reads the bodies of the here-documents that wait for them. -/
def readDocuments (budget : Nat) : Read Unit :=
  match budget with
  | 0 => fail "too many documents"
  | budget + 1 => do
    match (← get).pending with
    | [] => return
    | d :: pending => do
      modify fun r => { r with pending := pending }
      let first ← if d.verbatim then next else nextJoined
      let first ← atLineStart d first
      let start := Assembly.start (if d.verbatim then .single else .double) (!d.verbatim)
      let (a, _) ← wordLoop budget (.body d) start first
      if a.level.mode = .arithmetic then fail "Missing '))'"
      if a.level.braces ≠ 0 then fail "Missing '\x7d'"
      modify fun r => { r with documents := (d.number, a.finish) :: r.documents }
      readDocuments budget

/-- Reads a token and nothing into it. -/
def readBare (budget : Nat) (purpose : Purpose) : Read Token :=
  match budget with
  | 0 => fail "too many blanks"
  | budget + 1 => do
    match ← takePutBack with
    | some t => return t
    | none =>
      match ← nextJoined with
      | none => return .finish
      | some ' ' | some '\t' => readBare budget purpose
      | some '#' => do
        dropLine
        readBare budget purpose
      | some '\n' => do
        countLine
        return .newline
      | some '&' => readDoubled '&'
      | some '|' => readDoubled '|'
      | some ';' => readDoubled ';'
      | some '(' => return .operator "("
      | some ')' => return .operator ")"
      | c => do
        let (a, behind) ← wordLoop budget purpose (.start .plain false) c
        finishWord a behind

/-- Skips newlines, with the here-documents behind them. -/
def skipNewlines (budget : Nat) (t : Token) : Read Token :=
  match budget with
  | 0 => fail "too many lines"
  | budget + 1 => do
    match t with
    | .newline => do
      readDocuments budget
      skipNewlines budget (← readBare budget .word)
    | _ => return t

/-- Reads a token. -/
def readToken (budget : Nat) (e : Expected) : Read Token :=
  match budget with
  | 0 => fail "too many tokens"
  | budget + 1 => do
    let t ← readBare budget .word
    let t ← if e.newlines then skipNewlines budget t else pure t
    let aliases := e.aliases || (← get).aliasNext
    modify fun r => { r with aliasNext := false }
    match t with
    | .word w false =>
      match w.bare? with
      | none => return t
      | some text =>
        if e.reserved && Token.reservedWords.contains text then return .reserved text
        else if aliases then
          match ← alias? text with
          | none => return t
          | some value => do
            if value ≠ "" then interrupt text value
            readToken budget { e with aliases := true }
        else return t
    | _ => return t

/-- Reads the word behind the operator of a redirection. -/
def readTarget (budget : Nat) (r : Redirecting) : Read Redirection :=
  match budget with
  | 0 => fail "too many redirections"
  | budget + 1 => do
    let purpose := match r with
      | .document _ _ => Purpose.delimiter
      | _ => Purpose.word
    match ← readBare budget purpose with
    | .word w quoted =>
      match r with
      | .file descriptor mode => return .file descriptor mode w
      | .copy descriptor => return .copy descriptor (sourceOf w)
      | .document descriptor dropsTabs => awaitDocument descriptor dropsTabs w quoted
    | t => unexpected t

/-- Reads the redirections behind a command. -/
def readRedirections (budget : Nat) : Read (List Redirection) :=
  match budget with
  | 0 => fail "too many redirections"
  | budget + 1 => do
    match ← readToken budget .command with
    | .redirecting r => do
      let first ← readTarget budget r
      return first :: (← readRedirections budget)
    | t => do
      putBack t
      return []

/-- Reads a list of commands.  A list on one line ends with the line; any other ends in front of
something that cannot begin a command, and `mayBeEmpty` says whether it can end so at once. -/
def list (budget : Nat) (oneLine mayBeEmpty : Bool) : Read (Option Command) :=
  match budget with
  | 0 => fail "commands too deep"
  | budget + 1 => do
    match ← listLoop budget oneLine mayBeEmpty with
    | [] => return none
    | commands => return some (joined commands)

/-- Reads the commands of a list. -/
def listLoop (budget : Nat) (oneLine mayEnd : Bool) : Read (List Command) :=
  match budget with
  | 0 => fail "too many commands"
  | budget + 1 => do
    match ← readToken budget ⟨!oneLine, true, true⟩ with
    | .newline => do
      readDocuments budget
      return []
    | .finish => do
      putBack .finish
      return []
    | t => do
      putBack t
      if !oneLine && mayEnd && t.endsList then return []
      let c ← andOr budget
      let t ← readToken budget .wordOnly
      let c := if t.isOperator "&" then .background c else c
      if t.isOperator "&" || t.isOperator ";" then
        return c :: (← listLoop budget oneLine true)
      else
        putBack t
        match t with
        | .newline | .finish => return c :: (← listLoop budget oneLine true)
        | _ => if oneLine then unexpected t else return [c]

/-- Reads commands of which one runs only if the one before it succeeds or fails. -/
def andOr (budget : Nat) : Read Command :=
  match budget with
  | 0 => fail "commands too deep"
  | budget + 1 => do
    andOrLoop budget (← pipeline budget .wordOnly)

/-- Reads what follows the first of such commands. -/
def andOrLoop (budget : Nat) (first : Command) : Read Command :=
  match budget with
  | 0 => fail "too many commands"
  | budget + 1 => do
    let t ← readToken budget .wordOnly
    if t.isOperator "&&" then
      andOrLoop budget (.both first (← pipeline budget .commandBelow))
    else if t.isOperator "||" then
      andOrLoop budget (.either first (← pipeline budget .commandBelow))
    else
      putBack t
      return first

/-- Reads a pipeline. -/
def pipeline (budget : Nat) (e : Expected) : Read Command :=
  match budget with
  | 0 => fail "commands too deep"
  | budget + 1 => do
    let t ← readToken budget e
    let negated := t.isReserved "!"
    if !negated then putBack t
    let first ← command budget (if negated then .command else .wordOnly)
    let others ← pipelineLoop budget
    let c := if others.isEmpty then first else .pipeline (first :: others)
    return if negated then .negation c else c

/-- Reads the commands of a pipeline behind the first. -/
def pipelineLoop (budget : Nat) : Read (List Command) :=
  match budget with
  | 0 => fail "too many commands"
  | budget + 1 => do
    let t ← readToken budget .wordOnly
    if t.isOperator "|" then
      let c ← command budget .commandBelow
      return c :: (← pipelineLoop budget)
    else
      putBack t
      return []

/-- Reads a reserved word that has to follow. -/
def demandReserved (budget : Nat) (text : String) (e : Expected) : Read Unit :=
  match budget with
  | 0 => fail "commands too deep"
  | budget + 1 => do
    let t ← readToken budget e
    if !t.isReserved text then unexpectedFor t (.reserved text)

/-- Reads a list of commands that cannot be empty. -/
def body (budget : Nat) : Read Command :=
  match budget with
  | 0 => fail "commands too deep"
  | budget + 1 => do
    return (← list budget false false).getD (.sequence [])

/-- Reads a command. -/
def command (budget : Nat) (e : Expected) : Read Command :=
  match budget with
  | 0 => fail "commands too deep"
  | budget + 1 => do
    let line := (← get).line
    let redirected (c : Command) : Read Command := do
      match ← readRedirections budget with
      | [] => return c
      | redirections => return .redirected line c redirections
    match ← readToken budget e with
    | .reserved "if" => do
      let c ← conditional budget
      demandReserved budget "fi" .wordOnly
      redirected c
    | .reserved "while" => do
      let c ← loop budget true
      redirected c
    | .reserved "until" => do
      let c ← loop budget false
      redirected c
    | .reserved "for" => do
      let c ← each budget line
      redirected c
    | .reserved "case" => do
      let c ← select budget line
      redirected c
    | .operator "(" => do
      let c ← body budget
      let t ← readToken budget .wordOnly
      if !t.isOperator ")" then unexpectedFor t (.operator ")")
      return .subshell line c (← readRedirections budget)
    | .reserved "\x7b" => do
      let c ← body budget
      demandReserved budget "\x7d" .wordOnly
      redirected c
    | .word w quoted => do
      putBack (.word w quoted)
      simple budget (← get).line
    | .redirecting r => do
      putBack (.redirecting r)
      simple budget (← get).line
    | t => unexpected t

/-- Reads a conditional command up to its end. -/
def conditional (budget : Nat) : Read Command :=
  match budget with
  | 0 => fail "commands too deep"
  | budget + 1 => do
    let test ← body budget
    demandReserved budget "then" .wordOnly
    let yes ← body budget
    match ← readToken budget .wordOnly with
    | .reserved "elif" => return .conditional test yes (some (← conditional budget))
    | .reserved "else" => return .conditional test yes (some (← body budget))
    | t => do
      putBack t
      return .conditional test yes none

/-- Reads a loop. -/
def loop (budget : Nat) (whileSucceeds : Bool) : Read Command :=
  match budget with
  | 0 => fail "commands too deep"
  | budget + 1 => do
    let test ← body budget
    demandReserved budget "do" .wordOnly
    let c ← body budget
    demandReserved budget "done" .wordOnly
    return .loop whileSucceeds test c

/-- Reads a loop over words. -/
def each (budget line : Nat) : Read Command :=
  match budget with
  | 0 => fail "commands too deep"
  | budget + 1 => do
    match ← readToken budget .wordOnly with
    | .word w false =>
      let name := w.bare?.getD ""
      if !isName name then fail "Bad for loop variable"
      let t ← readToken budget .commandBelow
      let words ←
        if t.isReserved "in" then do
          let (words, t) ← readWords budget
          match t with
          | .newline => pure words
          | t => if t.isOperator ";" then pure words else unexpected t
        else do
          if !t.isOperator ";" then putBack t
          pure [allArguments]
      demandReserved budget "do" .commandBelow
      let c ← body budget
      demandReserved budget "done" .wordOnly
      return .each line name words c
    | _ => fail "Bad for loop variable"

/-- Reads words; gives the token behind them too. -/
def readWords (budget : Nat) : Read (List Word × Token) :=
  match budget with
  | 0 => fail "too many words"
  | budget + 1 => do
    match ← readToken budget .wordOnly with
    | .word w _ => do
      let (words, t) ← readWords budget
      return (w :: words, t)
    | t => return ([], t)

/-- Reads a choice between patterns. -/
def select (budget line : Nat) : Read Command :=
  match budget with
  | 0 => fail "commands too deep"
  | budget + 1 => do
    match ← readToken budget .wordOnly with
    | .word w _ => do
      demandReserved budget "in" .commandBelow
      return .select line w (← branches budget)
    | t => unexpectedFor t (.word [] false)

/-- Reads the branches of a choice, and its end. -/
def branches (budget : Nat) : Read (List Branch) :=
  match budget with
  | 0 => fail "too many branches"
  | budget + 1 => do
    let t ← readToken budget ⟨true, true, false⟩
    if t.isReserved "esac" then return []
    let t ← if t.isOperator "(" then readToken budget .wordOnly else pure t
    let patterns ← patternsFrom budget t
    let c ← list budget false true
    let t ← readToken budget ⟨true, true, false⟩
    if t.isReserved "esac" then return [.mk patterns c]
    else if t.isOperator ";;" then return .mk patterns c :: (← branches budget)
    else unexpectedFor t (.operator ";;")

/-- Reads the patterns of a branch, of which the first token was read, and the parenthesis. -/
def patternsFrom (budget : Nat) (t : Token) : Read (List Word) :=
  match budget with
  | 0 => fail "too many patterns"
  | budget + 1 => do
    let pattern : Word := match t with
      | .word w _ => w
      | .reserved text => [.text text]
      | _ => []
    let t ← readToken budget .wordOnly
    if t.isOperator "|" then
      return pattern :: (← patternsFrom budget (← readToken budget .wordOnly))
    else if t.isOperator ")" then return [pattern]
    else unexpectedFor t (.operator ")")

/-- Reads a command of words. -/
def simple (budget line : Nat) : Read Command :=
  match budget with
  | 0 => fail "commands too deep"
  | budget + 1 => simpleLoop budget line [] [] []

/-- Reads a command of words of which some were read; all that was read stands in reverse. -/
def simpleLoop (budget line : Nat) (assignments : List Assignment) (words : List Word)
    (redirections : List Redirection) : Read Command :=
  match budget with
  | 0 => fail "too many words"
  | budget + 1 => do
    match ← readToken budget { Expected.wordOnly with aliases := words.isEmpty } with
    | .word w _ =>
      match words, w.assignment? with
      | [], some (name, value) =>
        simpleLoop budget line (.mk name value :: assignments) words redirections
      | _, _ => simpleLoop budget line assignments (w :: words) redirections
    | .redirecting r => do
      let r ← readTarget budget r
      simpleLoop budget line assignments words (r :: redirections)
    | t =>
      match t.isOperator "(", words, assignments, redirections with
      | true, [name], [], [] => do
        let t ← readToken budget .wordOnly
        if !t.isOperator ")" then unexpectedFor t (.operator ")")
        let name := name.bare?.getD ""
        if !isName name || specialCommands.contains name then fail "Bad function name"
        return .define name (← command budget .commandBelow)
      | _, _, _, _ => do
        putBack t
        return .simple line assignments.reverse words.reverse redirections.reverse

end

/-! ## Lines -/

/-- A here-document that does not end in front of the text's end. -/
def endless : PendingDocument := ⟨0, ['\x00', '\n'], false, false⟩

/-- A text as a word in which only the dollar sign and its like mean something. -/
def quotedWord? (text : String) : Option Word :=
  let cs := text.toList
  let read : Read Word := do
    let first ← nextJoined
    let (a, _) ← wordLoop (1000 + 16 * cs.length) (.body endless) (.start .double true) first
    if a.level.mode = .arithmetic || a.level.braces ≠ 0 then fail "Missing '\x7d'"
    return a.finish
  match read.run (Reader.ofText ∅ 0 cs) with
  | .ok w _ => some w
  | .error _ _ => none

/-- What was read of a text. -/
inductive Line where
  /-- There is no more. -/
  | finish
  /-- The commands of a line, if there were any, and the reader behind them. -/
  | commands (c : Option Command) (r : Reader)

/-- The budget for reading what is left of a text. -/
def Reader.budget (r : Reader) : Nat := 1000000 + 16 * r.rest.length

/-- Reads a complete line. -/
def readLine (r : Reader) : Except SyntaxError Line :=
  match (list r.budget true false).run { r with putBack := none, pending := [] } with
  | .ok none r =>
    match r.putBack with
    | some .finish => .ok .finish
    | _ => .ok (.commands none r)
  | .ok (some c) r => .ok (.commands (some c) r)
  | .error e _ => .error { e with message := "Syntax error: " ++ e.message }

end CountedStrings.Shell.Grammar
