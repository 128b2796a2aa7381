import CountedStrings.Surroundings.Shell.Variables

/-!
# Arithmetic

Expressions of whole numbers with 64 bits, as they stand between `$((` and `))`.  The operators are
those of many languages, from assignments, which bind least, to signs, which bind most:

    = *= /= %= += -= <<= >>= &= ^= |=     from right to left
    ? :                                    from right to left
    ||   &&   |   ^   &   == !=   < <= > >=   << >>   + -   * / %
    ! ~ - +

An expression is evaluated while it is read.  What need not be evaluated is read all the same, but
nothing is assigned or looked up in it, and no division in it fails.
-/

namespace CountedStrings.Shell.Arithmetic

/-- A number, a name or an operator. -/
inductive Token where
  | number (n : Int)
  | name (name : String)
  | operator (text : String)
  /-- A character that means nothing. -/
  | unknown
  deriving DecidableEq

/-- The operators, the longer ones first. -/
def operators : List String :=
  ["<<=", ">>=", "<<", ">>", "<=", ">=", "==", "!=", "&&", "||", "*=", "/=", "%=", "+=", "-=", "&=",
    "^=", "|=", "=", "?", ":", "|", "^", "&", "<", ">", "+", "-", "*", "/", "%", "!", "~", "(", ")"]

/-- The operator at the start of a text, and what is behind it. -/
def operator? (cs : List Char) : Option (String × List Char) :=
  (operators.find? fun op => op.toList.isPrefixOf cs).map fun op => (op, cs.drop op.length)

/-- The tokens of a text.  The budget has to be its length. -/
def tokens : Nat → List Char → List Token
  | 0, _ | _, [] => []
  | budget + 1, c :: rest =>
    if c = ' ' || c = '\t' || c = '\n' then tokens budget rest
    else if c.isDigit then
      let n := Number.scan none (c :: rest)
      .number n.value :: tokens budget n.rest
    else if beginsName c then
      let name := c :: rest.takeWhile continuesName
      .name (String.ofList name) :: tokens budget ((c :: rest).drop name.length)
    else
      match operator? (c :: rest) with
      | some (op, rest) => .operator op :: tokens budget rest
      | none => [.unknown]

/-- A number cut to 64 bits. -/
def wrap (n : Int) : Int := n.bmod (Nat.pow 2 64)

/-- The number of places that a shift moves by. -/
def places (n : Int) : Nat := (n % 64).toNat

/-- A number as a set of bits. -/
def bits (n : Int) : Nat := (n % Int.pow 2 64).toNat

/-- One for what holds, zero for what does not. -/
def truth (b : Bool) : Int := if b then 1 else 0

/-- The number of an operation of two numbers, unless it has none. -/
def operate (op : String) (a b : Int) : Option Int :=
  match op with
  | "*" => some (wrap (a * b))
  | "/" => if b = 0 then none else some (wrap (a.tdiv b))
  | "%" => if b = 0 then none else some (a.tmod b)
  | "+" => some (wrap (a + b))
  | "-" => some (wrap (a - b))
  | "<<" => some (wrap (a * Int.pow 2 (places b)))
  | ">>" => some (a.fdiv (Int.pow 2 (places b)))
  | "<" => some (truth (a < b))
  | "<=" => some (truth (a ≤ b))
  | ">" => some (truth (b < a))
  | ">=" => some (truth (b ≤ a))
  | "==" => some (truth (a = b))
  | "!=" => some (truth (a ≠ b))
  | "&" => some (wrap (bits a &&& bits b))
  | "^" => some (wrap (bits a ^^^ bits b))
  | "|" => some (wrap (bits a ||| bits b))
  | _ => none

/-- How strongly an operator of two numbers binds, if a token is one. -/
def strength? : Token → Option Nat
  | .operator op =>
    if ["*", "/", "%"].contains op then some 8
    else if ["+", "-"].contains op then some 7
    else if ["<<", ">>"].contains op then some 6
    else if ["<", "<=", ">", ">="].contains op then some 5
    else if ["==", "!="].contains op then some 4
    else if op = "&" then some 3
    else if op = "^" then some 2
    else if op = "|" then some 1
    else none
  | _ => none

/-- The operator of an assignment without its `=`, if a token is one. -/
def assigned? : Token → Option String
  | .operator "=" => some ""
  | .operator op =>
    if ["<<=", ">>=", "*=", "/=", "%=", "+=", "-=", "&=", "^=", "|="].contains op then
      some (String.ofList op.toList.dropLast)
    else none
  | _ => none

/-- Complains about an expression and stops. -/
def complainAbout {α : Type} (whole message : String) : Run α :=
  misuse ("arithmetic expression: " ++ message ++ ": \"" ++ whole ++ "\"")

/-- The number in a variable. -/
def numberIn (name : String) : Run Int := do
  let text := (← valueOf? name).getD ""
  let cs := text.toList
  let n := Number.scan none cs
  if n.overflows || n.rest.any fun c => !Number.isBlank c then misuse ("Illegal number: " ++ text)
  return n.value

/-- The number of an operation, or a complaint; none is wanted where nothing is evaluated. -/
def combine (whole op : String) (live : Bool) (a b : Int) : Run Int :=
  if live then
    match operate op a b with
    | some n => pure n
    | none => complainAbout whole "division by zero"
  else pure b

mutual

/-- The value of an assignment or of what binds more, and the tokens behind it. -/
def assignment (budget : Nat) (whole : String) (live : Bool) (ts : List Token) :
    Run (Int × List Token) :=
  match budget with
  | 0 => complainAbout whole "too deep"
  | budget + 1 =>
    match ts with
    | .name name :: op :: rest =>
      match assigned? op with
      | none => choice budget whole live ts
      | some op => do
        let (n, rest) ← assignment budget whole live rest
        if live then
          let old ← if op = "" then pure 0 else numberIn name
          let n ← if op = "" then pure n else combine whole op true old n
          setVariable name (toString n)
          return (n, rest)
        else return (n, rest)
    | _ => choice budget whole live ts

/-- The value of a choice or of what binds more. -/
def choice (budget : Nat) (whole : String) (live : Bool) (ts : List Token) :
    Run (Int × List Token) :=
  match budget with
  | 0 => complainAbout whole "too deep"
  | budget + 1 => do
    let (a, rest) ← either budget whole live ts
    match rest with
    | .operator "?" :: rest => do
      let (b, rest) ← assignment budget whole (live && a ≠ 0) rest
      match rest with
      | .operator ":" :: rest => do
        let (c, rest) ← choice budget whole (live && a = 0) rest
        return (if a ≠ 0 then b else c, rest)
      | _ => complainAbout whole "expecting ':'"
    | _ => return (a, rest)

/-- The value of a disjunction or of what binds more. -/
def either (budget : Nat) (whole : String) (live : Bool) (ts : List Token) :
    Run (Int × List Token) :=
  match budget with
  | 0 => complainAbout whole "too deep"
  | budget + 1 => do
    let (a, rest) ← both budget whole live ts
    match rest with
    | .operator "||" :: rest => do
      let (b, rest) ← either budget whole (live && a = 0) rest
      return (truth (a ≠ 0 || b ≠ 0), rest)
    | _ => return (a, rest)

/-- The value of a conjunction or of what binds more. -/
def both (budget : Nat) (whole : String) (live : Bool) (ts : List Token) :
    Run (Int × List Token) :=
  match budget with
  | 0 => complainAbout whole "too deep"
  | budget + 1 => do
    let (first, rest) ← primary budget whole live ts
    let (a, rest) ← operation budget whole live 0 first rest
    match rest with
    | .operator "&&" :: rest => do
      let (b, rest) ← both budget whole (live && a ≠ 0) rest
      return (truth (a ≠ 0 && b ≠ 0), rest)
    | _ => return (a, rest)

/-- Goes on from a number with the operators that bind more than the given strength. -/
def operation (budget : Nat) (whole : String) (live : Bool) (least : Nat) (a : Int)
    (ts : List Token) : Run (Int × List Token) :=
  match budget with
  | 0 => complainAbout whole "too deep"
  | budget + 1 =>
    match ts with
    | .operator op :: rest =>
      match strength? (.operator op) with
      | none => return (a, ts)
      | some strength =>
        if strength ≤ least then return (a, ts)
        else do
          let (b, rest) ← primary budget whole live rest
          let (b, rest) ← operation budget whole live strength b rest
          let a ← combine whole op live a b
          operation budget whole live least a rest
    | _ => return (a, ts)

/-- The value of a number, a name, a parenthesis or what has a sign in front. -/
def primary (budget : Nat) (whole : String) (live : Bool) (ts : List Token) :
    Run (Int × List Token) :=
  match budget with
  | 0 => complainAbout whole "too deep"
  | budget + 1 =>
    match ts with
    | .number n :: rest => return (n, rest)
    | .name name :: rest => do
      let n ← if live then numberIn name else pure 0
      return (n, rest)
    | .operator "(" :: rest => do
      let (n, rest) ← assignment budget whole live rest
      match rest with
      | .operator ")" :: rest => return (n, rest)
      | _ => complainAbout whole "expecting ')'"
    | .operator "+" :: rest => primary budget whole live rest
    | .operator "-" :: rest => do
      let (n, rest) ← primary budget whole live rest
      return (wrap (-n), rest)
    | .operator "!" :: rest => do
      let (n, rest) ← primary budget whole live rest
      return (truth (n = 0), rest)
    | .operator "~" :: rest => do
      let (n, rest) ← primary budget whole live rest
      return (-n - 1, rest)
    | _ => complainAbout whole "expecting primary"

end

/-- The value of an expression. -/
def value (text : String) : Run Int := do
  let cs := text.toList
  let (n, rest) ← assignment (8 * cs.length + 16) text true (tokens cs.length cs)
  if rest.isEmpty then return n else complainAbout text "expecting EOF"

end CountedStrings.Shell.Arithmetic
