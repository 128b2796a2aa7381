/-!
# Numbers in arguments

Numbers as commands read them in their arguments: blanks, a sign, and digits to a base.  `scan`
gives the number at the start of a text together with what stands behind it; the others say which
texts are numbers as a whole.

Numbers have 64 bits.  One that is larger is cut off at the largest, and `overflows` tells.
-/

namespace CountedStrings.Shell

/-- A number at the start of a text. -/
structure Scanned where
  /-- The number, cut off if it is too large; zero if there is none. -/
  value : Int
  /-- Whether it was cut off. -/
  overflows : Bool
  /-- What stands behind it: the whole text if there is none. -/
  rest : List Char

namespace Number

/-- The blanks in front of and behind numbers. -/
def isBlank (c : Char) : Bool := c = ' ' || (0x09 ≤ c.toNat && c.toNat ≤ 0x0D)

/-- The value of a digit, whatever the base. -/
def digit? (c : Char) : Option Nat :=
  if c.isDigit then some (c.toNat - '0'.toNat)
  else if c.isLower then some (c.toNat - 'a'.toNat + 10)
  else if c.isUpper then some (c.toNat - 'A'.toNat + 10)
  else none

/-- Whether a character is a digit to a base. -/
def isDigitOf (base : Nat) (c : Char) : Bool := (digit? c).any (· < base)

/-- The value of digits to a base. -/
def digitsValue (base : Nat) (digits : List Char) : Nat :=
  digits.foldl (fun n c => n * base + (digit? c).getD 0) 0

/-- The largest number. -/
def largest : Int := 9223372036854775807

/-- The smallest number. -/
def smallest : Int := -9223372036854775808

/-- The base that a number is written in, and its digits: eight behind a zero, sixteen behind `0x`. -/
def baseOf : List Char → Nat × List Char
  | '0' :: x :: d :: rest =>
    if (x = 'x' || x = 'X') && isDigitOf 16 d then (16, d :: rest) else (8, '0' :: x :: d :: rest)
  | '0' :: rest => (8, '0' :: rest)
  | cs => (10, cs)

/-- The sign of a number, and what stands behind it. -/
def signOf : List Char → Bool × List Char
  | '-' :: rest => (true, rest)
  | '+' :: rest => (false, rest)
  | cs => (false, cs)

/-- The number at the start of a text, between two bounds; without a base, its first digits tell. -/
def scanWithin (least most : Int) (base : Option Nat) (text : List Char) : Scanned :=
  let (negative, cs) := signOf (text.dropWhile isBlank)
  let (base, cs) := match base with
    | some base => (base, cs)
    | none => baseOf cs
  let digits := cs.takeWhile (isDigitOf base)
  if digits.isEmpty then ⟨0, false, text⟩
  else
    let size : Int := digitsValue base digits
    let value := if negative then -size else size
    let rest := cs.drop digits.length
    if value < least then ⟨least, true, rest⟩
    else if most < value then ⟨most, true, rest⟩
    else ⟨value, false, rest⟩

/-- The number at the start of a text. -/
def scan (base : Option Nat) (text : List Char) : Scanned :=
  scanWithin smallest largest base text

/-- The number that a text is, with blanks at its ends. -/
def ofText? (base : Option Nat) (text : String) : Option Int :=
  let cs := text.toList
  let n := scan base cs
  if n.overflows || n.rest.length = cs.length || n.rest.any fun c => !isBlank c then none
  else some n.value

/-- The number that a text is, if it is made of digits and nothing else. -/
def ofDigits? (text : String) : Option Nat :=
  if text ≠ "" && text.all Char.isDigit then some (digitsValue 10 text.toList) else none

end Number

end CountedStrings.Shell
