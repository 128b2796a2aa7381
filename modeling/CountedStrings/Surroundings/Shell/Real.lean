import CountedStrings.Surroundings.Shell.Number

/-!
# Real numbers in text

Real numbers as commands read and write them.  A number is held in binary with so many digits as the
command has room for, and it is written as exactly as was asked for: what is printed is the held
number rounded to so many decimal digits, with a tie going to the even digit.

## 1.  Held numbers

`Real.nearest` rounds a quotient to the number that is held for it.

## 2.  Reading

`Real.scan` reads a number at the start of a text: digits with a point and an exponent, in base ten or
sixteen, or the names of infinity and of what is no number.

## 3.  Writing

`fixed`, `scientific`, `general` and `hexadecimal` write the digits of a number without its sign.
-/

namespace CountedStrings.Shell

/-! ## 1.  Held numbers -/

/-- What a command has room for. -/
structure Precision where
  /-- How many binary digits a number has. -/
  digits : Nat
  /-- The exponent of the smallest number. -/
  least : Int
  /-- The exponent of a number above all others. -/
  most : Int
  /-- How many binary digits stand in front of the point in base sixteen. -/
  leading : Nat

/-- Numbers of 64 bits. -/
def Precision.double : Precision := ⟨53, -1074, 1024, 1⟩

/-- Numbers of 80 bits. -/
def Precision.extended : Precision := ⟨64, -16445, 16384, 4⟩

/-- A real number as it is held. -/
inductive Real where
  /-- The number that is a whole number times a power of two. -/
  | finite (negative : Bool) (mantissa : Nat) (exponent : Int)
  | infinite (negative : Bool)
  | notANumber (negative : Bool)
  deriving DecidableEq

/-- A quotient rounded to a whole number, a tie to the even one. -/
def roundQuotient (numerator denominator : Nat) : Nat :=
  let q := numerator / denominator
  let r := numerator % denominator
  if denominator < 2 * r || (2 * r = denominator && q % 2 = 1) then q + 1 else q

/-- A numerator and a denominator multiplied by a power of two. -/
def scaleByTwo (n d : Nat) (exponent : Int) : Nat × Nat :=
  if 0 ≤ exponent then (n * Nat.pow 2 exponent.toNat, d) else (n, d * Nat.pow 2 (-exponent).toNat)

/-- The same with a power of ten. -/
def scaleByTen (n d : Nat) (exponent : Int) : Nat × Nat :=
  if 0 ≤ exponent then (n * Nat.pow 10 exponent.toNat, d) else (n, d * Nat.pow 10 (-exponent).toNat)

namespace Real

/-- The number that is held for a quotient. -/
def nearest (p : Precision) (negative : Bool) (n d : Nat) : Real :=
  if n = 0 then .finite negative 0 0
  else
    let guess : Int := (Nat.log2 n : Int) - Nat.log2 d - p.digits + 1
    let (a, b) := scaleByTwo n d (-guess)
    let exact := if a < b * Nat.pow 2 (p.digits - 1) then guess - 1 else guess
    let exponent := max exact p.least
    let (a, b) := scaleByTwo n d (-exponent)
    let mantissa := roundQuotient a b
    if p.most < exponent + Nat.log2 mantissa + 1 && mantissa ≠ 0 then .infinite negative
    else .finite negative mantissa exponent

/-- Whether a number is less than zero, or a zero with a sign. -/
def isNegative : Real → Bool
  | .finite negative _ _ | .infinite negative | .notANumber negative => negative

/-! ## 2.  Reading -/

/-- A number at the start of a text. -/
structure ScannedReal where
  value : Real
  /-- Whether the number is too large or too small to be held. -/
  outOfRange : Bool
  /-- What stands behind it: the whole text if there is none. -/
  rest : List Char

/-- The exponents beyond which nothing is held. -/
def exponentBound : Int := 40000

/-- The exponent behind one of the given letters, and what stands behind it. -/
def scanExponent (letters : List Char) (cs : List Char) : Int × List Char :=
  match cs with
  | c :: rest =>
    let (negative, digits) := Number.signOf rest
    let shown := digits.takeWhile Char.isDigit
    if letters.contains c && !shown.isEmpty then
      let n : Int := Number.digitsValue 10 shown
      let n := min n exponentBound
      (if negative then -n else n, digits.drop shown.length)
    else (0, cs)
  | [] => (0, cs)

/-- The digits of a number with a point: all of them, how many stand behind the point, and what stands
behind them. -/
def scanDigits (base : Nat) (cs : List Char) : List Char × Nat × List Char :=
  let whole := cs.takeWhile (Number.isDigitOf base)
  match cs.drop whole.length with
  | '.' :: rest =>
    let part := rest.takeWhile (Number.isDigitOf base)
    if whole.isEmpty && part.isEmpty then ([], 0, cs)
    else (whole ++ part, part.length, rest.drop part.length)
  | rest => (whole, 0, rest)

/-- Whether a text begins with a word in letters of any size. -/
def beginsWith (word : String) (cs : List Char) : Bool :=
  (cs.take word.length).map Char.toLower = word.toList

/-- The number at the start of a text. -/
def scan (p : Precision) (text : List Char) : ScannedReal :=
  let (negative, cs) := Number.signOf (text.dropWhile Number.isBlank)
  if beginsWith "infinity" cs then ⟨.infinite negative, false, cs.drop 8⟩
  else if beginsWith "inf" cs then ⟨.infinite negative, false, cs.drop 3⟩
  else if beginsWith "nan" cs then ⟨.notANumber negative, false, cs.drop 3⟩
  else
    let hex := match cs with
      | '0' :: x :: rest =>
        let (digits, behind, rest) := scanDigits 16 rest
        if (x = 'x' || x = 'X') && !digits.isEmpty then some (digits, behind, rest) else none
      | _ => none
    let result := fun (n d : Nat) rest =>
      let value := nearest p negative n d
      let lost := match value with
        | .finite _ mantissa _ => mantissa = 0 && n ≠ 0
        | _ => true
      ScannedReal.mk value lost rest
    match hex with
    | some (digits, behind, rest) =>
      let (exponent, rest) := scanExponent ['p', 'P'] rest
      let (n, d) := scaleByTwo (Number.digitsValue 16 digits) 1 (exponent - 4 * behind)
      result n d rest
    | none =>
      let (digits, behind, rest) := scanDigits 10 cs
      if digits.isEmpty then ⟨.finite false 0 0, false, text⟩
      else
        let (exponent, rest) := scanExponent ['e', 'E'] rest
        let (n, d) := scaleByTen (Number.digitsValue 10 digits) 1 (exponent - behind)
        result n d rest

/-! ## 3.  Writing -/

/-- At least so many digits of a number. -/
def digitsOf (base least n : Nat) : List Char :=
  let digits := Nat.toDigits base n
  List.replicate (least - digits.length) '0' ++ digits

/-- A point between digits, of which so many stand behind it; shown on request if none does. -/
def withPoint (places : Nat) (always : Bool) (digits : List Char) : List Char :=
  let whole := digits.take (digits.length - places)
  let part := digits.drop (digits.length - places)
  if part.isEmpty && !always then whole else whole ++ '.' :: part

/-- The quotient that a number is. -/
def quotient (mantissa : Nat) (exponent : Int) : Nat × Nat := scaleByTwo mantissa 1 exponent

/-- A number with so many decimals. -/
def fixed (places : Nat) (point : Bool) (mantissa : Nat) (exponent : Int) : List Char :=
  let (n, d) := quotient mantissa exponent
  withPoint places point (digitsOf 10 (places + 1) (roundQuotient (n * Nat.pow 10 places) d))

/-- The power of ten that is not above a quotient, which is not zero. -/
def decimalExponent (n d : Nat) : Int :=
  let places := Nat.log2 d + 1
  ((Nat.toDigits 10 (n * Nat.pow 10 places / d)).length : Int) - 1 - places

/-- So many digits and one more of a number, and the power of ten that the first of them counts. -/
def significant (places mantissa : Nat) (exponent : Int) : List Char × Int :=
  if mantissa = 0 then (List.replicate (places + 1) '0', 0)
  else
    let (n, d) := quotient mantissa exponent
    let k := decimalExponent n d
    let (a, b) := scaleByTen n d (places - k)
    let digits := Nat.toDigits 10 (roundQuotient a b)
    if places + 1 < digits.length then (digits.dropLast, k + 1) else (digits, k)

/-- An exponent with its sign. -/
def exponentText (letter : Char) (least : Nat) (k : Int) : List Char :=
  letter :: (if k < 0 then '-' else '+') :: digitsOf 10 least k.natAbs

/-- A number with one digit in front of the point and so many behind it. -/
def scientific (places : Nat) (point : Bool) (mantissa : Nat) (exponent : Int) : List Char :=
  let (digits, k) := significant places mantissa exponent
  withPoint places point digits ++ exponentText 'e' 2 k

/-- Digits without the zeros at the end behind a point, and without the point if none is left. -/
def withoutZeros (digits : List Char) : List Char :=
  if digits.contains '.' then
    let kept := digits.reverse.dropWhile (· = '0')
    (if kept.head? = some '.' then kept.drop 1 else kept).reverse
  else digits

/-- A number with so many digits, in the shorter of the two ways; zeros at the end on request. -/
def general (count : Nat) (zeros : Bool) (mantissa : Nat) (exponent : Int) : List Char :=
  let count := max count 1
  let (digits, k) := significant (count - 1) mantissa exponent
  let trim := fun cs => if zeros then cs else withoutZeros cs
  if -4 ≤ k && k < count then
    trim (fixed ((count : Int) - 1 - k).toNat zeros mantissa exponent)
  else trim (withPoint (count - 1) zeros digits) ++ exponentText 'e' 2 k

/-- A number in base sixteen, with so many digits behind the point or all that are needed. -/
def hexadecimal (p : Precision) (places : Option Nat) (point : Bool) (mantissa : Nat)
    (exponent : Int) : List Char :=
  let room := (p.digits - p.leading + 3) / 4
  let shift := p.digits - 1 - Nat.log2 mantissa
  let whole := mantissa * Nat.pow 2 (shift + (4 * room + p.leading - p.digits))
  let power := if mantissa = 0 then 0
    else exponent - shift + p.digits - p.leading
  let (digits, shown) := match places with
    | some n => if n < room then (roundQuotient whole (Nat.pow 16 (room - n)), n) else (whole, room)
    | none => (whole, room)
  let text := withPoint shown point (digitsOf 16 (shown + 1) digits)
  let text := if places.isNone then withoutZeros text else text
  let padding := List.replicate ((places.getD 0) - shown) '0'
  ['0', 'x'] ++ text ++ padding ++ exponentText 'p' 1 power

end Real

end CountedStrings.Shell
