import CountedStrings.Surroundings.Shell.Real

/-!
# Layouts

How a value is laid out in the place that a percent sign introduces in a format: flags, a width to be
filled up to, and a precision.

The backslashes that stand for other characters in formats and texts are here too.
-/

namespace CountedStrings.Shell

/-! ## 1.  Backslashes -/

namespace Backslash

/-- The character that a backslash and a letter stand for. -/
def control? : Char → Option Char
  | 'a' => some '\x07'
  | 'b' => some '\x08'
  | 'e' => some '\x1b'
  | 'f' => some '\x0c'
  | 'n' => some '\n'
  | 'r' => some '\r'
  | 't' => some '\t'
  | 'v' => some '\x0b'
  | '\\' => some '\\'
  | _ => none

/-- Whether a character is an octal digit. -/
def isOctal (c : Char) : Bool := '0' ≤ c && c ≤ '7'

/-- The byte of digits to a base. -/
def byteOf (base : Nat) (digits : List Char) : Char :=
  Char.ofNat (Number.digitsValue base digits % 256)

/-- What a backslash stands for in front of a text, and the rest of the text.  With `zero`, three octal
digits may follow a zero. -/
def escape (zero : Bool) (cs : List Char) : Char × List Char :=
  match cs with
  | [] => ('\\', [])
  | c :: rest =>
    if isOctal c then
      let cs := if zero && c = '0' && rest.head?.any isOctal then rest else cs
      let digits := (cs.take 3).takeWhile isOctal
      (byteOf 8 digits, cs.drop digits.length)
    else
      match control? c with
      | some d => (d, rest)
      | none => ('\\', cs)

/-- A text with its backslashes replaced, and whether it says that nothing may follow it.  The budget
has to be the length of the text. -/
def replacedWithin : Nat → List Char → List Char × Bool
  | 0, _ | _, [] => ([], false)
  | _ + 1, '\\' :: 'c' :: _ => ([], true)
  | budget + 1, '\\' :: rest =>
    let (c, rest) := escape true rest
    let (others, ends) := replacedWithin budget rest
    (c :: others, ends)
  | budget + 1, c :: rest =>
    let (others, ends) := replacedWithin budget rest
    (c :: others, ends)

/-- A text with its backslashes replaced, and whether it says that nothing may follow it. -/
def replaced (text : String) : List Char × Bool :=
  let cs := text.toList
  replacedWithin cs.length cs

end Backslash

/-! ## 2.  Layouts -/

/-- How a value is laid out. -/
structure Layout where
  left : Bool
  zeros : Bool
  plus : Bool
  /-- Whether a blank stands where the sign of a positive number would. -/
  blank : Bool
  /-- Whether the base of a number, or the point in it, is always shown. -/
  shown : Bool
  width : Nat
  precision : Option Nat

namespace Layout

/-- A layout with some flags and nothing else. -/
def ofFlags (flags : List Char) : Layout :=
  ⟨flags.contains '-', flags.contains '0', flags.contains '+', flags.contains ' ',
    flags.contains '#', 0, none⟩

/-- A layout with a width, which is on the other side if it is negative. -/
def withWidth (l : Layout) (width : Int) : Layout :=
  { l with left := l.left || width < 0, width := width.natAbs }

/-- A layout with a precision, unless it is negative. -/
def withPrecision (l : Layout) (precision : Int) : Layout :=
  { l with precision := if precision < 0 then none else some precision.toNat }

/-- Fills a text up to the width. -/
def fill (l : Layout) (sign body : List Char) : List Char :=
  let missing := l.width - (sign.length + body.length)
  if l.left then sign ++ body ++ List.replicate missing ' '
  else if l.zeros then sign ++ List.replicate missing '0' ++ body
  else List.replicate missing ' ' ++ sign ++ body

/-- A text laid out. -/
def ofText (l : Layout) (cs : List Char) : List Char :=
  { l with zeros := false }.fill [] ((l.precision.map fun n => cs.take n).getD cs)

/-- A character laid out. -/
def ofChar (l : Layout) (c : Char) : List Char := { l with zeros := false }.fill [] [c]

/-- The sign of a number. -/
def signText (l : Layout) (negative : Bool) : List Char :=
  if negative then ['-'] else if l.plus then ['+'] else if l.blank then [' '] else []

/-- The digits of a number, at least as many as the precision says, and none for a zero with the
precision zero. -/
def digits (l : Layout) (base n : Nat) : List Char :=
  if n = 0 && l.precision = some 0 then []
  else
    let digits := Nat.toDigits base n
    List.replicate (l.precision.getD 1 - digits.length) '0' ++ digits

/-- A layout for a number without decimals: its precision rules out zeros in front. -/
def forWhole (l : Layout) : Layout := { l with zeros := l.zeros && l.precision.isNone }

/-- A signed number laid out. -/
def ofInt (l : Layout) (n : Int) : List Char :=
  l.forWhole.fill (l.signText (n < 0)) (l.digits 10 n.natAbs)

/-- A number without a sign laid out, to a base. -/
def ofNat (l : Layout) (base n : Nat) : List Char :=
  let digits := l.digits base n
  if l.shown && base = 16 && n ≠ 0 then l.forWhole.fill ['0', 'x'] digits
  else if l.shown && base = 8 && digits.head? ≠ some '0' then l.forWhole.fill [] ('0' :: digits)
  else l.forWhole.fill [] digits

/-- A real number laid out as a letter says. -/
def ofReal (l : Layout) (p : Precision) (conversion : Char) (r : Real) : List Char :=
  let precision := l.precision.getD 6
  let text :=
    match r with
    | .infinite _ => { l with zeros := false }.fill (l.signText r.isNegative) "inf".toList
    | .notANumber _ => { l with zeros := false }.fill (l.signText r.isNegative) "nan".toList
    | .finite _ mantissa exponent =>
      let sign := l.signText r.isNegative
      match conversion.toLower with
      | 'f' => l.fill sign (Real.fixed precision l.shown mantissa exponent)
      | 'e' => l.fill sign (Real.scientific precision l.shown mantissa exponent)
      | 'g' => l.fill sign (Real.general precision l.shown mantissa exponent)
      | _ =>
        let digits := Real.hexadecimal p l.precision l.shown mantissa exponent
        l.fill (sign ++ digits.take 2) (digits.drop 2)
  if conversion.isUpper then text.map Char.toUpper else text

end Layout

end CountedStrings.Shell
