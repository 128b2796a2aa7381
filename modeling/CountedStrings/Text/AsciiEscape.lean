import CountedStrings.Bytes

/-!
# Bytes spelled in printable ASCII

Every byte has a spelling of one, two or four printable characters: itself if it is printable and
neither a quote nor a backslash, a backslash with a letter or with the character for the five that
have a short spelling, and `\xhh` with two hexadecimal digits for all others.  The spelling of a
byte string is the spellings of its bytes one after the other.
-/

namespace CountedStrings.Text

/-- The hexadecimal digit of a number below 16, in lower case. -/
def hexDigit (n : Nat) : Char :=
  if n < 10 then Char.ofNat (0x30 + n) else Char.ofNat (0x57 + n)

/-- The two hexadecimal digits of a byte. -/
def hexByte (b : UInt8) : List Char :=
  [hexDigit (b.toNat / 16), hexDigit (b.toNat % 16)]

/-- The spelling of one byte. -/
def escapeByte (b : UInt8) : List Char :=
  if b = 0x09 then ['\\', 't']
  else if b = 0x0A then ['\\', 'n']
  else if b = 0x0D then ['\\', 'r']
  else if b = 0x22 then ['\\', '"']
  else if b = 0x27 then ['\\', '\'']
  else if b = 0x5C then ['\\', '\\']
  else if 0x20 ≤ b ∧ b < 0x7F then [Char.ofNat b.toNat]
  else '\\' :: 'x' :: hexByte b

/-- The spelling of a byte string. -/
def escapeBytes (bytes : Bytes) : List Char :=
  bytes.flatMap escapeByte

/-- The hexadecimal digits of a byte string, two for each byte. -/
def hexText (bytes : Bytes) : String :=
  String.ofList (bytes.flatMap hexByte)

end CountedStrings.Text
