import CountedStrings.Text.AsciiEscape
import CountedStrings.Text.GraphemeExtend
import CountedStrings.Text.Unprintable
import CountedStrings.Text.Utf8

/-!
# Quoted texts

Two ways to put something between double quotes.  `quote` takes a text that is already printable
ASCII and escapes what would end the quotation.  `quoteBytes` takes any byte string: its ASCII part
is spelled as in `CountedStrings.Text.AsciiEscape`, characters beyond ASCII stand for themselves
unless they are invisible or would melt into their neighbour, and stray bytes are spelled by number.
-/

namespace CountedStrings.Text

/-- The spelling of a printable ASCII character between double quotes. -/
def quoteCharacter (c : Char) : List Char :=
  if c = '"' ∨ c = '\\' then ['\\', c] else [c]

/-- A printable ASCII text between double quotes. -/
def quote (characters : List Char) : List Char :=
  '"' :: characters.flatMap quoteCharacter ++ ['"']

/-- The spelling of a character by its number. -/
def numberedCharacter (c : Char) : List Char :=
  '\\' :: 'u' :: '\x7b' :: Nat.toDigits 16 c.toNat ++ ['\x7d']

/-- The spelling of a piece of a byte string between double quotes. -/
def quotePiece : Utf8.Piece → List Char
  | .stray b => escapeByte b
  | .character c =>
    if c.toNat < 0x80 then escapeByte (UInt8.ofNat c.toNat)
    else if isGraphemeExtend c || isUnprintable c then numberedCharacter c
    else [c]

/-- A byte string between double quotes. -/
def quoteBytes (bytes : Bytes) : String :=
  String.ofList ('"' :: (Utf8.pieces bytes).flatMap quotePiece ++ ['"'])

end CountedStrings.Text
