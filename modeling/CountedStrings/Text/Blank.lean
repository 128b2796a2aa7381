/-!
# White space at the ends of a text

`isBlank` is the Unicode property White_Space, which holds more characters than the blanks of
ASCII, and `trim` removes the blank characters at both ends of a text.  The characters inside a
trimmed text are untouched, blank or not.
-/

namespace CountedStrings.Text

/-- The Unicode property White_Space. -/
def isBlank (c : Char) : Bool :=
  (0x09 ≤ c.toNat && c.toNat ≤ 0x0D) || c.toNat = 0x20 || c.toNat = 0x85 || c.toNat = 0xA0 ||
    c.toNat = 0x1680 || (0x2000 ≤ c.toNat && c.toNat ≤ 0x200A) || c.toNat = 0x2028 ||
    c.toNat = 0x2029 || c.toNat = 0x202F || c.toNat = 0x205F || c.toNat = 0x3000

/-- A list of characters without the blanks at its end. -/
def trimEnd (characters : List Char) : List Char :=
  (characters.reverse.dropWhile isBlank).reverse

/-- A list of characters without the blanks at either end. -/
def trimCharacters (characters : List Char) : List Char :=
  trimEnd (characters.dropWhile isBlank)

/-- A text without the blanks at either end. -/
def trim (text : String) : String :=
  String.ofList (trimCharacters text.toList)

end CountedStrings.Text
