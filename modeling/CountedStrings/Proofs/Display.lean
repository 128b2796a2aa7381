import CountedStrings.Program.Reply
import Mathlib.Data.List.Basic

/-!
# Reading a string back off its text

The text that shows a string spells its bytes twice over: once as printable ASCII and once more
inside double quotes.  Nothing is lost on the way.  This file reads the visible bytes, the capacity
and the count off the text again, whatever the bytes are, be they quotes, backslashes or a copy of
the text that follows them.

## 1.  Spelled bytes

`Text.readBytes` reads bytes off their spelling.  A byte is spelled in one of three ways
(`Text.escapeByte_cases`), and its spelling shows where the next one begins
(`Text.readBytes_escapeByte`).  So a reader that goes from left to right never has to guess, and
`Text.readBytes_escapeBytes` follows by induction on the bytes.

## 2.  Quoted texts

`Text.readQuoted` reads up to the quote that ends a quotation and returns what is behind it.  It is
never misled, because inside a quotation every quote stands behind a backslash and so does every
backslash (`Text.readToQuote_quoteCharacter`).

## 3.  Numbers

`Text.readNat` and `Text.readInt` read the longest number at the front of a text.  They find the
number that was written whenever no digit follows it.

## 4.  Printable texts

`Text.Printable` says that a text has no other characters than those from the space to the tilde.
Bytes are spelled in such characters, whatever they are (`Text.printable_escapeByte`).

## 5.  The text of a string

`Str.readShown` reads the three parts that are shown of a string, and `Str.readShown_displayOf` says
that it finds them, for any bytes, any capacity and any count.  So a text belongs to one way of
showing a string only (`Str.display_eq_iff`), and `Str.display_is_unambiguous` is the law.
-/

namespace CountedStrings

namespace Text

/-! ## 1.  Spelled bytes -/

/-- The number that a hexadecimal digit in lower case stands for. -/
def hexValue (c : Char) : Nat :=
  if c.toNat < 0x61 then c.toNat - 0x30 else c.toNat - 0x57

theorem hexValue_hexDigit : ∀ n < 16, hexValue (hexDigit n) = n := by decide

/-- The byte that a character behind a backslash stands for. -/
def letterByte (c : Char) : UInt8 :=
  if c = 't' then 0x09
  else if c = 'n' then 0x0A
  else if c = 'r' then 0x0D
  else UInt8.ofNat c.toNat

/-- The bytes that a text spells. -/
def readBytes : List Char → Bytes
  | [] => []
  | '\\' :: 'x' :: high :: low :: rest =>
    UInt8.ofNat (16 * hexValue high + hexValue low) :: readBytes rest
  | '\\' :: c :: rest => letterByte c :: readBytes rest
  | c :: rest => UInt8.ofNat c.toNat :: readBytes rest

theorem readBytes_cons {c : Char} (h : c ≠ '\\') (rest : List Char) :
    readBytes (c :: rest) = UInt8.ofNat c.toNat :: readBytes rest := by
  rw [readBytes]
  · intro high low tail hc
    exact absurd hc h
  · intro d tail hc
    exact absurd hc h

theorem readBytes_letter {c : Char} (h : c ≠ 'x') (rest : List Char) :
    readBytes ('\\' :: c :: rest) = letterByte c :: readBytes rest := by
  rw [readBytes]
  intro high low tail hc
  exact absurd hc h

/-- The two digits of a byte are read as that byte. -/
theorem readBytes_hexByte (b : UInt8) (rest : List Char) :
    readBytes ('\\' :: 'x' :: hexByte b ++ rest) = b :: readBytes rest := by
  have hb := b.toNat_lt
  have hhigh : hexValue (hexDigit (b.toNat / 16)) = b.toNat / 16 := hexValue_hexDigit _ (by omega)
  have hlow : hexValue (hexDigit (b.toNat % 16)) = b.toNat % 16 := hexValue_hexDigit _ (by omega)
  have hsum : 16 * (b.toNat / 16) + b.toNat % 16 = b.toNat := Nat.div_add_mod _ _
  rw [hexByte, List.cons_append, List.cons_append, List.cons_append, List.cons_append,
    List.nil_append, readBytes, hhigh, hlow, hsum, UInt8.ofNat_toNat]

/-- The characters that a spelling has behind a backslash, the mark of a number apart. -/
def letters : List Char := ['t', 'n', 'r', '"', '\'', '\\']

/-- A byte is spelled by a letter behind a backslash, by itself, or by its number. -/
theorem escapeByte_cases (b : UInt8) :
    (∃ c ∈ letters, letterByte c = b ∧ escapeByte b = ['\\', c]) ∨
    (b ≠ 0x5C ∧ 0x20 ≤ b ∧ b < 0x7F ∧ escapeByte b = [Char.ofNat b.toNat]) ∨
    escapeByte b = '\\' :: 'x' :: hexByte b := by
  rw [escapeByte]
  split_ifs with htab hline hreturn hquote hprime hslash hprintable
  · exact .inl ⟨'t', by decide, htab.symm, rfl⟩
  · exact .inl ⟨'n', by decide, hline.symm, rfl⟩
  · exact .inl ⟨'r', by decide, hreturn.symm, rfl⟩
  · exact .inl ⟨'"', by decide, hquote.symm, rfl⟩
  · exact .inl ⟨'\'', by decide, hprime.symm, rfl⟩
  · exact .inl ⟨'\\', by decide, hslash.symm, rfl⟩
  · exact .inr (.inl ⟨hslash, hprintable.1, hprintable.2, rfl⟩)
  · exact .inr (.inr rfl)

/-- The spelling of a byte is read as that byte, whatever comes behind it. -/
theorem readBytes_escapeByte (b : UInt8) (rest : List Char) :
    readBytes (escapeByte b ++ rest) = b :: readBytes rest := by
  rcases escapeByte_cases b with ⟨c, hc, hletter, hspelling⟩ | ⟨hslash, -, -, hspelling⟩ | hspelling
  · have hne : c ≠ 'x' := ne_of_mem_of_not_mem hc (by decide)
    rw [hspelling, List.cons_append, List.singleton_append, readBytes_letter hne, hletter]
  · have hnumber : (Char.ofNat b.toNat).toNat = b.toNat := Bytes.toNat_ofNat_toNat b
    have hne : Char.ofNat b.toNat ≠ '\\' := by
      intro h
      rw [h] at hnumber
      exact hslash (UInt8.toNat_inj.mp hnumber.symm)
    rw [hspelling, List.singleton_append, readBytes_cons hne, hnumber, UInt8.ofNat_toNat]
  · rw [hspelling]
    exact readBytes_hexByte b rest

/-- The spelling of a byte string is read as that byte string. -/
theorem readBytes_escapeBytes (bytes : Bytes) : readBytes (escapeBytes bytes) = bytes := by
  induction bytes with
  | nil => rw [escapeBytes, List.flatMap_nil, readBytes]
  | cons b rest ih =>
    rw [escapeBytes] at ih
    rw [escapeBytes, List.flatMap_cons, readBytes_escapeByte, ih]

/-! ## 2.  Quoted texts -/

/-- What is quoted up to the closing quote, and what is behind that quote. -/
def readToQuote : List Char → Option (List Char × List Char)
  | [] => none
  | '"' :: rest => some ([], rest)
  | '\\' :: c :: rest => (readToQuote rest).map (Prod.map (c :: ·) id)
  | c :: rest => (readToQuote rest).map (Prod.map (c :: ·) id)

/-- The text quoted at the front of a text, and what is behind the quotation. -/
def readQuoted : List Char → Option (List Char × List Char)
  | '"' :: rest => readToQuote rest
  | _ => none

/-- What stands for a character inside a quotation is read as that character. -/
theorem readToQuote_quoteCharacter (c : Char) (rest : List Char) :
    readToQuote (quoteCharacter c ++ rest) = (readToQuote rest).map (Prod.map (c :: ·) id) := by
  rw [quoteCharacter]
  split_ifs with h
  · rw [List.cons_append, List.singleton_append, readToQuote]
  · rw [not_or] at h
    rw [List.singleton_append, readToQuote]
    · exact h.1
    · intro d tail hc
      exact absurd hc h.2

/-- What stands for a text inside a quotation is read as that text, and no further. -/
theorem readToQuote_flatMap (characters rest : List Char) :
    readToQuote (characters.flatMap quoteCharacter ++ '"' :: rest) = some (characters, rest) := by
  induction characters with
  | nil => rw [List.flatMap_nil, List.nil_append, readToQuote]
  | cons c characters ih =>
    rw [List.flatMap_cons, List.append_assoc, readToQuote_quoteCharacter, ih, Option.map_some,
      Prod.map_apply, id_eq]

/-- A quotation is read as what was quoted, and the reader stops right behind it. -/
theorem readQuoted_quote (characters rest : List Char) :
    readQuoted (quote characters ++ rest) = some (characters, rest) := by
  rw [quote, List.cons_append, List.cons_append, List.append_assoc, List.singleton_append,
    readQuoted, readToQuote_flatMap]

/-! ## 3.  Numbers -/

/-- The natural number at the front of a text, and what is behind it. -/
def readNat (text : List Char) : Nat × List Char :=
  (Nat.ofDigitChars 10 (text.takeWhile Char.isDigit) 0, text.dropWhile Char.isDigit)

/-- The integer at the front of a text, and what is behind it. -/
def readInt : List Char → Int × List Char
  | '-' :: rest => (readNat rest).map (fun n : Nat => -(n : Int)) id
  | text => (readNat text).map (fun n : Nat => (n : Int)) id

variable {rest : List Char}

/-- A number is read as itself when no digit follows it. -/
theorem readNat_toDigits (n : Nat) (h : rest.takeWhile Char.isDigit = []) :
    readNat (Nat.toDigits 10 n ++ rest) = (n, rest) := by
  have hdigits : ∀ c ∈ Nat.toDigits 10 n, c.isDigit = true := by
    intro c hc
    exact Nat.isDigit_of_mem_toDigits (by decide) (by decide) hc
  have hrest : rest.dropWhile Char.isDigit = rest := by
    have hsplit := rest.takeWhile_append_dropWhile (p := Char.isDigit)
    rwa [h, List.nil_append] at hsplit
  rw [readNat, List.takeWhile_append_of_pos hdigits, List.dropWhile_append_of_pos hdigits, h,
    List.append_nil, Nat.ofDigitChars_ten_toDigits, hrest]

theorem toList_toString (n : Nat) : (toString n).toList = Nat.toDigits 10 n :=
  Nat.toList_repr

/-- A signed number is its digits, or a minus and the digits of its opposite. -/
theorem toList_toString_int (n : Int) :
    (toString n).toList =
      if 0 ≤ n then Nat.toDigits 10 n.toNat else '-' :: Nat.toDigits 10 (-n).toNat := by
  rw [Int.toString_eq_repr, Int.repr_eq_if]
  split_ifs with h
  · exact Nat.toList_repr
  · rw [String.toList_append, Nat.toList_repr]
    rfl

/-- A signed number is read as itself when no digit follows it. -/
theorem readInt_toString (n : Int) (h : rest.takeWhile Char.isDigit = []) :
    readInt ((toString n).toList ++ rest) = (n, rest) := by
  rw [toList_toString_int]
  split_ifs with hn
  · -- the first character is a digit, so it is no minus
    have hnil : Nat.toDigits 10 n.toNat ≠ [] := Nat.toDigits_ne_nil
    obtain ⟨c, cs, hcs⟩ := List.exists_cons_of_ne_nil hnil
    have hc : c ≠ '-' := by
      rintro rfl
      have hminus : '-' ∈ Nat.toDigits 10 n.toNat := hcs ▸ List.mem_cons_self
      exact absurd (Nat.isDigit_of_mem_toDigits (by decide) (by decide) hminus) (by decide)
    have hread : readInt (Nat.toDigits 10 n.toNat ++ rest) =
        (readNat (Nat.toDigits 10 n.toNat ++ rest)).map (fun n : Nat => (n : Int)) id := by
      rw [hcs, List.cons_append, readInt]
      intro tail htail
      exact hc (List.cons.inj htail).1
    rw [hread, readNat_toDigits _ h, Prod.map_apply, id_eq,
      Int.toNat_of_nonneg hn]
  · have hopposite : -(((-n).toNat : Nat) : Int) = n := by omega
    rw [List.cons_append, readInt, readNat_toDigits _ h, Prod.map_apply, id_eq, hopposite]

/-! ## 4.  Printable texts -/

/-- Whether a text consists of the printable characters of ASCII. -/
def Printable (text : List Char) : Prop :=
  ∀ c ∈ text, 0x20 ≤ c.toNat ∧ c.toNat ≤ 0x7E

instance : DecidablePred Printable := fun text =>
  List.decidableBAll (fun c : Char => 0x20 ≤ c.toNat ∧ c.toNat ≤ 0x7E) text

namespace Printable

variable {text text' : List Char}

theorem append (h : Printable text) (h' : Printable text') : Printable (text ++ text') := by
  intro c hc
  rcases List.mem_append.mp hc with hc | hc
  · exact h c hc
  · exact h' c hc

theorem flatMap {α : Type} {f : α → List Char} {list : List α}
    (h : ∀ a ∈ list, Printable (f a)) : Printable (list.flatMap f) := by
  intro c hc
  obtain ⟨a, ha, hc⟩ := List.mem_flatMap.mp hc
  exact h a ha c hc

end Printable

theorem printable_hexDigit : ∀ n < 16, Printable [hexDigit n] := by decide

/-- Every byte is spelled in printable characters. -/
theorem printable_escapeByte (b : UInt8) : Printable (escapeByte b) := by
  have hslash : Printable ['\\'] := by decide
  rcases escapeByte_cases b with ⟨c, hc, -, hspelling⟩ | ⟨-, hlow, hhigh, hspelling⟩ | hspelling
  · have hletters : Printable letters := by decide
    rw [hspelling]
    exact hslash.append fun d hd => hletters d (List.mem_singleton.mp hd ▸ hc)
  · intro c hc
    rw [hspelling, List.mem_singleton] at hc
    rw [hc, Bytes.toNat_ofNat_toNat]
    exact ⟨UInt8.le_iff_toNat_le.mp hlow, Nat.le_of_lt_succ (UInt8.lt_iff_toNat_lt.mp hhigh)⟩
  · have hb := b.toNat_lt
    have hmark : Printable ['x'] := by decide
    rw [hspelling]
    exact hslash.append (hmark.append ((printable_hexDigit (b.toNat / 16) (by omega)).append
      (printable_hexDigit (b.toNat % 16) (by omega))))

/-- Quoting a printable text gives a printable text. -/
theorem printable_quote {characters : List Char} (h : Printable characters) :
    Printable (quote characters) := by
  have hmark : Printable ['"'] := by decide
  refine (hmark.append (.flatMap fun c hc => ?_)).append hmark
  intro d hd
  have hc' := h c hc
  rw [quoteCharacter] at hd
  split_ifs at hd
  · rcases List.mem_cons.mp hd with rfl | hd
    · decide
    · rwa [List.mem_singleton.mp hd]
  · rwa [List.mem_singleton.mp hd]

theorem printable_toDigits (n : Nat) : Printable (Nat.toDigits 10 n) := by
  intro c hc
  have hdigit := Nat.isDigit_of_mem_toDigits (by decide) (by decide) hc
  rw [Char.isDigit, Bool.and_eq_true, decide_eq_true_eq, decide_eq_true_eq] at hdigit
  have hlow : 48 ≤ c.toNat := UInt32.le_iff_toNat_le.mp hdigit.1
  have hhigh : c.toNat ≤ 57 := UInt32.le_iff_toNat_le.mp hdigit.2
  omega

theorem printable_toString_int (n : Int) : Printable (toString n).toList := by
  rw [toList_toString_int]
  split_ifs
  · exact printable_toDigits _
  · have hminus : Printable ['-'] := by decide
    exact hminus.append (printable_toDigits _)

end Text

/-! ## 5.  The text of a string -/

namespace Str

/-- The parts of a string that the text for it shows. -/
structure Shown where
  visible : Bytes
  capacity : Nat
  refcount : Int32
  deriving DecidableEq

/-- What is shown of a string. -/
def shown (s : Str) : Shown where
  visible := s.visible
  capacity := s.capacity
  refcount := s.refcount

/-- The parts of a string, read off the text for it. -/
def readShown (text : List Char) : Option Shown := do
  let rest ← "ManagedString \x7b bytes: ".toList.isPrefixOf? text
  let (spelling, rest) ← Text.readQuoted rest
  let rest ← ", capacity: ".toList.isPrefixOf? rest
  let (capacity, rest) := Text.readNat rest
  let rest ← ", refcount: ".toList.isPrefixOf? rest
  let (refcount, rest) := Text.readInt rest
  if rest = " \x7d".toList then
    some ⟨Text.readBytes spelling, capacity, Int32.ofInt refcount⟩
  else none

/-- The text in front of a text is taken off it. -/
theorem isPrefixOf?_append (start rest : List Char) :
    start.isPrefixOf? (start ++ rest) = some rest :=
  List.isPrefixOf?_eq_some_iff_append_eq.mpr rfl

/-- Any bytes, any capacity and any count are read off the text that shows them. -/
theorem readShown_displayOf (shown : Shown) :
    readShown (displayOf shown.visible shown.capacity shown.refcount.toInt) = some shown := by
  have hcomma (rest : List Char) : (", refcount: ".toList ++ rest).takeWhile Char.isDigit = [] := by
    simp
  have hbrace : " \x7d".toList.takeWhile Char.isDigit = [] := by decide
  unfold displayOf readShown
  simp only [List.append_assoc, isPrefixOf?_append, Option.bind_eq_bind, Option.bind_some,
    Text.readQuoted_quote, Text.toList_toString, Text.readNat_toDigits _ (hcomma _),
    Text.readInt_toString _ hbrace]
  rw [if_pos trivial, Text.readBytes_escapeBytes, Int32.ofInt_toInt]

/-- The text for a string is in printable characters. -/
theorem printable_displayOf (visible : Bytes) (capacity : Nat) (refcount : Int) :
    Text.Printable (displayOf visible capacity refcount) := by
  have hstart : Text.Printable "ManagedString \x7b bytes: ".toList := by decide
  have hcapacity : Text.Printable ", capacity: ".toList := by decide
  have hrefcount : Text.Printable ", refcount: ".toList := by decide
  have hend : Text.Printable " \x7d".toList := by decide
  have hbytes := Text.printable_quote (Text.Printable.flatMap fun b (_ : b ∈ visible) =>
    Text.printable_escapeByte b)
  have hnat : Text.Printable (toString capacity).toList := by
    rw [Text.toList_toString]
    exact Text.printable_toDigits capacity
  exact (((((hstart.append hbytes).append hcapacity).append hnat).append hrefcount).append
    (Text.printable_toString_int refcount)).append hend

theorem readShown_display (s : Str) : readShown s.display.toList = some s.shown := by
  rw [display, String.toList_ofList]
  exact readShown_displayOf s.shown

/-- Two strings have the same text if and only if the same is shown of them. -/
theorem display_eq_iff {s t : Str} : s.display = t.display ↔
    s.visible = t.visible ∧ s.capacity = t.capacity ∧ s.refcount = t.refcount := by
  constructor
  · intro h
    have hshown : s.shown = t.shown := by
      rw [← Option.some.injEq, ← readShown_display, ← readShown_display, h]
    rwa [shown, shown, Shown.mk.injEq] at hshown
  · rintro ⟨hvisible, hcapacity, hrefcount⟩
    rw [display, display, hvisible, hcapacity, hrefcount]

/-- The text for a string tells all there is to know about it. -/
theorem description_eq_iff {s t : Str} :
    s.description = t.description ↔ s.display = t.display := by
  constructor
  · exact congrArg Description.display
  · intro h
    obtain ⟨hvisible, hcapacity, hrefcount⟩ := display_eq_iff.mp h
    rw [description, description, length, length, terminated, terminated, hvisible, hcapacity,
      hrefcount, h]

/-- The text for a string shows its visible bytes, its capacity and its count: all three are read
off it again, two strings have the same text if and only if they agree in all three, and whatever
the bytes are, the text is in printable characters. -/
theorem display_is_unambiguous (s t : Str) :
    readShown s.display.toList = some ⟨s.visible, s.capacity, s.refcount⟩ ∧
    (s.display = t.display ↔
      s.visible = t.visible ∧ s.capacity = t.capacity ∧ s.refcount = t.refcount) ∧
    Text.Printable s.display.toList := by
  refine ⟨readShown_display s, display_eq_iff, ?_⟩
  rw [display, String.toList_ofList]
  exact printable_displayOf _ _ _

/-- Bytes that imitate the text behind them stay inside the quotation. -/
example : String.ofList (displayOf (Bytes.ofByteText "\", capacity: 1") 20 (-1)) =
    "ManagedString \x7b bytes: \"\\\\\\\", capacity: 1\", capacity: 20, refcount: -1 \x7d" := by
  decide

end Str

end CountedStrings
