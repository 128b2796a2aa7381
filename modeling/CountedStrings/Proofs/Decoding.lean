import CountedStrings.Text.Utf8

/-!
# Texts and their bytes

Reading a byte string as a text and writing a text as bytes are inverse to each other: `decode`
accepts exactly the bytes of texts, and gives the text back (`decode_eq_some_iff`).

## 1.  The bytes of a text

They are the bytes of its characters, one after the other (`Bytes.ofText_ofList`).

## 2.  One character

`Spells` are the bytes of a character, by the digits of its code point in base 64; a character has
one spelling, and is written with it (`Spells.eq_utf8EncodeChar`).  What is read from the front of a
byte string is spelled there, and the other way round, so a character is read exactly where it is
written (`nextCharacter_eq_some_iff`).

## 3.  Whole texts

`mapM_pieces_flatMap` reads what is written, and `eq_flatMap_of_pieces` says that nothing else is
read.
-/

namespace CountedStrings

/-! ## 1.  The bytes of a text -/

/-- The loop that lists an array of bytes puts those from an index on behind those that it has
collected. -/
theorem toList_loop_eq (bytes : ByteArray) (i : Nat) (collected : List UInt8) :
    ByteArray.toList.loop bytes i collected = collected.reverse ++ bytes.data.toList.drop i := by
  have hsize : bytes.data.toList.length = bytes.size := Array.length_toList
  rw [ByteArray.toList.loop]
  split
  · next h =>
    have hi : i < bytes.data.toList.length := by omega
    have hget : bytes.get! i = bytes.data.toList[i] := by
      rw [Array.getElem_toList]
      exact getElem!_pos bytes.data i h
    rw [toList_loop_eq bytes (i + 1), List.drop_eq_getElem_cons hi, hget, List.reverse_cons,
      List.append_assoc, List.singleton_append]
  · next h => rw [List.drop_eq_nil_of_le (by omega), List.append_nil]
termination_by bytes.size - i

/-- The bytes in an array of bytes, as a list. -/
theorem toList_eq_toList_data (bytes : ByteArray) : bytes.toList = bytes.data.toList :=
  toList_loop_eq bytes 0 []

/-- The bytes of a text are the bytes of its characters, one after the other. -/
theorem Bytes.ofText_ofList (characters : List Char) :
    Bytes.ofText (String.ofList characters) = characters.flatMap String.utf8EncodeChar := by
  rw [Bytes.ofText, toList_eq_toList_data]
  exact List.toList_data_toByteArray

namespace Text.Utf8

/-! ## 2.  One character -/

theorem continuation?_eq_some_iff {b : UInt8} {digit : Nat} :
    continuation? b = some digit ↔ digit < 64 ∧ b.toNat = digit + 128 := by
  rw [continuation?]
  by_cases h : 0x80 ≤ b ∧ b ≤ 0xBF
  · rw [if_pos h, Option.some.injEq]
    change 128 ≤ b.toNat ∧ b.toNat ≤ 191 at h
    show b.toNat - 128 = digit ↔ _
    omega
  · rw [if_neg h]
    change ¬ (128 ≤ b.toNat ∧ b.toNat ≤ 191) at h
    simp only [reduceCtorEq, false_iff]
    omega

theorem character?_eq_some_iff {least code : Nat} {c : Char} :
    character? least code = some c ↔ least ≤ code ∧ c.toNat = code := by
  rw [character?]
  constructor
  · intro h
    split at h
    · next hcode =>
      refine ⟨hcode.1, ?_⟩
      rw [← Option.some.inj h, Char.ofNat, dif_pos hcode.2]
      rfl
    · cases h
  · rintro ⟨hleast, rfl⟩
    rw [if_pos ⟨hleast, c.valid⟩, Char.ofNat_toNat]

/-- The bytes of a character by the digits of its code point in base 64: the first byte holds the
highest digit and tells how many there are, and no shorter sequence would do. -/
inductive Spells (c : Char) : Bytes → Prop
  | one {x : UInt8} (hx : x.toNat = c.toNat) (hc : c.toNat < 128) : Spells c [x]
  | two {x y : UInt8} {a b : Nat} (hx : x.toNat = a + 192) (hy : y.toNat = b + 128) (hb : b < 64)
      (hc : c.toNat = a * 64 + b) (hlo : 128 ≤ c.toNat) (hhi : c.toNat < 2048) : Spells c [x, y]
  | three {x y z : UInt8} {a b d : Nat} (hx : x.toNat = a + 224) (hy : y.toNat = b + 128)
      (hz : z.toNat = d + 128) (hb : b < 64) (hd : d < 64) (hc : c.toNat = (a * 64 + b) * 64 + d)
      (hlo : 2048 ≤ c.toNat) (hhi : c.toNat < 65536) : Spells c [x, y, z]
  | four {w x y z : UInt8} {a b d e : Nat} (hw : w.toNat = a + 240) (hx : x.toNat = b + 128)
      (hy : y.toNat = d + 128) (hz : z.toNat = e + 128) (hb : b < 64) (hd : d < 64) (he : e < 64)
      (hc : c.toNat = ((a * 64 + b) * 64 + d) * 64 + e) (hlo : 65536 ≤ c.toNat) :
      Spells c [w, x, y, z]

/-- No code point is above 1114111. -/
theorem toNat_lt (c : Char) : c.toNat < 1114112 := by
  have hvalid : c.toNat < 55296 ∨ 57343 < c.toNat ∧ c.toNat < 1114112 := c.valid
  omega

theorem eq_ofNat_of_toNat {x : UInt8} {n : Nat} (h : x.toNat = n) : UInt8.ofNat n = x := by
  rw [← h, UInt8.ofNat_toNat]

theorem toNat_ofNat_of_lt {n : Nat} (h : n < 256) : (UInt8.ofNat n).toNat = n :=
  Nat.mod_eq_of_lt h

/-- How a character is written, by the size of its code point. -/
theorem utf8EncodeChar_eq (c : Char) :
    String.utf8EncodeChar c =
      if c.toNat ≤ 127 then [UInt8.ofNat c.toNat]
      else if c.toNat ≤ 2047 then
        [UInt8.ofNat (c.toNat / 64 % 32 + 192), UInt8.ofNat (c.toNat % 64 + 128)]
      else if c.toNat ≤ 65535 then
        [UInt8.ofNat (c.toNat / 4096 % 16 + 224), UInt8.ofNat (c.toNat / 64 % 64 + 128),
          UInt8.ofNat (c.toNat % 64 + 128)]
      else
        [UInt8.ofNat (c.toNat / 262144 % 8 + 240), UInt8.ofNat (c.toNat / 4096 % 64 + 128),
          UInt8.ofNat (c.toNat / 64 % 64 + 128), UInt8.ofNat (c.toNat % 64 + 128)] := rfl

/-- The bytes that a character is written with spell it. -/
theorem spells_utf8EncodeChar (c : Char) : Spells c (String.utf8EncodeChar c) := by
  have hlt := toNat_lt c
  rw [utf8EncodeChar_eq]
  split
  · exact .one (toNat_ofNat_of_lt (by omega)) (by omega)
  · split
    · exact .two (toNat_ofNat_of_lt (by omega)) (toNat_ofNat_of_lt (by omega)) (by omega) (by omega)
        (by omega) (by omega)
    · split
      · exact .three (toNat_ofNat_of_lt (by omega)) (toNat_ofNat_of_lt (by omega))
          (toNat_ofNat_of_lt (by omega)) (by omega) (by omega) (by omega) (by omega) (by omega)
      · exact .four (toNat_ofNat_of_lt (by omega)) (toNat_ofNat_of_lt (by omega))
          (toNat_ofNat_of_lt (by omega)) (toNat_ofNat_of_lt (by omega)) (by omega) (by omega)
          (by omega) (by omega) (by omega)

/-- **A character has one spelling**, and is written with it. -/
theorem Spells.eq_utf8EncodeChar {c : Char} {bytes : Bytes} (h : Spells c bytes) :
    bytes = String.utf8EncodeChar c := by
  rw [utf8EncodeChar_eq]
  cases h with
  | one hx hc => rw [if_pos (by omega), eq_ofNat_of_toNat hx]
  | @two x y a b hx hy hb hc hlo hhi =>
    rw [if_neg (by omega), if_pos (by omega), eq_ofNat_of_toNat (x := x) (by omega),
      eq_ofNat_of_toNat (x := y) (by omega)]
  | @three x y z a b d hx hy hz hb hd hc hlo hhi =>
    rw [if_neg (by omega), if_neg (by omega), if_pos (by omega),
      eq_ofNat_of_toNat (x := x) (by omega), eq_ofNat_of_toNat (x := y) (by omega),
      eq_ofNat_of_toNat (x := z) (by omega)]
  | @four w x y z a b d e hw hx hy hz hb hd he hc hlo =>
    have hlt := toNat_lt c
    rw [if_neg (by omega), if_neg (by omega), if_neg (by omega),
      eq_ofNat_of_toNat (x := w) (by omega), eq_ofNat_of_toNat (x := x) (by omega),
      eq_ofNat_of_toNat (x := y) (by omega), eq_ofNat_of_toNat (x := z) (by omega)]

/-- What is read from the front of a byte string is spelled there. -/
theorem spells_of_nextCharacter {first : UInt8} {rest rest' : Bytes} {c : Char}
    (h : nextCharacter first rest = some (c, rest')) :
    ∃ tail, rest = tail ++ rest' ∧ Spells c (first :: tail) := by
  rw [nextCharacter] at h
  split at h
  · next hfirst =>
    have hlt : first.toNat < 128 := hfirst
    cases h
    refine ⟨[], rfl, .one (Bytes.toNat_ofNat_toNat first).symm ?_⟩
    rw [Bytes.toNat_ofNat_toNat]
    exact hlt
  · unfold sequence? at h
    split at h
    · next hfirst =>
      have hrange : 194 ≤ first.toNat ∧ first.toNat ≤ 223 := hfirst
      split at h
      · next y tail =>
        simp only [bind, Option.bind_eq_some_iff, pure, Option.some.injEq, Prod.mk.injEq,
          continuation?_eq_some_iff, character?_eq_some_iff] at h
        obtain ⟨b, ⟨hb, hy⟩, c', ⟨hlo, hc⟩, rfl, rfl⟩ := h
        exact ⟨[y], rfl, .two (a := first.toNat - 192) (by omega) hy hb hc (by omega) (by omega)⟩
      · cases h
    · split at h
      · next hfirst =>
        have hrange : 224 ≤ first.toNat ∧ first.toNat ≤ 239 := hfirst
        split at h
        · next y z tail =>
          simp only [bind, Option.bind_eq_some_iff, pure, Option.some.injEq, Prod.mk.injEq,
            continuation?_eq_some_iff, character?_eq_some_iff] at h
          obtain ⟨b, ⟨hb, hy⟩, d, ⟨hd, hz⟩, c', ⟨hlo, hc⟩, rfl, rfl⟩ := h
          exact ⟨[y, z], rfl, .three (a := first.toNat - 224) (by omega) hy hz hb hd hc (by omega)
            (by omega)⟩
        · cases h
      · split at h
        · next hfirst =>
          have hrange : 240 ≤ first.toNat ∧ first.toNat ≤ 244 := hfirst
          split at h
          · next x y z tail =>
            simp only [bind, Option.bind_eq_some_iff, pure, Option.some.injEq, Prod.mk.injEq,
              continuation?_eq_some_iff, character?_eq_some_iff] at h
            obtain ⟨b, ⟨hb, hx⟩, d, ⟨hd, hy⟩, e, ⟨he, hz⟩, c', ⟨hlo, hc⟩, rfl, rfl⟩ := h
            exact ⟨[x, y, z], rfl, .four (a := first.toNat - 240) (by omega) hx hy hz hb hd he hc
              (by omega)⟩
          · cases h
        · cases h

/-- What is spelled at the front of a byte string is read. -/
theorem nextCharacter_of_spells {first : UInt8} {tail : Bytes} {c : Char}
    (h : Spells c (first :: tail)) (rest : Bytes) :
    nextCharacter first (tail ++ rest) = some (c, rest) := by
  have hlt := toNat_lt c
  cases h with
  | one hx hc =>
    have hfirst : first < 0x80 := show first.toNat < 128 by omega
    rw [nextCharacter, if_pos hfirst, hx, Char.ofNat_toNat]
    rfl
  | @two _ y a b hx hy hb hc hlo hhi =>
    have hfirst : ¬ first < 0x80 := show ¬ first.toNat < 128 by omega
    have hrange : 0xC2 ≤ first ∧ first ≤ 0xDF :=
      show 194 ≤ first.toNat ∧ first.toNat ≤ 223 by omega
    have hdigit : continuation? y = some b := continuation?_eq_some_iff.mpr ⟨hb, hy⟩
    have hchar : character? 0x80 ((first.toNat - 0xC0) * 0x40 + b) = some c :=
      character?_eq_some_iff.mpr ⟨by omega, by omega⟩
    simp [nextCharacter, sequence?, hfirst, hrange, hdigit, hchar]
  | @three _ y z a b d hx hy hz hb hd hc hlo hhi =>
    have hfirst : ¬ first < 0x80 := show ¬ first.toNat < 128 by omega
    have htwo : ¬ (0xC2 ≤ first ∧ first ≤ 0xDF) :=
      show ¬ (194 ≤ first.toNat ∧ first.toNat ≤ 223) by omega
    have hrange : 0xE0 ≤ first ∧ first ≤ 0xEF :=
      show 224 ≤ first.toNat ∧ first.toNat ≤ 239 by omega
    have hdigit : continuation? y = some b := continuation?_eq_some_iff.mpr ⟨hb, hy⟩
    have hdigit' : continuation? z = some d := continuation?_eq_some_iff.mpr ⟨hd, hz⟩
    have hchar : character? 0x800 (((first.toNat - 0xE0) * 0x40 + b) * 0x40 + d) = some c :=
      character?_eq_some_iff.mpr ⟨by omega, by omega⟩
    simp [nextCharacter, sequence?, hfirst, htwo, hrange, hdigit, hdigit', hchar]
  | @four _ x y z a b d e hw hx hy hz hb hd he hc hlo =>
    have hfirst : ¬ first < 0x80 := show ¬ first.toNat < 128 by omega
    have htwo : ¬ (0xC2 ≤ first ∧ first ≤ 0xDF) :=
      show ¬ (194 ≤ first.toNat ∧ first.toNat ≤ 223) by omega
    have hthree : ¬ (0xE0 ≤ first ∧ first ≤ 0xEF) :=
      show ¬ (224 ≤ first.toNat ∧ first.toNat ≤ 239) by omega
    have hrange : 0xF0 ≤ first ∧ first ≤ 0xF4 :=
      show 240 ≤ first.toNat ∧ first.toNat ≤ 244 by omega
    have hdigit : continuation? x = some b := continuation?_eq_some_iff.mpr ⟨hb, hx⟩
    have hdigit' : continuation? y = some d := continuation?_eq_some_iff.mpr ⟨hd, hy⟩
    have hdigit'' : continuation? z = some e := continuation?_eq_some_iff.mpr ⟨he, hz⟩
    have hchar : character? 0x10000
        ((((first.toNat - 0xF0) * 0x40 + b) * 0x40 + d) * 0x40 + e) = some c :=
      character?_eq_some_iff.mpr ⟨by omega, by omega⟩
    simp [nextCharacter, sequence?, hfirst, htwo, hthree, hrange, hdigit, hdigit', hdigit'', hchar]

/-- **A character is read from the front of a byte string exactly if it is written there.** -/
theorem nextCharacter_eq_some_iff {first : UInt8} {rest rest' : Bytes} {c : Char} :
    nextCharacter first rest = some (c, rest') ↔
      first :: rest = String.utf8EncodeChar c ++ rest' := by
  constructor
  · intro h
    obtain ⟨tail, rfl, hspells⟩ := spells_of_nextCharacter h
    rw [← hspells.eq_utf8EncodeChar]
    rfl
  · intro h
    have hspells := spells_utf8EncodeChar c
    cases hbytes : String.utf8EncodeChar c with
    | nil => exact absurd hbytes (String.utf8EncodeChar_ne_nil)
    | cons x tail =>
      rw [hbytes] at h hspells
      obtain ⟨rfl, rfl⟩ := List.cons_eq_cons.mp h
      exact nextCharacter_of_spells hspells rest'

/-! ## 3.  Whole texts -/

/-- Reading goes on behind a character. -/
theorem pieces_of_some {first : UInt8} {rest rest' : Bytes} {c : Char}
    (h : nextCharacter first rest = some (c, rest')) :
    pieces (first :: rest) = .character c :: pieces rest' := by
  rw [pieces]
  split
  · next h' =>
    cases h.symm.trans h'
    rfl
  · next h' =>
    rw [h] at h'
    cases h'

/-- Where there is no character, one byte is set aside. -/
theorem pieces_of_none {first : UInt8} {rest : Bytes} (h : nextCharacter first rest = none) :
    pieces (first :: rest) = .stray first :: pieces rest := by
  rw [pieces]
  split
  · next h' =>
    rw [h] at h'
    cases h'
  · rfl

/-- The bytes of some characters are read as these characters. -/
theorem mapM_pieces_flatMap (characters : List Char) :
    (pieces (characters.flatMap String.utf8EncodeChar)).mapM Piece.character? =
      some characters := by
  induction characters with
  | nil =>
    rw [List.flatMap_nil, pieces]
    rfl
  | cons c rest ih =>
    have hread : pieces (String.utf8EncodeChar c ++ rest.flatMap String.utf8EncodeChar) =
        .character c :: pieces (rest.flatMap String.utf8EncodeChar) := by
      cases hbytes : String.utf8EncodeChar c with
      | nil => exact absurd hbytes String.utf8EncodeChar_ne_nil
      | cons first tail =>
        refine pieces_of_some (nextCharacter_eq_some_iff.mpr ?_)
        rw [hbytes]
        rfl
    rw [List.flatMap_cons, hread, List.mapM_cons, ih]
    rfl

/-- If all that is read are characters, their bytes are what was read. -/
theorem eq_flatMap_of_pieces {bytes : Bytes} {characters : List Char}
    (h : (pieces bytes).mapM Piece.character? = some characters) :
    bytes = characters.flatMap String.utf8EncodeChar := by
  induction bytes using pieces.induct generalizing characters with
  | case1 =>
    rw [pieces] at h
    cases h
    rfl
  | case2 first rest c rest' hnext ih =>
    rw [pieces_of_some hnext, List.mapM_cons] at h
    obtain ⟨c', hc, hbind⟩ := Option.bind_eq_some_iff.mp h
    obtain ⟨others, hothers, hcons⟩ := Option.bind_eq_some_iff.mp hbind
    cases hc
    cases hcons
    rw [nextCharacter_eq_some_iff.mp hnext, List.flatMap_cons, ← ih hothers]
  | case3 first rest hnext ih =>
    rw [pieces_of_none hnext, List.mapM_cons] at h
    cases h

/-- **A byte string is read as a text exactly if it is how that text is written.** -/
theorem decode_eq_some_iff {bytes : Bytes} {text : String} :
    decode bytes = some text ↔ bytes = Bytes.ofText text := by
  rw [decode, Option.map_eq_some_iff]
  constructor
  · rintro ⟨characters, hpieces, rfl⟩
    rw [Bytes.ofText_ofList]
    exact eq_flatMap_of_pieces hpieces
  · rintro rfl
    refine ⟨text.toList, ?_, String.ofList_toList⟩
    have hbytes := Bytes.ofText_ofList text.toList
    rw [String.ofList_toList] at hbytes
    rw [hbytes]
    exact mapM_pieces_flatMap text.toList

end Text.Utf8

end CountedStrings
