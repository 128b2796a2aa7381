import CountedStrings.Config
import Mathlib.Data.List.DropRight
import Mathlib.Logic.Function.Basic

/-!
# Configurations are normal forms

The value of a variable may be written in many ways: with white space around it, with one of five
words for a yes, or as something that is no answer at all.  A configuration is what is left when
these differences are taken away, and reading it again changes nothing any more.

## 1.  Texts with white space around them

`Text.Padded core text` says that a text is another one with white space around it, and
`Text.Trimmed` that there is nothing to take away.  Every text is a trimmed text with white space
around it, and of one only (`padded_trim`, `trim_of_padded`).  So `trim` finds it, and does not care
how much white space there is (`trim_eq_of_padded`).

## 2.  Values

`parseFilter?_eq_some_iff` and `parseFlag?_eq_some_iff` say which values hold which filter and which
answer, without a word about how they are read; `Config.flagWords` are the words that are answers.

## 3.  Configurations

`ofLookup_congr`: a configuration depends on a look-up only through what is found in the two
variables.  `configuration_is_normal` is the law.
-/

namespace CountedStrings

namespace Text

/-! ## 1.  Texts with white space around them -/

/-- Whether there is nothing but white space in a text. -/
def AllBlank (text : String) : Prop := ∀ c ∈ text.toList, isBlank c = true

/-- Whether a text neither starts nor ends with white space. -/
def Trimmed (text : String) : Prop :=
  (∀ c ∈ text.toList.head?, isBlank c = false) ∧ ∀ c ∈ text.toList.getLast?, isBlank c = false

/-- Whether a text is another one with white space around it. -/
def Padded (core text : String) : Prop :=
  ∃ left right, AllBlank left ∧ AllBlank right ∧ text = left ++ core ++ right

-- The instances are written out: one for statements about all characters would be found first where
-- it is in reach, and that one tries every character that there is.
instance (text : String) : Decidable (AllBlank text) :=
  List.decidableBAll (fun c => isBlank c = true) text.toList

instance (text : String) : Decidable (Trimmed text) :=
  @instDecidableAnd _ _ (Option.decidableForallMem text.toList.head?)
    (Option.decidableForallMem text.toList.getLast?)

theorem allBlank_empty : AllBlank "" := by
  intro c hc
  simp at hc

theorem AllBlank.append {first second : String} (h : AllBlank first) (h' : AllBlank second) :
    AllBlank (first ++ second) := by
  intro c hc
  rw [String.toList_append, List.mem_append] at hc
  exact hc.elim (h c) (h' c)

/-- A text is itself with no white space around it. -/
theorem Padded.refl (text : String) : Padded text text :=
  ⟨"", "", allBlank_empty, allBlank_empty, by simp⟩

/-- White space around white space around a text is white space around the text. -/
theorem Padded.trans {core text padded : String} (h : Padded core text) (h' : Padded text padded) :
    Padded core padded := by
  obtain ⟨left, right, hleft, hright, rfl⟩ := h
  obtain ⟨left', right', hleft', hright', rfl⟩ := h'
  exact ⟨left' ++ left, right ++ right', hleft'.append hleft, hright.append hright',
    by simp only [String.append_assoc]⟩

/-- Blanks at the end do not count. -/
theorem trimEnd_append {blanks : List Char} (h : ∀ c ∈ blanks, isBlank c = true)
    (characters : List Char) : trimEnd (characters ++ blanks) = trimEnd characters := by
  rw [trimEnd, List.reverse_append, List.dropWhile_append_of_pos]
  · rfl
  · intro c hc
    exact h c (List.mem_reverse.mp hc)

/-- What ends in no blank stays. -/
theorem trimEnd_eq_self {characters : List Char}
    (h : ∀ c ∈ characters.getLast?, isBlank c = false) : trimEnd characters = characters := by
  refine List.rdropWhile_eq_self_iff.mpr fun hne => ?_
  rw [h _ (List.getLast?_eq_some_getLast hne)]
  exact Bool.false_ne_true

/-- **A trimmed text is found** inside white space. -/
theorem trim_of_padded {core text : String} (hcore : Trimmed core) (h : Padded core text) :
    trim text = core := by
  obtain ⟨left, right, hleft, hright, rfl⟩ := h
  rw [trim, trimCharacters, String.toList_append, String.toList_append, List.append_assoc,
    List.dropWhile_append_of_pos hleft]
  refine String.toList_injective ?_
  rw [String.toList_ofList]
  cases hcharacters : core.toList with
  | nil =>
    -- then the whole text is blank
    rw [List.nil_append, List.dropWhile_eq_nil_iff.mpr hright]
    rfl
  | cons c rest =>
    have hc : isBlank c = false := hcore.1 c (by simp [hcharacters])
    rw [List.cons_append, List.dropWhile_cons_of_neg (by simp [hc]), ← List.cons_append,
      trimEnd_append hright, ← hcharacters]
    exact trimEnd_eq_self hcore.2

/-- What is left has no blank at either end. -/
theorem trimmed_trim (text : String) : Trimmed (trim text) := by
  rw [Trimmed, trim, String.toList_ofList]
  constructor
  · intro c hc
    -- the first character is the first one that is left when the blanks in front are gone
    obtain ⟨rest, hrest⟩ := List.rdropWhile_prefix isBlank (text.toList.dropWhile isBlank)
    have hhead : c ∈ (text.toList.dropWhile isBlank).head? := by
      rw [← hrest]
      exact List.mem_head?_append_of_mem_head? hc
    have hnot := List.head?_dropWhile_not isBlank text.toList
    rw [Option.mem_def.mp hhead] at hnot
    exact hnot
  · intro c hc
    have hne : trimCharacters text.toList ≠ [] := by
      intro hnil
      rw [hnil] at hc
      cases hc
    rw [List.getLast?_eq_some_getLast hne, Option.mem_some_iff] at hc
    rw [← hc]
    exact Bool.eq_false_iff.mpr (List.rdropWhile_last_not isBlank _ hne)

/-- **Every text is a trimmed one** with white space around it. -/
theorem padded_trim (text : String) : Padded (trim text) text := by
  refine ⟨String.ofList (text.toList.takeWhile isBlank),
    String.ofList ((text.toList.dropWhile isBlank).rtakeWhile isBlank), ?_, ?_, ?_⟩
  · intro c hc
    rw [String.toList_ofList] at hc
    exact List.mem_takeWhile_imp hc
  · intro c hc
    rw [String.toList_ofList] at hc
    exact List.mem_rtakeWhile_imp hc
  · refine String.toList_injective ?_
    rw [trim, String.toList_append, String.toList_append, String.toList_ofList,
      String.toList_ofList, String.toList_ofList, List.append_assoc]
    show _ = _ ++ ((text.toList.dropWhile isBlank).rdropWhile isBlank ++ _)
    rw [List.rdropWhile_append_rtakeWhile, List.takeWhile_append_dropWhile]

/-- It does not matter how much white space there is. -/
theorem trim_eq_of_padded {core text : String} (h : Padded core text) : trim text = trim core :=
  trim_of_padded (trimmed_trim core) ((padded_trim core).trans h)

/-- A text is blank exactly if nothing is left of it. -/
theorem trim_eq_empty_iff (text : String) : trim text = "" ↔ AllBlank text := by
  constructor
  · intro h
    obtain ⟨left, right, hleft, hright, htext⟩ := padded_trim text
    rw [htext, h, String.append_empty]
    exact hleft.append hright
  · intro h
    exact trim_of_padded (by decide) ⟨text, "", h, allBlank_empty, by simp⟩

end Text

/-! ## 2.  Values -/

namespace Config

/-- The words that are answers, with the answers that they are. -/
def flagWords : List (String × Bool) :=
  [("1", true), ("true", true), ("TRUE", true), ("yes", true), ("YES", true),
    ("0", false), ("false", false), ("FALSE", false), ("no", false), ("NO", false)]

/-- No word that is an answer starts or ends with white space. -/
theorem trimmed_of_mem_flagWords {x : String × Bool} (h : x ∈ flagWords) : Text.Trimmed x.1 := by
  have hall : ∀ x ∈ flagWords, Text.Trimmed x.1 := by decide
  exact hall x h

/-- **A value holds a filter** exactly if it is that filter with white space around it, and the
filter is not empty. -/
theorem parseFilter?_eq_some_iff {value filter : String} :
    parseFilter? value = some filter ↔
      filter ≠ "" ∧ Text.Trimmed filter ∧ Text.Padded filter value := by
  rw [parseFilter?]
  constructor
  · intro h
    split at h
    · cases h
    · next hne =>
      rw [← Option.some.inj h]
      exact ⟨hne, Text.trimmed_trim value, Text.padded_trim value⟩
  · rintro ⟨hne, htrimmed, hpadded⟩
    rw [Text.trim_of_padded htrimmed hpadded, if_neg hne]

/-- A value holds no filter exactly if it is blank. -/
theorem parseFilter?_eq_none_iff {value : String} :
    parseFilter? value = none ↔ Text.AllBlank value := by
  rw [← Text.trim_eq_empty_iff, parseFilter?]
  split
  · next h => exact iff_of_true rfl h
  · next h => exact iff_of_false (by simp) h

/-- The answer in a value is looked up among the words. -/
theorem parseFlag?_eq_some_iff_mem {value : String} {flag : Bool} :
    parseFlag? value = some flag ↔ (Text.trim value, flag) ∈ flagWords := by
  rw [parseFlag?]
  split <;> cases flag <;> simp_all [flagWords]

/-- **A value holds an answer** exactly if it is one of the words for it, with white space around
it. -/
theorem parseFlag?_eq_some_iff {value : String} {flag : Bool} :
    parseFlag? value = some flag ↔ ∃ word, (word, flag) ∈ flagWords ∧ Text.Padded word value := by
  rw [parseFlag?_eq_some_iff_mem]
  constructor
  · intro h
    exact ⟨_, h, Text.padded_trim value⟩
  · rintro ⟨word, hword, hpadded⟩
    rwa [Text.trim_of_padded (trimmed_of_mem_flagWords hword) hpadded]

/-! ## 3.  Configurations -/

/-- **A configuration depends only on what is found in the two variables.** -/
theorem ofLookup_congr {f g : String → Option String}
    (hfilter : (g filterVariable).bind parseFilter? = (f filterVariable).bind parseFilter?)
    (hflag : (g coloursVariable).bind parseFlag? = (f coloursVariable).bind parseFlag?) :
    ofLookup g = ofLookup f := by
  rw [ofLookup, ofLookup, hfilter, hflag]

/-- What is found in a variable does not change if the variable is given a value, or none, in which
the same is found. -/
theorem bind_update {α : Type} {parse : String → Option α} {f : String → Option String}
    {name : String} {value : Option String} (h : value.bind parse = (f name).bind parse)
    (v : String) : (Function.update f name value v).bind parse = (f v).bind parse := by
  rw [Function.update_apply]
  split
  · next hv => rw [h, hv]
  · rfl

theorem coloursVariable_ne_filterVariable : coloursVariable ≠ filterVariable := by decide

/-- The filter of a configuration is that in the value, or the standard one. -/
theorem logFilter_cases (f : String → Option String) :
    (f filterVariable).bind parseFilter? = some (ofLookup f).logFilter ∨
      (f filterVariable).bind parseFilter? = none ∧
        (ofLookup f).logFilter = standard.logFilter := by
  rw [ofLookup]
  cases (f filterVariable).bind parseFilter? with
  | none => exact Or.inr ⟨rfl, rfl⟩
  | some filter => exact Or.inl rfl

/-- The filter of a configuration would be read as itself. -/
theorem logFilter_isNormal (f : String → Option String) :
    (ofLookup f).logFilter ≠ "" ∧ Text.Trimmed (ofLookup f).logFilter := by
  rcases logFilter_cases f with h | ⟨-, h⟩
  · obtain ⟨value, -, hparse⟩ := Option.bind_eq_some_iff.mp h
    obtain ⟨hne, htrimmed, -⟩ := parseFilter?_eq_some_iff.mp hparse
    exact ⟨hne, htrimmed⟩
  · rw [h]
    decide

/-- **A configuration is a normal form.**  Take any look-up of texts.

* Nothing counts but what it finds in the two variables.
* White space around a value does not count, whatever white space it is and however much.
* A blank filter is as good as none, and so is an answer that is none of the ten words, with white
  space around it or without: the variable might as well be unset.
* The filter of the configuration is not empty, and it neither starts nor ends with white space.  If
  the value is not blank, it is this filter with white space around it, so all that is inside is
  kept.
* If the other value is one of the ten words with white space around it, the answer is that of the
  word.
* Reading the configuration again gives the same one, if its filter is taken for the one value and
  any of the words for its answer is taken for the other. -/
theorem configuration_is_normal (f : String → Option String) :
    (∀ g, g filterVariable = f filterVariable → g coloursVariable = f coloursVariable →
      ofLookup g = ofLookup f) ∧
    (∀ name value padded, f name = some value → Text.Padded value padded →
      ofLookup (Function.update f name (some padded)) = ofLookup f) ∧
    (∀ value, f filterVariable = some value → Text.AllBlank value →
      ofLookup (Function.update f filterVariable none) = ofLookup f) ∧
    (∀ value, f coloursVariable = some value →
      (∀ word flag, Text.Padded word value → (word, flag) ∉ flagWords) →
      ofLookup (Function.update f coloursVariable none) = ofLookup f) ∧
    ((ofLookup f).logFilter ≠ "" ∧ Text.Trimmed (ofLookup f).logFilter ∧
      ∀ value, f filterVariable = some value → ¬ Text.AllBlank value →
        Text.Padded (ofLookup f).logFilter value) ∧
    (∀ value word flag, f coloursVariable = some value → Text.Padded word value →
      (word, flag) ∈ flagWords → (ofLookup f).logColours = flag) ∧
    ∀ g word, g filterVariable = some (ofLookup f).logFilter → g coloursVariable = some word →
      (word, (ofLookup f).logColours) ∈ flagWords → ofLookup g = ofLookup f := by
  obtain ⟨hne, htrimmed⟩ := logFilter_isNormal f
  refine ⟨fun g hfilter hcolours => ?_, fun name value padded hvalue hpadded => ?_,
    fun value hvalue hblank => ?_, fun value hvalue hword => ?_,
    ⟨hne, htrimmed, fun value hvalue hnot => ?_⟩, fun value word flag hvalue hpadded hword => ?_,
    fun g word hfilter hcolours hword => ?_⟩
  · exact ofLookup_congr (by rw [hfilter]) (by rw [hcolours])
  · -- both readings trim the value, whichever of them is asked for
    have htrim := Text.trim_eq_of_padded hpadded
    refine ofLookup_congr (bind_update ?_ _) (bind_update ?_ _)
    · rw [hvalue, Option.bind_some, Option.bind_some, parseFilter?, parseFilter?, htrim]
    · rw [hvalue, Option.bind_some, Option.bind_some, parseFlag?, parseFlag?, htrim]
  · refine ofLookup_congr (bind_update ?_ _) ?_
    · rw [hvalue, Option.bind_some, parseFilter?_eq_none_iff.mpr hblank]
      rfl
    · rw [Function.update_of_ne coloursVariable_ne_filterVariable]
  · refine ofLookup_congr ?_ (bind_update ?_ _)
    · rw [Function.update_of_ne coloursVariable_ne_filterVariable.symm]
    · rw [hvalue, Option.bind_some, Option.bind_none, eq_comm, Option.eq_none_iff_forall_ne_some]
      intro flag hflag
      obtain ⟨word, hmem, hpadded⟩ := parseFlag?_eq_some_iff.mp hflag
      exact hword word flag hpadded hmem
  · rcases logFilter_cases f with h | ⟨h, -⟩
    · rw [hvalue, Option.bind_some] at h
      exact (parseFilter?_eq_some_iff.mp h).2.2
    · rw [hvalue, Option.bind_some] at h
      exact absurd (parseFilter?_eq_none_iff.mp h) hnot
  · have hflag := parseFlag?_eq_some_iff.mpr ⟨word, hword, hpadded⟩
    rw [ofLookup, hvalue, Option.bind_some, hflag, Option.getD_some]
  · have hparse := parseFilter?_eq_some_iff.mpr ⟨hne, htrimmed, Text.Padded.refl _⟩
    have hflag := parseFlag?_eq_some_iff.mpr ⟨word, hword, Text.Padded.refl word⟩
    rw [ofLookup, hfilter, hcolours, Option.bind_some, Option.bind_some, hparse, hflag]
    rfl

/-- A filter with a no-break space in front and an ideographic space behind, and a yes on a line of
its own: the filter comes out as it is inside, further white space changes nothing, and the
configuration is read as itself.  Where the filter is blank and the answer no answer, both variables
might as well be unset. -/
theorem normal_form_of_padded_values :
    let f : String → Option String := fun name =>
      if name = filterVariable then some "\u00a0debug, off\u3000"
      else if name = coloursVariable then some " YES\n" else none
    let g : String → Option String := fun name =>
      if name = filterVariable then some "debug, off"
      else if name = coloursVariable then some "1" else none
    let blank : String → Option String := fun name =>
      if name = filterVariable then some "\u2003 " else some "maybe"
    (Text.Padded "debug, off" "\u00a0debug, off\u3000" ∧ (ofLookup f).logColours = true ∧
      ofLookup g = ofLookup f) ∧
    ofLookup (Function.update f coloursVariable (some "\u2003 YES\n\t")) = ofLookup f ∧
    ofLookup (Function.update blank filterVariable none) = ofLookup blank ∧
    ofLookup (Function.update blank coloursVariable none) = ofLookup blank := by
  intro f g blank
  have hread : ofLookup f = ⟨.other, "debug, off", true⟩ := by decide +kernel
  obtain ⟨-, hpad, -, -, ⟨-, -, hpart⟩, hflag, hagain⟩ := configuration_is_normal f
  obtain ⟨-, -, hblank, hnoAnswer, -⟩ := configuration_is_normal blank
  have hinside := hpart "\u00a0debug, off\u3000" (by decide) (by decide)
  rw [hread] at hinside
  refine ⟨⟨hinside, ?_, ?_⟩, ?_, ?_, ?_⟩
  · exact hflag " YES\n" "YES" true (by decide) ⟨" ", "\n", by decide, by decide, by decide⟩
      (by decide)
  · exact hagain g "1" (by rw [hread]; decide) (by decide) (by rw [hread]; decide)
  · exact hpad coloursVariable " YES\n" _ (by decide)
      ⟨"\u2003", "\t", by decide, by decide, by decide⟩
  · exact hblank "\u2003 " (by decide) (by decide)
  · refine hnoAnswer "maybe" (by decide) fun word flag hpadded hmem => ?_
    have hanswer := parseFlag?_eq_some_iff.mpr ⟨word, hmem, hpadded⟩
    have hnone : parseFlag? "maybe" = none := by decide +kernel
    cases hnone.symm.trans hanswer

end Config

end CountedStrings
