import Mathlib.Data.List.Forall2
import BraceFormat.Proofs.Argument
import BraceFormat.Proofs.Number.Decimal

/-!
# What an argument is read as

The text of an argument is what stands behind its first `=`, or all of it, without the blanks
around it. A text of digits with an optional sign is an integer unless it is too long, and a word
for infinity or for no number or a decimal fraction, with an optional sign, is a binary64 number.
All else is text, but for the words for infinity with a foreign `i`, which cannot be read
(`Argument.exists_parse_classified`).
-/

set_option autoImplicit false
set_option relaxedAutoImplicit false

namespace BraceFormat

/-! ### Blanks at the ends -/

/-- What is left of a text without the blanks at both ends. -/
structure Strips (text core : Text) : Prop where
  blanks : ∃ front back, text = front ++ core ++ back ∧ ∀ c ∈ front ++ back, isBlank c = true
  head : ∀ c, core.head? = some c → isBlank c = false
  last : ∀ c, core.getLast? = some c → isBlank c = false

theorem isBlank_of_head?_dropWhile {text : Text} {c : Char}
    (h : (text.dropWhile isBlank).head? = some c) : isBlank c = false := by
  have hnot := List.head?_dropWhile_not isBlank text
  rw [h] at hnot
  exact hnot

theorem strips_strip (text : Text) : Strips text (strip text) := by
  let rest := text.dropWhile isBlank
  have hfront : text = text.takeWhile isBlank ++ rest := List.takeWhile_append_dropWhile.symm
  have hback : rest = strip text ++ (rest.reverse.takeWhile isBlank).reverse := by
    rw [strip, trim, ← List.reverse_append, List.takeWhile_append_dropWhile, List.reverse_reverse]
  refine ⟨⟨text.takeWhile isBlank, (rest.reverse.takeWhile isBlank).reverse, ?_, ?_⟩, ?_, ?_⟩
  · rw [List.append_assoc, ← hback]
    exact hfront
  · refine List.forall_mem_append.mpr ⟨fun c hc ↦ ?_, fun c hc ↦ ?_⟩
    · exact List.all_eq_true.mp List.all_takeWhile c hc
    · exact List.all_eq_true.mp List.all_takeWhile c (List.mem_reverse.mp hc)
  · intro c hc
    obtain ⟨more, hmore⟩ := List.head?_eq_some_iff.mp hc
    have hhead : (text.dropWhile isBlank).head? = some c :=
      List.head?_eq_some_iff.mpr ⟨_, hback.trans (by rw [hmore, List.cons_append])⟩
    exact isBlank_of_head?_dropWhile hhead
  · intro c hc
    rw [strip, trim, List.getLast?_reverse] at hc
    exact isBlank_of_head?_dropWhile hc

theorem Strips.strip_eq {text core : Text} (h : Strips text core) : strip text = core := by
  obtain ⟨⟨front, back, rfl, hblank⟩, hhead, hlast⟩ := h
  obtain ⟨hfront, hback⟩ := List.forall_mem_append.mp hblank
  by_cases hcore : core = []
  · have hrun : runOf isBlank (front ++ back ++ []) = (front ++ back, []) := runOf_eq hblank nofun
    rw [hcore, List.append_nil, ← List.append_nil (front ++ back), strip, trim]
    exact congrArg (fun run ↦ (run.2.reverse.dropWhile isBlank).reverse) hrun
  · have hbehind : (front ++ core ++ back).dropWhile isBlank = core ++ back := by
      have hrun : runOf isBlank (front ++ (core ++ back)) = (front, core ++ back) := by
        refine runOf_eq hfront fun c hc ↦ hhead c ?_
        rwa [List.head?_append_of_ne_nil _ hcore] at hc
      rw [List.append_assoc]
      exact congrArg Prod.snd hrun
    have hrun : runOf isBlank (back.reverse ++ core.reverse) = (back.reverse, core.reverse) := by
      refine runOf_eq (fun c hc ↦ hback c (List.mem_reverse.mp hc)) fun c hc ↦ hlast c ?_
      rwa [List.head?_reverse] at hc
    rw [strip, trim, hbehind, List.reverse_append]
    exact (congrArg (·.2.reverse) hrun).trans (List.reverse_reverse core)

/-! ### Names -/

namespace Argument

/-- A token is cut into a name and a text: all of it is the text if no `=` is in it, and otherwise
the name stands before the first one and the text behind it. Blanks around either do not count, and
a name of nothing else is none. -/
inductive SplitsName : Text → Option Text → Text → Prop
  | unnamed {token text : Text} (hmark : '=' ∉ token) (htext : Strips token text) :
      SplitsName token none text
  | blank {left right text : Text} (hmark : '=' ∉ left) (hleft : Strips left [])
      (htext : Strips right text) : SplitsName (left ++ '=' :: right) none text
  | named {left right name text : Text} (hmark : '=' ∉ left) (hleft : Strips left name)
      (hname : name ≠ []) (htext : Strips right text) :
      SplitsName (left ++ '=' :: right) (some name) text

theorem splitsName_splitName (token : Text) :
    SplitsName token (splitName token).1 (splitName token).2 := by
  unfold splitName
  cases hcut : cutAt? '=' token with
  | none => exact SplitsName.unnamed (cutAt?_eq_none_iff.mp hcut) (strips_strip token)
  | some parts =>
    obtain ⟨left, right⟩ := parts
    obtain ⟨hmark, rfl⟩ := cutAt?_eq_some_iff.mp hcut
    have hleft := strips_strip left
    by_cases hname : strip left = []
    · rw [hname] at hleft
      simp only [if_pos hname]
      exact SplitsName.blank hmark hleft (strips_strip right)
    · simp only [if_neg hname]
      exact SplitsName.named hmark hleft hname (strips_strip right)

theorem SplitsName.splitName_eq {token text : Text} {name : Option Text}
    (h : SplitsName token name text) : splitName token = (name, text) := by
  cases h with
  | unnamed hmark htext =>
    simp only [splitName, cutAt?_eq_none_iff.mpr hmark, htext.strip_eq]
  | blank hmark hleft htext =>
    simp only [splitName, cutAt?_append hmark, hleft.strip_eq, htext.strip_eq]
    rfl
  | named hmark hleft hname htext =>
    simp only [splitName, cutAt?_append hmark, hleft.strip_eq, htext.strip_eq, if_neg hname]

/-- There is just one way to cut a token. -/
theorem splitsName_iff {token text : Text} {name : Option Text} :
    SplitsName token name text ↔ splitName token = (name, text) := by
  refine ⟨SplitsName.splitName_eq, fun h ↦ ?_⟩
  have hsplits := splitsName_splitName token
  rwa [h] at hsplits

end Argument

/-! ### Words -/

/-- A letter in either case. -/
def IsCaseOf (c letter : Char) : Prop :=
  c = letter ∨ c = letter.toUpper

/-- A letter in either case, or a dotted capital or a dotless small `i` for an `i`. -/
def Resembles (c letter : Char) : Prop :=
  IsCaseOf c letter ∨ letter = 'i' ∧ (c = 'İ' ∨ c = 'ı')

instance (c letter : Char) : Decidable (IsCaseOf c letter) :=
  inferInstanceAs (Decidable (_ ∨ _))

instance (c letter : Char) : Decidable (Resembles c letter) :=
  inferInstanceAs (Decidable (_ ∨ _))

theorem map_eq_iff_forall₂ {f : Char → Char} {relation : Char → Char → Prop} {word letters : Text}
    (h : ∀ letter ∈ letters, ∀ c, f c = letter ↔ relation c letter) :
    word.map f = letters ↔ List.Forall₂ relation word letters := by
  induction letters generalizing word with
  | nil => rw [List.map_eq_nil_iff, List.forall₂_nil_right_iff]
  | cons letter rest ih =>
    obtain ⟨hletter, hrest⟩ := List.forall_mem_cons.mp h
    rw [List.map_eq_cons_iff, List.forall₂_cons_right_iff]
    constructor
    · rintro ⟨c, more, rfl, hc, hmore⟩
      exact ⟨c, more, (hletter c).mp hc, (ih hrest).mp hmore, rfl⟩
    · rintro ⟨c, more, hc, hmore, rfl⟩
      exact ⟨c, more, rfl, (hletter c).mpr hc, (ih hrest).mpr hmore⟩

namespace Value

/-- The letters of the words that denote a number or none. -/
def wordLetters : Text :=
  "infinityan".toList

theorem toLower_eq_iff {letter : Char} (h : letter ∈ wordLetters) (c : Char) :
    c.toLower = letter ↔ IsCaseOf c letter := by
  by_cases hcapital : 65 ≤ c.toNat ∧ c.toNat ≤ 90
  · have hall : ∀ code < 91, 65 ≤ code → ∀ letter ∈ wordLetters,
        ((Char.ofNat code).toLower = letter ↔ IsCaseOf (Char.ofNat code) letter) := by
      decide
    have hcode := hall c.toNat (by omega) hcapital.1 letter h
    rwa [Char.ofNat_toNat] at hcode
  · have hupper : ∀ letter ∈ wordLetters,
        65 ≤ letter.toUpper.toNat ∧ letter.toUpper.toNat ≤ 90 := by decide
    have hother : c ≠ letter.toUpper := by
      rintro rfl
      exact hcapital (hupper letter h)
    rw [toLower_eq_self (by omega), IsCaseOf, or_iff_left hother]

theorem foldCase_eq_iff {letter : Char} (h : letter ∈ wordLetters) (c : Char) :
    foldCase c = letter ↔ Resembles c letter := by
  by_cases hodd : c = 'İ' ∨ c = 'ı'
  · have hall : ∀ odd ∈ ['İ', 'ı'], ∀ letter ∈ wordLetters,
        (foldCase odd = letter ↔ Resembles odd letter) := by decide
    exact hall c (by simpa using hodd) letter h
  · rw [foldCase, if_neg hodd, toLower_eq_iff h, Resembles, or_iff_left fun hfor ↦ hodd hfor.2]

/-- A word in any case is one that resembles the letters without a foreign `i` in it. -/
theorem forall₂_isCaseOf_iff {word letters : Text} (h : ∀ letter ∈ letters, letter ∈ wordLetters) :
    List.Forall₂ IsCaseOf word letters ↔
      List.Forall₂ Resembles word letters ∧ ¬ ('İ' ∈ word ∨ 'ı' ∈ word) := by
  rw [← map_eq_iff_forall₂ fun letter hletter ↦ toLower_eq_iff (h letter hletter),
    ← map_eq_iff_forall₂ fun letter hletter ↦ foldCase_eq_iff (h letter hletter)]
  have hsame : ¬ ('İ' ∈ word ∨ 'ı' ∈ word) → word.map foldCase = word.map Char.toLower := by
    intro hplain
    refine List.map_congr_left fun c hc ↦ if_neg ?_
    rintro (rfl | rfl)
    · exact hplain (Or.inl hc)
    · exact hplain (Or.inr hc)
  have hplain : word.map Char.toLower = letters → ¬ ('İ' ∈ word ∨ 'ı' ∈ word) := by
    rintro rfl (hodd | hodd)
    · exact absurd (h _ (List.mem_map_of_mem hodd)) (by decide)
    · exact absurd (h _ (List.mem_map_of_mem hodd)) (by decide)
  constructor
  · intro hlower
    exact ⟨(hsame (hplain hlower)).trans hlower, hplain hlower⟩
  · rintro ⟨hfold, hnone⟩
    exact (hsame hnone).symm.trans hfold

/-! ### Forms of a value -/

/-- A text is the word for infinity, short or long, letter by letter. -/
def IsInfinity (relation : Char → Char → Prop) (word : Text) : Prop :=
  List.Forall₂ relation word "inf".toList ∨ List.Forall₂ relation word "infinity".toList

/-- Texts of a binary64 number: a decimal fraction, or a word in any case. -/
inductive SpellsFloat : Text → Binary64 → Prop
  | decimal {negative : Bool} {unsigned text : Text} {d : Decimal}
      (hsigned : Signed negative unsigned text) (hspells : Decimal.Spells unsigned d) :
      SpellsFloat text (.ofDecimal negative d)
  | infinity {negative : Bool} {word text : Text} (hsigned : Signed negative word text)
      (hword : IsInfinity IsCaseOf word) : SpellsFloat text (.infinity negative)
  | nan {negative : Bool} {word text : Text} (hsigned : Signed negative word text)
      (hword : List.Forall₂ IsCaseOf word "nan".toList) : SpellsFloat text .nan

/-- What reading a text gives, by the form of the text. -/
structure Classified (text : Text) (result : Except Fault Value) : Prop where
  integer : ∀ n, result = .ok (integer n) ↔
    ∃ negative digits, Signed negative digits text ∧ Numeral.IsNumeral digits ∧
      digits.length ≤ Numeral.maxDigits ∧
      n = if negative then -(Numeral.value digits : Int) else Numeral.value digits
  float : ∀ x, result = .ok (float x) ↔
    (¬ ∃ negative digits, Signed negative digits text ∧ Numeral.IsNumeral digits) ∧
      SpellsFloat text x
  string : ∀ other, result = .ok (string other) → other = text
  error : ∀ fault, result = .error fault ↔
    (∃ negative word, Signed negative word text ∧ IsInfinity Resembles word ∧
      ('İ' ∈ word ∨ 'ı' ∈ word)) ∧ fault = .notANumber text

theorem isIntegerText_iff {text : Text} :
    isIntegerText text = true ↔
      ∃ negative digits, Signed negative digits text ∧ Numeral.IsNumeral digits := by
  simp only [isIntegerText, Bool.and_eq_true, decide_eq_true_eq, List.all_eq_true]
  constructor
  · intro hnumeral
    exact ⟨_, _, signed_splitSign text, hnumeral⟩
  · rintro ⟨negative, digits, hsigned, hnumeral⟩
    rw [hsigned.splitSign_of_isNumeral hnumeral]
    exact hnumeral

theorem isInfinityWord_iff_isInfinity {word : Text} :
    isInfinityWord word = true ↔ IsInfinity Resembles word := by
  have hletters : ∀ letter ∈ "infinity".toList, letter ∈ wordLetters := by decide
  have hshort : ∀ letter ∈ "inf".toList, letter ∈ wordLetters := by decide
  rw [isInfinityWord_iff, IsInfinity,
    map_eq_iff_forall₂ fun letter h ↦ foldCase_eq_iff (hshort letter h),
    map_eq_iff_forall₂ fun letter h ↦ foldCase_eq_iff (hletters letter h)]

theorem isInfinity_isCaseOf_iff {word : Text} :
    IsInfinity IsCaseOf word ↔ IsInfinity Resembles word ∧ ¬ ('İ' ∈ word ∨ 'ı' ∈ word) := by
  have hletters : ∀ letter ∈ "infinity".toList, letter ∈ wordLetters := by decide
  have hshort : ∀ letter ∈ "inf".toList, letter ∈ wordLetters := by decide
  rw [IsInfinity, forall₂_isCaseOf_iff hshort, forall₂_isCaseOf_iff hletters, ← or_and_right]
  rfl

theorem isNanWord_iff {word : Text} :
    isNanWord word = true ↔ List.Forall₂ IsCaseOf word "nan".toList := by
  have hletters : ∀ letter ∈ "nan".toList, letter ∈ wordLetters := by decide
  rw [isNanWord, decide_eq_true_eq, forall₂_isCaseOf_iff hletters,
    ← map_eq_iff_forall₂ fun letter h ↦ foldCase_eq_iff (hletters letter h), iff_self_and]
  -- a foreign `i` would be the letter `i`, which is not in the word
  intro hword
  rintro (hodd | hodd)
  · have hmem : foldCase 'İ' ∈ word.map foldCase := List.mem_map_of_mem hodd
    rw [hword] at hmem
    exact absurd hmem (by decide)
  · have hmem : foldCase 'ı' ∈ word.map foldCase := List.mem_map_of_mem hodd
    rw [hword] at hmem
    exact absurd hmem (by decide)

/-! ### Reading -/

section Reading

variable {text : Text}

theorem read_of_isIntegerText (h : isIntegerText text = true) :
    read text =
      if (splitSign text).2.length ≤ Numeral.maxDigits then
        .ok (integer (if (splitSign text).1 then -(Numeral.value (splitSign text).2 : Int)
          else Numeral.value (splitSign text).2))
      else .ok (string text) := by
  unfold read
  simp only [if_pos h, Numeral.read?]
  split
  · rename_i hread
    split at hread
    · rename_i hshort
      rw [if_pos hshort, Option.some.inj hread]
    · cases hread
  · rename_i hread
    split at hread
    · cases hread
    · rename_i hlong
      rw [if_neg hlong]

theorem read_of_not_isIntegerText (h : ¬ isIntegerText text = true) :
    read text =
      match Decimal.read? (splitSign text).2 with
      | some d => .ok (float (.ofDecimal (splitSign text).1 d))
      | none =>
        if isInfinityWord (splitSign text).2 then
          if (splitSign text).2.all (·.toNat < 128) then .ok (float (.infinity (splitSign text).1))
          else .error (.notANumber text)
        else if isNanWord (splitSign text).2 then .ok (float .nan)
        else .ok (string text) := by
  exact if_neg h

theorem read_eq_integer_iff {n : Int} :
    read text = .ok (integer n) ↔
      ∃ negative digits, Signed negative digits text ∧ Numeral.IsNumeral digits ∧
        digits.length ≤ Numeral.maxDigits ∧
        n = if negative then -(Numeral.value digits : Int) else Numeral.value digits := by
  constructor
  · intro h
    by_cases hinteger : isIntegerText text = true
    · obtain ⟨negative, digits, hsigned, hnumeral⟩ := isIntegerText_iff.mp hinteger
      rw [read_of_isIntegerText hinteger, hsigned.splitSign_of_isNumeral hnumeral] at h
      split at h
      · rename_i hshort
        cases h
        exact ⟨negative, digits, hsigned, hnumeral, hshort, rfl⟩
      · cases h
    · rw [read_of_not_isIntegerText hinteger] at h
      split at h
      · cases h
      · split at h
        · split at h
          · cases h
          · cases h
        · split at h
          · cases h
          · cases h
  · rintro ⟨negative, digits, hsigned, hnumeral, hshort, rfl⟩
    rw [read_of_isIntegerText (isIntegerText_iff.mpr ⟨negative, digits, hsigned, hnumeral⟩),
      hsigned.splitSign_of_isNumeral hnumeral, if_pos hshort]

theorem spellsFloat_of_read {x : Binary64} (h : read text = .ok (float x)) :
    ¬ isIntegerText text = true ∧ SpellsFloat text x := by
  by_cases hinteger : isIntegerText text = true
  · rw [read_of_isIntegerText hinteger] at h
    split at h
    · cases h
    · cases h
  · refine ⟨hinteger, ?_⟩
    have hsigned := signed_splitSign text
    rw [read_of_not_isIntegerText hinteger] at h
    split at h
    · rename_i d hread
      cases h
      exact SpellsFloat.decimal hsigned (Decimal.read?_eq_some_iff.mp hread)
    · split at h
      · rename_i hword
        split at h
        · rename_i hascii
          cases h
          refine SpellsFloat.infinity hsigned (isInfinity_isCaseOf_iff.mpr ⟨?_, fun hodd ↦ ?_⟩)
          · exact isInfinityWord_iff_isInfinity.mp hword
          · rw [(all_lt_eq_false_iff hword).mpr hodd] at hascii
            cases hascii
        · cases h
      · split at h
        · rename_i hword
          cases h
          exact SpellsFloat.nan hsigned (isNanWord_iff.mp hword)
        · cases h

/-- A word begins with one of its letters, so what stands in front of it is the sign. -/
theorem splitSign_of_word {negative : Bool} {word letters : Text} {letter : Char}
    (hsigned : Signed negative word text)
    (hword : List.Forall₂ Resembles word (letter :: letters)) (hletter : letter ∈ wordLetters) :
    splitSign text = (negative, word) := by
  have hsigns : ∀ sign ∈ ['+', '-'], ∀ letter ∈ wordLetters, ¬ Resembles sign letter := by
    decide
  obtain ⟨first, rest, hfirst, -, rfl⟩ := List.forall₂_cons_right_iff.mp hword
  refine hsigned.splitSign_eq ?_ ?_
  · intro hhead
    obtain rfl := Option.some.inj hhead
    exact hsigns '+' (by decide) letter hletter hfirst
  · intro hhead
    obtain rfl := Option.some.inj hhead
    exact hsigns '-' (by decide) letter hletter hfirst

theorem splitSign_of_isInfinity {negative : Bool} {word : Text}
    (hsigned : Signed negative word text) (hword : IsInfinity Resembles word) :
    splitSign text = (negative, word) := by
  rcases hword with hword | hword
  · exact splitSign_of_word hsigned hword (by decide)
  · exact splitSign_of_word hsigned hword (by decide)

theorem read_of_isNanWord {negative : Bool} {word : Text} (hsigned : Signed negative word text)
    (hword : List.Forall₂ IsCaseOf word "nan".toList) : read text = .ok (float .nan) := by
  have hsplit := splitSign_of_word hsigned (hword.imp fun _ _ ↦ Or.inl) (by decide)
  have hnan := isNanWord_iff.mpr hword
  have hinfinity : ¬ isInfinityWord word = true := by
    rw [isNanWord, decide_eq_true_eq] at hnan
    rw [isInfinityWord_iff, hnan]
    decide
  obtain ⟨first, rest, hfirst, -, rfl⟩ := List.forall₂_cons_right_iff.mp hword
  have hnumber : first.isDigit = false ∧ first ≠ '.' := by
    rcases hfirst with rfl | rfl
    · decide
    · decide
  have hinteger : ¬ isIntegerText text = true := by
    simp [isIntegerText, hsplit, hnumber.1]
  have hdecimal : Decimal.read? (first :: rest) = none := by
    refine Option.eq_none_iff_forall_ne_some.mpr fun d hread ↦ ?_
    exact (Decimal.read?_eq_some_iff.mp hread).head?_ne hnumber.1 hnumber.2 rfl
  rw [read_of_not_isIntegerText hinteger, hsplit]
  simp only [hdecimal, if_neg hinfinity, if_pos hnan]

theorem read_of_spellsFloat {x : Binary64} (hinteger : ¬ isIntegerText text = true)
    (h : SpellsFloat text x) : read text = .ok (float x) := by
  cases h with
  | @decimal negative unsigned _ d hsigned hspells =>
    have hsplit : splitSign text = (negative, unsigned) :=
      hsigned.splitSign_eq (hspells.head?_ne (by decide) (by decide))
        (hspells.head?_ne (by decide) (by decide))
    rw [read_of_not_isIntegerText hinteger, hsplit]
    simp only [hspells.read?_eq]
  | @infinity negative word _ hsigned hword =>
    obtain ⟨hresembles, hplain⟩ := isInfinity_isCaseOf_iff.mp hword
    have hsplit := splitSign_of_isInfinity hsigned hresembles
    have hinfinity := isInfinityWord_iff_isInfinity.mpr hresembles
    have hascii : word.all (·.toNat < 128) = true := by
      by_contra hnot
      exact hplain ((all_lt_eq_false_iff hinfinity).mp (Bool.eq_false_iff.mpr hnot))
    rw [read_of_isInfinityWord (by rwa [hsplit]), hsplit]
    exact if_pos hascii
  | nan hsigned hword => exact read_of_isNanWord hsigned hword

theorem misspelledInfinity_iff :
    MisspelledInfinity text ↔ ∃ negative word, Signed negative word text ∧
      IsInfinity Resembles word ∧ ('İ' ∈ word ∨ 'ı' ∈ word) := by
  constructor
  · rintro ⟨hword, hodd⟩
    exact ⟨_, _, signed_splitSign text, isInfinityWord_iff_isInfinity.mp hword, hodd⟩
  · rintro ⟨negative, word, hsigned, hword, hodd⟩
    rw [MisspelledInfinity, splitSign_of_isInfinity hsigned hword]
    exact ⟨isInfinityWord_iff_isInfinity.mpr hword, hodd⟩

theorem eq_of_read_eq_string {other : Text} (h : read text = .ok (string other)) :
    other = text := by
  by_cases hinteger : isIntegerText text = true
  · rw [read_of_isIntegerText hinteger] at h
    split at h
    · cases h
    · cases h
      rfl
  · rw [read_of_not_isIntegerText hinteger] at h
    split at h
    · cases h
    · split at h
      · split at h
        · cases h
        · cases h
      · split at h
        · cases h
        · cases h
          rfl

theorem classified_read (text : Text) : Classified text (read text) where
  integer := fun _ ↦ read_eq_integer_iff
  float := fun x ↦ by
    rw [← isIntegerText_iff]
    exact ⟨spellsFloat_of_read, fun h ↦ read_of_spellsFloat h.1 h.2⟩
  string := fun _ ↦ eq_of_read_eq_string
  error := fun fault ↦ by rw [← misspelledInfinity_iff, read_eq_error_iff]

end Reading

end Value

/-- A token is cut into a name and a text in just one way. These are the name and the text of the
argument that it is read as, and its value is what the form of the text asks for. -/
theorem Argument.exists_parse_classified (token : Text) (position : Int) :
    ∃ name text, (∀ name' text', SplitsName token name' text' ↔ name' = name ∧ text' = text) ∧
      ∃ result, Value.Classified text result ∧
        parse token position = result.map fun value ↦ ⟨position, name, value, text⟩ := by
  refine ⟨(splitName token).1, (splitName token).2, fun name' text' ↦ ?_, _,
    Value.classified_read _, rfl⟩
  rw [splitsName_iff, Prod.ext_iff]
  exact and_congr eq_comm eq_comm

end BraceFormat
