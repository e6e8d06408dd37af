import BraceFormat.Argument.Table

/-!
# Arguments that cannot be read

Every text is read as some value but one: a word for infinity that has a dotted capital or a
dotless small `i` in it. Such a word counts as one in any case, and then denotes no number
(`Value.read_eq_error_iff`). So arguments are read unless one of them is such a word, whatever else
is wrong with them (`ArgumentTable.exists_readFrom_eq_error_iff`).
-/

set_option autoImplicit false
set_option relaxedAutoImplicit false

namespace BraceFormat

/-! ### Results under a function -/

section Results

variable {ε α β : Type} {f : α → β} {result : Except ε α}

theorem map_eq_error_iff {error : ε} : result.map f = .error error ↔ result = .error error := by
  cases result with
  | error _ => simp [Except.map]
  | ok _ => simp [Except.map]

theorem exists_map_eq_ok_iff : (∃ b, result.map f = .ok b) ↔ ∃ a, result = .ok a := by
  cases result with
  | error _ => simp [Except.map]
  | ok _ => simp [Except.map]

theorem map_eq_ok_iff {b : β} : result.map f = .ok b ↔ ∃ a, result = .ok a ∧ f a = b := by
  cases result with
  | error _ => simp [Except.map]
  | ok _ => simp [Except.map]

theorem mapError_eq_ok_iff {ε' : Type} {g : ε → ε'} {a : α} :
    result.mapError g = .ok a ↔ result = .ok a := by
  cases result with
  | error _ => exact iff_of_false nofun nofun
  | ok _ =>
    refine ⟨fun h ↦ ?_, fun h ↦ ?_⟩
    · exact congrArg Except.ok (Except.ok.inj h)
    · exact congrArg Except.ok (Except.ok.inj h)

theorem mapError_eq_error_iff {ε' : Type} {g : ε → ε'} {error' : ε'} :
    result.mapError g = .error error' ↔ ∃ error, result = .error error ∧ g error = error' := by
  cases result with
  | error error =>
    constructor
    · intro h
      exact ⟨error, rfl, Except.error.inj h⟩
    · rintro ⟨other, hother, rfl⟩
      rw [Except.error.inj hother]
      rfl
  | ok _ =>
    constructor
    · intro h
      cases h
    · rintro ⟨error, herror, -⟩
      cases herror

end Results

/-! ### Words for infinity -/

namespace Value

/-- Texts with a sign or without one that are a word for infinity when case is ignored, but not in
ASCII letters. -/
def MisspelledInfinity (text : Text) : Prop :=
  isInfinityWord (splitSign text).2 = true ∧
    ('İ' ∈ (splitSign text).2 ∨ 'ı' ∈ (splitSign text).2)

theorem isInfinityWord_iff {word : Text} :
    isInfinityWord word = true ↔
      word.map foldCase = "inf".toList ∨ word.map foldCase = "infinity".toList := by
  simp only [isInfinityWord, Bool.or_eq_true, decide_eq_true_eq]

theorem toNat_foldCase_lt {word : Text} (h : isInfinityWord word = true) :
    ∀ c ∈ word, (foldCase c).toNat < 128 := by
  intro c hc
  have hfold : foldCase c ∈ word.map foldCase := List.mem_map_of_mem hc
  have hshort : "inf".toList.all (·.toNat < 128) = true := by decide
  have hlong : "infinity".toList.all (·.toNat < 128) = true := by decide
  rcases isInfinityWord_iff.mp h with hword | hword
  · exact of_decide_eq_true (List.all_eq_true.mp hshort _ (hword ▸ hfold))
  · exact of_decide_eq_true (List.all_eq_true.mp hlong _ (hword ▸ hfold))

theorem toLower_eq_self {c : Char} (h : c.toNat < 65 ∨ 90 < c.toNat) : c.toLower = c := by
  unfold Char.toLower
  split
  · rename_i hcapital
    have hge : 65 ≤ c.toNat := UInt32.le_iff_toNat_le.mp hcapital.1
    have hle : c.toNat ≤ 90 := UInt32.le_iff_toNat_le.mp hcapital.2
    omega
  · rfl

/-- A character beyond ASCII that stands for an ASCII letter is one of the two kinds of `i`. -/
theorem eq_or_eq_of_foldCase_lt {c : Char} (hletter : (foldCase c).toNat < 128)
    (hc : 128 ≤ c.toNat) : c = 'İ' ∨ c = 'ı' := by
  by_cases hdotted : c = 'İ' ∨ c = 'ı'
  · exact hdotted
  · rw [foldCase, if_neg hdotted, toLower_eq_self (Or.inr (by omega))] at hletter
    omega

/-- A word for infinity is in ASCII letters unless one of the two kinds of `i` is in it. -/
theorem all_lt_eq_false_iff {word : Text} (h : isInfinityWord word = true) :
    word.all (·.toNat < 128) = false ↔ 'İ' ∈ word ∨ 'ı' ∈ word := by
  rw [List.all_eq_false]
  constructor
  · rintro ⟨c, hc, hlarge⟩
    have hkind := eq_or_eq_of_foldCase_lt (toNat_foldCase_lt h c hc) (by simpa using hlarge)
    rcases hkind with rfl | rfl
    · exact Or.inl hc
    · exact Or.inr hc
  · rintro (hmem | hmem)
    · exact ⟨_, hmem, by decide⟩
    · exact ⟨_, hmem, by decide⟩

theorem foldCase_ne_of_isDigit {c : Char} (h : c.isDigit = true) : foldCase c ≠ 'i' := by
  simp only [Char.isDigit, Bool.and_eq_true, decide_eq_true_eq] at h
  have hle : c.toNat ≤ 57 := UInt32.le_iff_toNat_le.mp h.2
  have hother : ¬ (c = 'İ' ∨ c = 'ı') := by
    rintro (rfl | rfl)
    · revert hle
      decide
    · revert hle
      decide
  rw [foldCase, if_neg hother, toLower_eq_self (Or.inl (by omega))]
  rintro rfl
  revert hle
  decide

/-- No number begins like a word for infinity. -/
theorem exists_cons_of_isInfinityWord {word : Text} (h : isInfinityWord word = true) :
    ∃ first rest, word = first :: rest ∧ first.isDigit = false ∧ first ≠ '.' := by
  have hfront : ∃ tail, word.map foldCase = 'i' :: tail := by
    rcases isInfinityWord_iff.mp h with hword | hword
    · exact ⟨_, hword⟩
    · exact ⟨_, hword⟩
  obtain ⟨tail, htail⟩ := hfront
  obtain ⟨first, rest, rfl, hfirst, -⟩ := List.map_eq_cons_iff.mp htail
  refine ⟨first, rest, rfl, ?_, ?_⟩
  · exact Bool.eq_false_iff.mpr fun hdigit ↦ foldCase_ne_of_isDigit hdigit hfirst
  · rintro rfl
    revert hfirst
    decide

theorem read?_of_isInfinityWord {word : Text} (h : isInfinityWord word = true) :
    Decimal.read? word = none := by
  obtain ⟨first, rest, rfl, hdigit, hpoint⟩ := exists_cons_of_isInfinityWord h
  simp only [Decimal.read?, runOf, List.takeWhile_cons, List.dropWhile_cons, hdigit]
  refine if_pos ?_
  rw [if_neg Bool.false_ne_true, if_neg Bool.false_ne_true]
  split
  · rename_i hfront
    exact absurd (List.cons.inj hfront).1 hpoint
  · rfl

theorem read_of_isInfinityWord {text : Text} (h : isInfinityWord (splitSign text).2 = true) :
    read text =
      if (splitSign text).2.all (·.toNat < 128) then
        .ok (float (.infinity (splitSign text).1))
      else .error (.notANumber text) := by
  obtain ⟨first, rest, hcons, hdigit, -⟩ := exists_cons_of_isInfinityWord h
  have hinteger : ¬ isIntegerText text = true := by
    simp [isIntegerText, hcons, hdigit]
  unfold read
  simp only [if_neg hinteger, read?_of_isInfinityWord h, if_pos h]

theorem exists_read_of_not_isInfinityWord {text : Text}
    (h : ¬ isInfinityWord (splitSign text).2 = true) : ∃ value, read text = .ok value := by
  unfold read
  simp only [if_neg h]
  split
  · split
    · exact ⟨_, rfl⟩
    · exact ⟨_, rfl⟩
  · split
    · exact ⟨_, rfl⟩
    · split
      · exact ⟨_, rfl⟩
      · exact ⟨_, rfl⟩

/-- Reading fails on misspelled words for infinity, and on nothing else. -/
theorem read_eq_error_iff {text : Text} {fault : Fault} :
    read text = .error fault ↔ MisspelledInfinity text ∧ fault = .notANumber text := by
  by_cases hword : isInfinityWord (splitSign text).2 = true
  · rw [read_of_isInfinityWord hword, MisspelledInfinity, ← all_lt_eq_false_iff hword]
    split
    · rename_i hascii
      simp [hascii]
    · rename_i hascii
      simp [hascii, hword, eq_comm]
  · obtain ⟨value, hread⟩ := exists_read_of_not_isInfinityWord hword
    simp [hread, MisspelledInfinity, hword]

end Value

/-! ### Arguments in order -/

theorem Argument.parse_eq_error_iff {token : Text} {position : Int} {fault : Fault} :
    parse token position = .error fault ↔
      Value.MisspelledInfinity (splitName token).2 ∧ fault = .notANumber (splitName token).2 := by
  rw [← Value.read_eq_error_iff]
  exact map_eq_error_iff

namespace ArgumentTable

/-- Reading arguments fails if one of them is misspelled, whatever the others are. -/
theorem exists_readFrom_eq_error_iff {args : List Text} {position : Nat} :
    (∃ fault, readFrom position (args.map Entry.token) = .error fault) ↔
      ∃ token ∈ args, Value.MisspelledInfinity (Argument.splitName token).2 := by
  induction args generalizing position with
  | nil => simp [readFrom]
  | cons token rest ih =>
    rw [List.map_cons, readFrom, Entry.toArgument]
    cases hparse : Argument.parse token position with
    | error fault =>
      have hmisspelled := (Argument.parse_eq_error_iff.mp hparse).1
      simp [hmisspelled]
    | ok argument =>
      have hspelled : ¬ Value.MisspelledInfinity (Argument.splitName token).2 := by
        intro hmisspelled
        rw [Argument.parse_eq_error_iff.mpr ⟨hmisspelled, rfl⟩] at hparse
        cases hparse
      simp only [map_eq_error_iff, List.mem_cons, exists_eq_or_imp, hspelled, false_or]
      exact ih

/-- Arguments that do not form a table are a mistake of their writer, unless one is misspelled. -/
theorem exists_ofEntries_eq_fault_iff {args : List Text} :
    (∃ fault, ofEntries (args.map Entry.token) = .error (.fault fault)) ↔
      ∃ token ∈ args, Value.MisspelledInfinity (Argument.splitName token).2 := by
  rw [← @exists_readFrom_eq_error_iff args 0, ofEntries]
  cases readFrom 0 (args.map Entry.token) with
  | error fault => simp
  | ok arguments =>
    refine iff_of_false ?_ nofun
    rintro ⟨fault, hfault⟩
    -- a table that was not formed is reported as a format error, never as a fault
    obtain ⟨error, -, herror⟩ := mapError_eq_error_iff.mp hfault
    cases herror

end ArgumentTable

end BraceFormat
