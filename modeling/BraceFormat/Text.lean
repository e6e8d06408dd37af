/-!
Text is a list of code points, so that an offset, a width or a column counts code points. This
module holds the two cuts that the readers share: one at the first occurrence of a separator, and
one after a run of characters of a class.
-/

set_option autoImplicit false
set_option relaxedAutoImplicit false

namespace BraceFormat

-- Powers and zeros of numbers are those of the core library, whatever else is imported.
attribute [instance (high)] instPowNat Zero.ofOfNat0
attribute [default_instance high] instPowNat

abbrev Text := List Char

instance (text : Text) (texts : List Text) : Decidable (text ∈ texts) :=
  decidable_of_iff (texts.any (· == text) = true) (by simp)

-- What holds of all characters of a text is decided along the text and not for every character.
instance (priority := high) {p : Char → Prop} [DecidablePred p] (text : Text) :
    Decidable (∀ c ∈ text, p c) :=
  decidable_of_iff (text.all (p ·) = true) (by simp)

/-- The parts before and after the first `separator`, if the text has one. -/
def cutAt? (separator : Char) (text : Text) : Option (Text × Text) :=
  match text.dropWhile (· != separator) with
  | [] => none
  | _ :: after => some (text.takeWhile (· != separator), after)

theorem cutAt?_append {separator : Char} {before : Text} (h : separator ∉ before) (after : Text) :
    cutAt? separator (before ++ separator :: after) = some (before, after) := by
  have hb : ∀ c ∈ before, (c != separator) = true := by
    intro c hc
    simp only [bne_iff_ne, ne_eq]
    rintro rfl
    exact h hc
  simp [cutAt?, List.dropWhile_append_of_pos hb, List.takeWhile_append_of_pos hb]

theorem cutAt?_of_notMem {separator : Char} {text : Text} (h : separator ∉ text) :
    cutAt? separator text = none := by
  have hd : text.dropWhile (· != separator) = [] := by
    rw [← List.append_nil text, List.dropWhile_append_of_pos]
    · rfl
    · intro c hc
      simp only [bne_iff_ne, ne_eq]
      rintro rfl
      exact h hc
  simp [cutAt?, hd]

theorem cutAt?_eq_some_iff {separator : Char} {text before after : Text} :
    cutAt? separator text = some (before, after) ↔
      separator ∉ before ∧ text = before ++ separator :: after := by
  constructor
  · intro h
    by_cases hmem : separator ∈ text
    · obtain ⟨front, behind, rfl, hfront⟩ := List.eq_append_cons_of_mem hmem
      rw [cutAt?_append hfront] at h
      cases h
      exact ⟨hfront, rfl⟩
    · rw [cutAt?_of_notMem hmem] at h
      cases h
  · rintro ⟨hbefore, rfl⟩
    exact cutAt?_append hbefore after

theorem cutAt?_eq_none_iff {separator : Char} {text : Text} :
    cutAt? separator text = none ↔ separator ∉ text := by
  refine ⟨fun h hmem ↦ ?_, cutAt?_of_notMem⟩
  obtain ⟨front, behind, rfl, hfront⟩ := List.eq_append_cons_of_mem hmem
  rw [cutAt?_append hfront] at h
  cases h

/-- The longest run of characters of a class at the front, and the text behind it. -/
def runOf (inClass : Char → Bool) (text : Text) : Text × Text :=
  (text.takeWhile inClass, text.dropWhile inClass)

@[simp] theorem runOf_append (inClass : Char → Bool) (text : Text) :
    (runOf inClass text).1 ++ (runOf inClass text).2 = text :=
  List.takeWhile_append_dropWhile

theorem inClass_of_mem_runOf {inClass : Char → Bool} {text : Text} {c : Char}
    (h : c ∈ (runOf inClass text).1) : inClass c = true :=
  List.all_eq_true.mp List.all_takeWhile c h

/-- A run ends where the first character that is not of its class stands. -/
theorem runOf_eq {inClass : Char → Bool} {run behind : Text} (hrun : ∀ c ∈ run, inClass c = true)
    (hbehind : ∀ c, behind.head? = some c → inClass c = false) :
    runOf inClass (run ++ behind) = (run, behind) := by
  unfold runOf
  rw [List.takeWhile_append_of_pos hrun, List.dropWhile_append_of_pos hrun]
  cases behind with
  | nil => simp
  | cons c rest => simp [hbehind c rfl]

end BraceFormat
