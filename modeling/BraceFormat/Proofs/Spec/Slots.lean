import BraceFormat.Spec.Reader

/-!
# The slots of a specifier

A specifier is read slot by slot, each reader taking what it can off the front of the text. Three
laws hold of every reader: what it takes and what it leaves make up the text (`takeAlign_eq`,
`takeSign_eq` and so on); it takes back what was written in its slot, if the text behind cannot be
taken for more of it (`takeAlign_append` and so on); and it is greedy (`Greedy`), which readers one
after the other are again (`Greedy.andThen`).
-/

set_option autoImplicit false
set_option relaxedAutoImplicit false

namespace BraceFormat

theorem Alignment.char_of_ofChar? {c : Char} {align : Alignment} (h : ofChar? c = some align) :
    align.char = c := by
  unfold ofChar? at h
  split at h
  · cases h; simp [char, *]
  split at h
  · cases h; simp [char, *]
  split at h
  · cases h; simp [char, *]
  · cases h

theorem Sign.char_of_ofChar? {c : Char} {sign : Sign} (h : ofChar? c = some sign) :
    sign.char = c := by
  unfold ofChar? at h
  split at h
  · cases h; simp [char, *]
  split at h
  · cases h; simp [char, *]
  · cases h

theorem Base.letter_of_ofChar? {c : Char} {base : Base} (h : ofChar? c = some base) :
    base.letter = [c] := by
  unfold ofChar? at h
  split at h
  · cases h; simp [letter, *]
  split at h
  · cases h; simp [letter, *]
  split at h
  · cases h; simp [letter, *]
  split at h
  · cases h; simp [letter, *]
  · cases h

namespace Spec

/-! ### Nothing is lost -/

theorem takeAlign_eq (text : Text) :
    ((takeAlign text).1.2 = none → (takeAlign text).1.1 = none) ∧
      (takeAlign text).1.1.toList ++ ((takeAlign text).1.2.map Alignment.char).toList ++
        (takeAlign text).2 = text := by
  match text with
  | [] => simp [takeAlign]
  | [first] =>
    cases hfirst : Alignment.ofChar? first with
    | none => simp [takeAlign, hfirst]
    | some align => simp [takeAlign, hfirst, Alignment.char_of_ofChar? hfirst]
  | first :: second :: rest =>
    cases hsecond : Alignment.ofChar? second with
    | some align => simp [takeAlign, hsecond, Alignment.char_of_ofChar? hsecond]
    | none =>
      cases hfirst : Alignment.ofChar? first with
      | none => simp [takeAlign, hsecond, hfirst]
      | some align => simp [takeAlign, hsecond, hfirst, Alignment.char_of_ofChar? hfirst]

theorem takeSign_eq (text : Text) :
    ((takeSign text).1.map Sign.char).toList ++ (takeSign text).2 = text := by
  match text with
  | [] => simp [takeSign]
  | first :: rest =>
    cases hfirst : Sign.ofChar? first with
    | none => simp [takeSign, hfirst]
    | some sign => simp [takeSign, hfirst, Sign.char_of_ofChar? hfirst]

theorem takeAlternate_eq (text : Text) :
    (if (takeAlternate text).1 then ['#'] else []) ++ (takeAlternate text).2 = text := by
  unfold takeAlternate
  split <;> simp

theorem takePlaces_eq (text : Text) :
    (∀ digits ∈ (takePlaces text).1, digits ≠ [] ∧ ∀ c ∈ digits, c.isDigit = true) ∧
      ((takePlaces text).1.elim [] ('.' :: ·)) ++ (takePlaces text).2 = text := by
  unfold takePlaces
  split
  · rename_i rest
    have happend := runOf_append Char.isDigit rest
    split
    · simp
    · rename_i digits behind hne hrun
      have hclass := @inClass_of_mem_runOf Char.isDigit rest
      rw [hrun] at happend hclass
      refine ⟨?_, by simpa using happend⟩
      rintro _ ⟨⟩
      exact ⟨hne, fun c hc ↦ hclass hc⟩
  · simp

theorem takeBase_eq (text : Text) : (takeBase text).1.letter ++ (takeBase text).2 = text := by
  match text with
  | [] => simp [takeBase, Base.letter]
  | first :: rest =>
    cases hfirst : Base.ofChar? first with
    | none => simp [takeBase, hfirst, Base.letter]
    | some base => simp [takeBase, hfirst, Base.letter_of_ofChar? hfirst]

/-! ### What is written is taken back -/

theorem takeAlign_append {fill : Option Char} {align : Option Alignment} {rest : Text}
    (hfill : align = none → fill = none) (hrest : ∀ c ∈ rest, Alignment.ofChar? c = none) :
    takeAlign (fill.toList ++ (align.map Alignment.char).toList ++ rest) =
      ((fill, align), rest) := by
  cases align with
  | none =>
    rw [hfill rfl]
    match rest with
    | [] => simp [takeAlign]
    | [first] => simp [takeAlign, hrest first]
    | first :: second :: rest => simp [takeAlign, hrest first, hrest second]
  | some align =>
    cases fill with
    | some fill => simp [takeAlign, Alignment.ofChar?_char]
    | none =>
      match rest with
      | [] => simp [takeAlign, Alignment.ofChar?_char]
      | second :: rest => simp [takeAlign, hrest second, Alignment.ofChar?_char]

theorem takeSign_append {sign : Option Sign} {rest : Text}
    (hrest : ∀ c ∈ rest, Sign.ofChar? c = none) :
    takeSign ((sign.map Sign.char).toList ++ rest) = (sign, rest) := by
  cases sign with
  | some sign => simp [takeSign, Sign.ofChar?_char]
  | none =>
    match rest with
    | [] => simp [takeSign]
    | first :: rest => simp [takeSign, hrest first]

theorem takeAlternate_append {alternate : Bool} {rest : Text} (hrest : '#' ∉ rest) :
    takeAlternate ((if alternate then ['#'] else []) ++ rest) = (alternate, rest) := by
  cases alternate with
  | true => simp [takeAlternate]
  | false =>
    unfold takeAlternate
    split
    · rename_i hhash
      simp only [Bool.false_eq_true, if_false, List.nil_append] at hhash
      exact absurd (hhash ▸ List.mem_cons_self) hrest
    · simp

theorem takePlaces_of_runOf {rest digits behind : Text} (hne : digits ≠ [])
    (hrun : runOf Char.isDigit rest = (digits, behind)) :
    takePlaces ('.' :: rest) = (some digits, behind) := by
  cases digits with
  | nil => exact absurd rfl hne
  | cons first digits => simp [takePlaces, hrun]

theorem takePlaces_of_runOf_nil {rest behind : Text}
    (hrun : runOf Char.isDigit rest = ([], behind)) :
    takePlaces ('.' :: rest) = (none, '.' :: rest) := by
  simp [takePlaces, hrun]

theorem takePlaces_append {places : Option Text} {rest : Text}
    (hplaces : ∀ digits ∈ places, digits ≠ [] ∧ ∀ c ∈ digits, c.isDigit = true)
    (hrest : ∀ c ∈ rest, c ≠ '.' ∧ c.isDigit = false) :
    takePlaces ((places.elim [] ('.' :: ·)) ++ rest) = (places, rest) := by
  cases places with
  | none =>
    unfold takePlaces
    split
    · rename_i hpoint
      simp only [Option.elim_none, List.nil_append] at hpoint
      exact absurd rfl (hrest '.' (hpoint ▸ List.mem_cons_self)).1
    · simp
  | some digits =>
    obtain ⟨hne, hdigits⟩ := hplaces digits rfl
    have hrun : runOf Char.isDigit (digits ++ rest) = (digits, rest) :=
      runOf_eq hdigits fun c hc ↦ (hrest c (List.mem_of_head? hc)).2
    exact takePlaces_of_runOf hne hrun

theorem takeBase_letter (base : Base) : takeBase base.letter = (base, []) := by
  cases base <;> rfl

/-! ### Greed -/

/-- A reader that takes something off the front of a text is greedy if text added behind changes
nothing of what it takes, unless it has come to the end and goes on into what is added. -/
structure Greedy {α : Type} (take : Text → α × Text) : Prop where
  length_le : ∀ text, (take text).2.length ≤ text.length
  append : ∀ text more, take (text ++ more) = ((take text).1, (take text).2 ++ more) ∨
    (take (text ++ more)).2.length ≤ more.length

/-- Two readers one after the other. -/
def andThen {α β : Type} (first : Text → α × Text) (second : Text → β × Text) (text : Text) :
    (α × β) × Text :=
  (((first text).1, (second (first text).2).1), (second (first text).2).2)

theorem Greedy.andThen {α β : Type} {first : Text → α × Text} {second : Text → β × Text}
    (hfirst : Greedy first) (hsecond : Greedy second) : Greedy (andThen first second) where
  length_le := fun text ↦ Nat.le_trans (hsecond.length_le _) (hfirst.length_le text)
  append := fun text more ↦ by
    rcases hfirst.append text more with hkeep | hpast
    · rcases hsecond.append (first text).2 more with hkeep' | hpast'
      · left
        simp only [Spec.andThen, hkeep, hkeep']
      · right
        simpa only [Spec.andThen, hkeep] using hpast'
    · right
      exact Nat.le_trans (hsecond.length_le _) hpast

theorem length_le_of_append_eq {taken left text : Text} (h : taken ++ left = text) :
    left.length ≤ text.length := by
  simp [← h]

theorem greedy_takeAlign : Greedy takeAlign where
  length_le := fun text ↦ length_le_of_append_eq (takeAlign_eq text).2
  append := fun text more ↦ by
    match text with
    | [] => exact Or.inr (length_le_of_append_eq (takeAlign_eq more).2)
    | [first] =>
      match more with
      | [] => simp
      | second :: behind =>
        cases hsecond : Alignment.ofChar? second with
        | some align => simp [takeAlign, hsecond]
        | none => cases hfirst : Alignment.ofChar? first <;> simp [takeAlign, hsecond, hfirst]
    | first :: second :: rest =>
      left
      cases hsecond : Alignment.ofChar? second with
      | some align => simp [takeAlign, hsecond]
      | none => cases hfirst : Alignment.ofChar? first <;> simp [takeAlign, hsecond, hfirst]

theorem greedy_takeSign : Greedy takeSign where
  length_le := fun text ↦ length_le_of_append_eq (takeSign_eq text)
  append := fun text more ↦ by
    match text with
    | [] => exact Or.inr (length_le_of_append_eq (takeSign_eq more))
    | first :: rest =>
      left
      cases hfirst : Sign.ofChar? first <;> simp [takeSign, hfirst]

theorem greedy_takeAlternate : Greedy takeAlternate where
  length_le := fun text ↦ length_le_of_append_eq (takeAlternate_eq text)
  append := fun text more ↦ by
    match text with
    | [] => exact Or.inr (length_le_of_append_eq (takeAlternate_eq more))
    | first :: rest =>
      left
      by_cases hfirst : first = '#' <;> simp [takeAlternate, hfirst]

theorem greedy_runOf (inClass : Char → Bool) : Greedy (runOf inClass) where
  length_le := fun text ↦ length_le_of_append_eq (runOf_append inClass text)
  append := fun text more ↦ by
    by_cases hdrop : text.dropWhile inClass = []
    · right
      simp only [runOf, List.dropWhile_append, hdrop, List.isEmpty_nil, if_true]
      exact length_le_of_append_eq (runOf_append inClass more)
    · left
      have hshort : (text.takeWhile inClass).length ≠ text.length := by
        intro hlength
        have hboth := congrArg List.length (runOf_append inClass text)
        simp only [runOf, List.length_append, hlength] at hboth
        exact hdrop (List.length_eq_zero_iff.mp (by omega))
      simp [runOf, List.takeWhile_append, List.dropWhile_append, hdrop, hshort]

theorem greedy_takePlaces : Greedy takePlaces where
  length_le := fun text ↦ length_le_of_append_eq (takePlaces_eq text).2
  append := fun text more ↦ by
    match text with
    | [] => exact Or.inr (length_le_of_append_eq (takePlaces_eq more).2)
    | first :: rest =>
      by_cases hfirst : first = '.'
      · subst hfirst
        rcases (greedy_runOf Char.isDigit).append rest more with hkeep | hpast
        · left
          rcases hrun : runOf Char.isDigit rest with ⟨digits, behind⟩
          rw [hrun] at hkeep
          by_cases hnil : digits = []
          · subst hnil
            rw [List.cons_append, takePlaces_of_runOf_nil hrun, takePlaces_of_runOf_nil hkeep]
            rfl
          · rw [List.cons_append, takePlaces_of_runOf hnil hrun, takePlaces_of_runOf hnil hkeep]
        · rcases hrun : runOf Char.isDigit (rest ++ more) with ⟨digits, behind⟩
          rw [hrun] at hpast
          by_cases hnil : digits = []
          · -- a point alone stays behind, whatever is added
            left
            subst hnil
            have hbehind := runOf_append Char.isDigit (rest ++ more)
            rw [hrun] at hbehind
            have hlength := congrArg List.length hbehind
            simp only [List.nil_append, List.length_append] at hlength hpast
            have hrest : rest = [] := List.length_eq_zero_iff.mp (by omega)
            subst hrest
            rw [List.cons_append, takePlaces_of_runOf_nil hrun]
            rfl
          · right
            rw [List.cons_append, takePlaces_of_runOf hnil hrun]
            exact hpast
      · left
        simp [takePlaces, hfirst]

theorem greedy_takeBase : Greedy takeBase where
  length_le := fun text ↦ length_le_of_append_eq (takeBase_eq text)
  append := fun text more ↦ by
    match text with
    | [] => exact Or.inr (length_le_of_append_eq (takeBase_eq more))
    | first :: rest =>
      left
      cases hfirst : Base.ofChar? first <;> simp [takeBase, hfirst]

end Spec

end BraceFormat
