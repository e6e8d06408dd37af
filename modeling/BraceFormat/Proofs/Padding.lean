import BraceFormat.Proofs.Rendering
import BraceFormat.Proofs.Width

/-!
# The width of a padded field

Padding puts runs of the fill on the sides of a text, as many in all as there are columns missing
(`Alignment.Fills`). The columns of the whole are not those of the three parts together: a selector
at the front of the text widens the fill before it, and a joiner at its end takes the fill behind it
along. Each of the two happens once at most, and they go against each other, so a field is at most
one column wider or narrower than it was asked to be (`displayWidth_fill_text_fill`,
`exists_pad_eq_and_inField`).
-/

set_option autoImplicit false
set_option relaxedAutoImplicit false

namespace BraceFormat

/-- How fill for so many columns is put before a text and behind it. -/
structure Alignment.Fills (align : Alignment) (missing before after : Nat) : Prop where
  total : before + after = missing
  left : align = .left → before = 0
  right : align = .right → after = 0
  /-- The fill behind the text is the longer one if they differ. -/
  center : align = .center → before = missing / 2

/-- A text is padded to a width. -/
structure InField (text fill : Text) (align : Alignment) (width : Nat) (padded : Text) : Prop where
  /-- The text stands in the field as it is. -/
  filled : ∃ before after,
    padded = (List.replicate before fill).flatten ++ text ++ (List.replicate after fill).flatten ∧
      align.Fills (width - displayWidth text) before after
  width_eq : joiner ∉ text → emojiSelector ∉ text →
    displayWidth padded = max width (displayWidth text)
  width_le : displayWidth padded ≤ max width (displayWidth text) + 1
  le_width : max width (displayWidth text) ≤ displayWidth padded + 1

theorem Alignment.fills_split (align : Alignment) (missing : Nat) :
    align.Fills missing (align.split missing).1 (align.split missing).2 := by
  cases align with
  | left => exact ⟨Nat.zero_add missing, fun _ ↦ rfl, nofun, nofun⟩
  | right => exact ⟨Nat.add_zero missing, nofun, fun _ ↦ rfl, nofun⟩
  | center => exact ⟨Nat.add_sub_cancel' (Nat.div_le_self missing 2), nofun, nofun, fun _ ↦ rfl⟩

/-! ### Runs of fill -/

theorem displayWidth_singleton (c : Char) : displayWidth [c] = charWidth c := by
  by_cases hc : c = joiner
  · subst hc
    decide
  · rw [displayWidth_eq, lineColumns, measured_cons hc, widening_cons fun _ ↦ rfl]
    exact ite_self _

section Fill

variable {c : Char}

theorem ne_joiner_of_charWidth (h : charWidth c = 1) : c ≠ joiner := by
  rintro rfl
  revert h
  decide

theorem ne_emojiSelector_of_charWidth (h : charWidth c = 1) : c ≠ emojiSelector := by
  rintro rfl
  revert h
  decide

theorem not_isControl_of_charWidth (h : charWidth c = 1) : ¬ IsControl c := by
  intro hcontrol
  rw [charWidth_of_isControl hcontrol] at h
  exact absurd h Nat.zero_ne_one

theorem sumWidth_replicate (h : charWidth c = 1) (count : Nat) :
    sumWidth (List.replicate count c) = count := by
  rw [sumWidth_eq_length fun d hd ↦ List.eq_of_mem_replicate hd ▸ h, List.length_replicate]

theorem measured_replicate_append (h : c ≠ joiner) (count : Nat) (text : Text) :
    measured (List.replicate count c ++ text) = List.replicate count c ++ measured text := by
  induction count with
  | zero => rfl
  | succ count ih =>
    rw [List.replicate_succ, List.cons_append, measured_cons h, ih, List.cons_append]

/-- A run of fill behind a text loses the first character if a joiner takes it along. -/
theorem exists_measured_append_replicate (h : c ≠ joiner) (text : Text) (count : Nat) :
    ∃ joined ≤ 1, measured (text ++ List.replicate count c) =
      measured text ++ List.replicate (count - joined) c := by
  have hrun : ∀ n, measured (List.replicate n c) = List.replicate n c := fun n ↦
    measured_eq_self fun hmem ↦ h (List.eq_of_mem_replicate hmem).symm
  fun_induction measured text with
  | case1 => exact ⟨0, Nat.zero_le 1, hrun count⟩
  | case2 =>
    refine ⟨1, Nat.le_refl 1, ?_⟩
    cases count with
    | zero => rfl
    | succ count => exact (measured_joiner c _).trans (hrun count)
  | case3 joined rest ih => exact ih
  | case4 first rest hfirst ih =>
    obtain ⟨joined, hjoined, hrest⟩ := ih
    refine ⟨joined, hjoined, ?_⟩
    rw [List.cons_append, measured_cons hfirst, hrest, List.cons_append]

/-! ### Selectors across the seams -/

/-- What is in front of a text changes what its selectors add by the first of them at most. -/
theorem widening_le_add_one (last : Option Char) (text : Text) :
    widening none text ≤ widening last text ∧ widening last text ≤ widening none text + 1 := by
  induction text generalizing last with
  | nil => exact ⟨Nat.le_refl 0, Nat.zero_le 1⟩
  | cons first rest ih =>
    have hplain : widening none (first :: rest) =
        widening (if 0 < charWidth first then some first else none) rest :=
      widening_cons (fun _ ↦ rfl) rest
    rw [hplain]
    by_cases hfirst : first = emojiSelector
    · -- behind the first selector it is forgotten what was in front
      subst hfirst
      have hnone :
          widening (if 0 < charWidth emojiSelector then some emojiSelector else none) rest =
            widening none rest := by
        rw [charWidth_eq_of_charWidth? charWidth?_emojiSelector]
        rfl
      rw [hnone]
      cases last with
      | none =>
        rw [hplain, hnone]
        exact ⟨Nat.le_refl _, Nat.le_succ _⟩
      | some widened =>
        have hgain := selectorGain_le widened
        rw [widening_selector]
        omega
    · rw [widening_cons fun hselector ↦ absurd hselector hfirst]
      split
      · exact ⟨Nat.le_refl _, Nat.le_succ _⟩
      · exact ih last

theorem widening_append_of_notMem {back : Text} (h : emojiSelector ∉ back) (last : Option Char)
    (front : Text) : widening last (front ++ back) = widening last front := by
  fun_induction widening last front with
  | case1 last => exact widening_eq_zero h last
  | case2 last first rest widened hwidened ih => rw [List.cons_append, widening, hwidened, ← ih]
  | case3 last first rest hnone ih => rw [List.cons_append, widening, hnone, ← ih]

theorem widening_replicate_append (h : c ≠ emojiSelector) (count : Nat) (last : Option Char)
    (text : Text) :
    ∃ behind, widening last (List.replicate count c ++ text) = widening behind text := by
  induction count generalizing last with
  | zero => exact ⟨last, rfl⟩
  | succ count ih =>
    rw [List.replicate_succ, List.cons_append, widening_cons fun hselector ↦ absurd hselector h]
    exact ih _

/-! ### The width of a field -/

theorem meetsControl_fill_text_fill (h : charWidth c = 1) (before after : Nat) (text : Text) :
    MeetsControl (List.replicate before c ++ text ++ List.replicate after c) ↔
      MeetsControl text := by
  obtain ⟨joined, -, hbehind⟩ :=
    exists_measured_append_replicate (ne_joiner_of_charWidth h) text after
  have hfill : ∀ n, ¬ ∃ d ∈ List.replicate n c, IsControl d := by
    rintro n ⟨d, hd, hcontrol⟩
    rw [List.eq_of_mem_replicate hd] at hcontrol
    exact not_isControl_of_charWidth h hcontrol
  unfold MeetsControl
  rw [List.append_assoc, measured_replicate_append (ne_joiner_of_charWidth h), hbehind]
  simp only [List.mem_append, or_and_right, exists_or, hfill, false_or, or_false]

/-- A text between runs of fill takes a column more or less than the three do, or as many. -/
theorem displayWidth_fill_text_fill (h : charWidth c = 1) (before after : Nat) (text : Text) :
    displayWidth (List.replicate before c ++ text ++ List.replicate after c) ≤
        before + displayWidth text + after + 1 ∧
      before + displayWidth text + after ≤
        displayWidth (List.replicate before c ++ text ++ List.replicate after c) + 1 := by
  have hmeets := meetsControl_fill_text_fill h before after text
  by_cases hcontrol : MeetsControl text
  · -- measured character by character, the parts just add up
    rw [displayWidth_of_meetsControl (hmeets.mpr hcontrol), displayWidth_of_meetsControl hcontrol]
    simp only [sumWidth_append, sumWidth_replicate h]
    omega
  · obtain ⟨joined, hjoined, hbehind⟩ :=
      exists_measured_append_replicate (ne_joiner_of_charWidth h) text after
    have hselector : emojiSelector ∉ List.replicate (after - joined) c := fun hmem ↦
      ne_emojiSelector_of_charWidth h (List.eq_of_mem_replicate hmem).symm
    obtain ⟨last, hlast⟩ := widening_replicate_append (ne_emojiSelector_of_charWidth h) before none
      (measured text)
    have hgain := widening_le_add_one last (measured text)
    rw [displayWidth_of_not_meetsControl fun hpadded ↦ hcontrol (hmeets.mp hpadded),
      displayWidth_of_not_meetsControl hcontrol, lineColumns, lineColumns, List.append_assoc,
      measured_replicate_append (ne_joiner_of_charWidth h), hbehind, ← List.append_assoc,
      widening_append_of_notMem hselector, hlast]
    simp only [sumWidth_append, sumWidth_replicate h]
    omega

/-- A text without joiners and selectors takes no column more or less between runs of fill. -/
theorem displayWidth_fill_text_fill_of_notMem (h : charWidth c = 1) (before after : Nat)
    {text : Text} (hjoiner : joiner ∉ text) (hselector : emojiSelector ∉ text) :
    displayWidth (List.replicate before c ++ text ++ List.replicate after c) =
      before + displayWidth text + after := by
  have hnotMem : ∀ d, d ≠ c → d ∉ text →
      d ∉ List.replicate before c ++ text ++ List.replicate after c := by
    intro d hd htext hmem
    simp only [List.mem_append, List.mem_replicate] at hmem
    rcases hmem with (hfront | hmem) | hback
    · exact hd hfront.2
    · exact htext hmem
    · exact hd hback.2
  rw [displayWidth_eq_sumWidth hjoiner hselector,
    displayWidth_eq_sumWidth (hnotMem _ (ne_joiner_of_charWidth h).symm hjoiner)
      (hnotMem _ (ne_emojiSelector_of_charWidth h).symm hselector)]
  simp only [sumWidth_append, sumWidth_replicate h]

/-- Padding to a width that a text can have succeeds. -/
theorem exists_pad_eq {spec : Spec} (hfill : spec.fill = [c])
    (hwidth : ∀ width ∈ spec.width, width < 2 ^ 63) (text : Text) (default : Alignment) :
    ∃ before after,
      pad text spec default = .ok (List.replicate before c ++ text ++ List.replicate after c) ∧
        (spec.align.getD default).Fills ((spec.width.getD 0).toNat - displayWidth text)
          before after := by
  have hmissing : (spec.width.elim 0 fun width ↦ (width - displayWidth text).toNat) =
      (spec.width.getD 0).toNat - displayWidth text := by
    cases spec.width with
    | none => exact (Nat.zero_sub _).symm
    | some width =>
      simp only [Option.elim_some, Option.getD_some]
      omega
  have hfills := (spec.align.getD default).fills_split
    ((spec.width.getD 0).toNat - displayWidth text)
  have hfits : ¬ Overfills text spec default := by
    have htotal := hfills.total
    have hshort : (spec.width.getD 0).toNat < 2 ^ 63 := by
      cases hspec : spec.width with
      | none => decide
      | some width =>
        have hlt := hwidth width hspec
        simp only [Option.getD_some]
        omega
    rw [Overfills, fillCounts, hmissing, maxCount]
    omega
  refine ⟨_, _, ?_, hfills⟩
  rw [pad_of_fill hfill, if_neg hfits, fillCounts, hmissing]

end Fill

/-- Padding to a width that a text can have, with a fill that is one column wide, gives a field of
that width, or wider if the text is; joiners and selectors in the text can make it wrong by one. -/
theorem exists_pad_eq_and_inField {raw : Text} {spec : Spec} (hspec : Spec.parse raw = .ok spec)
    {width : Int} (hwidth : spec.width = some width) (hshort : width < 2 ^ 63)
    (hfill : displayWidth spec.fill = 1) (text : Text) (default : Alignment) :
    ∃ padded, pad text spec default = .ok padded ∧
      InField text spec.fill (spec.align.getD default) width.toNat padded := by
  obtain ⟨c, hc⟩ := (Spec.canonical_of_parse hspec).fill_eq
  have hnarrow : charWidth c = 1 := by rw [← displayWidth_singleton, ← hc, hfill]
  have hwidths : ∀ w ∈ spec.width, w < 2 ^ 63 := by
    intro w hw
    obtain rfl : width = w := Option.some.inj (hwidth.symm.trans hw)
    exact hshort
  obtain ⟨before, after, hpad, hfills⟩ := exists_pad_eq hc hwidths text default
  rw [hwidth, Option.getD_some] at hfills
  have htotal : before + displayWidth text + after = max width.toNat (displayWidth text) := by
    have hsum := hfills.total
    omega
  have hbounds := displayWidth_fill_text_fill hnarrow before after text
  rw [htotal] at hbounds
  refine ⟨_, hpad, ⟨before, after, ?_, hfills⟩, fun hjoiner hselector ↦ ?_, hbounds.1, hbounds.2⟩
  · rw [hc, List.flatten_replicate_singleton, List.flatten_replicate_singleton]
  · exact (displayWidth_fill_text_fill_of_notMem hnarrow _ _ hjoiner hselector).trans htotal

/-- The bounds are met: a selector widens the `#` before it, and a joiner takes the `#` behind it
along. -/
theorem exists_pad_eq_and_inField_sharp :
    Spec.parse ['#', '>', '3'] =
        .ok { fill := ['#'], align := some .right, width := some 3 } ∧
      Spec.parse ['#', '<', '3'] = .ok { fill := ['#'], align := some .left, width := some 3 } ∧
      displayWidth ['#'] = 1 ∧
      InField [emojiSelector, 'a'] ['#'] .right 3 ['#', '#', emojiSelector, 'a'] ∧
      displayWidth ['#', '#', emojiSelector, 'a'] = 4 ∧
      InField ['a', joiner] ['#'] .left 3 ['a', joiner, '#', '#'] ∧
      displayWidth ['a', joiner, '#', '#'] = 2 := by
  have hfill : displayWidth ['#'] = 1 := by decide
  have hright : Spec.parse ['#', '>', '3'] =
      .ok { fill := ['#'], align := some .right, width := some 3 } := rfl
  have hleft : Spec.parse ['#', '<', '3'] =
      .ok { fill := ['#'], align := some .left, width := some 3 } := rfl
  obtain ⟨wider, hwider, hinWider⟩ :=
    exists_pad_eq_and_inField hright rfl (by decide) hfill [emojiSelector, 'a'] .left
  obtain ⟨narrower, hnarrower, hinNarrower⟩ :=
    exists_pad_eq_and_inField hleft rfl (by decide) hfill ['a', joiner] .left
  obtain rfl : ['#', '#', emojiSelector, 'a'] = wider := Except.ok.inj hwider
  obtain rfl : ['a', joiner, '#', '#'] = narrower := Except.ok.inj hnarrower
  exact ⟨hright, hleft, hfill, hinWider, by decide +kernel, hinNarrower, by decide +kernel⟩

end BraceFormat
