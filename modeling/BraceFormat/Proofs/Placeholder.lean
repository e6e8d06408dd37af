import BraceFormat.Placeholder
import BraceFormat.Proofs.Spec.RoundTrip

/-!
# Placeholders that are their own reading

The references and the placeholders that a text can denote, which are those that are read back from
their own text. Neither has a brace in its text, unless it is the fill of the specifier.
-/

set_option autoImplicit false
set_option relaxedAutoImplicit false

namespace BraceFormat

/-! ### References -/

namespace Reference

/-- The references that a text can denote. -/
def Canonical : Reference → Prop
  | implicit => True
  | index position => 0 ≤ position ∧ position < 10 ^ Numeral.maxDigits
  | name text => isName text = true

theorem Canonical.index_eq {position : Int} (h : (index position).Canonical) :
    ∃ n : Nat, position = n ∧ Numeral.Writable n := by
  obtain ⟨hnonneg, hlt⟩ := h
  obtain ⟨n, rfl⟩ := Int.eq_ofNat_of_zero_le hnonneg
  exact ⟨n, rfl, Numeral.natCast_lt_pow_iff.mp hlt⟩

theorem Canonical.writable {reference : Reference} (h : reference.Canonical) :
    reference.Writable := by
  cases reference with
  | implicit => trivial
  | index position =>
    obtain ⟨n, rfl, hwritable⟩ := h.index_eq
    exact hwritable
  | name text => trivial

theorem le_toNat_of_isAlpha {c : Char} (h : c.isAlpha = true) : 65 ≤ c.toNat := by
  have hcase : (c.isUpper || c.isLower) = true := h
  rcases Bool.or_eq_true_iff.mp hcase with hupper | hlower
  · have hfront : 'A'.val ≤ c.val := (of_decide_eq_true hupper : 'A'.val ≤ c.val ∧ _).1
    exact UInt32.le_iff_toNat_le.mp hfront
  · have hfront : 'a'.val ≤ c.val := of_decide_eq_true (Bool.and_eq_true_iff.mp hlower).1
    exact Nat.le_trans (by decide) (UInt32.le_iff_toNat_le.mp hfront)

theorem isDigit_eq_false_of_isNameStart {c : Char} (h : isNameStart c = true) :
    c.isDigit = false := by
  simp only [isNameStart, Bool.or_eq_true, decide_eq_true_eq] at h
  rcases h with halpha | rfl
  · have hlarge := le_toNat_of_isAlpha halpha
    refine Bool.eq_false_iff.mpr fun hdigit ↦ ?_
    simp only [Char.isDigit, Bool.and_eq_true, decide_eq_true_eq] at hdigit
    have hsmall : c.toNat ≤ 57 := UInt32.le_iff_toNat_le.mp hdigit.2
    omega
  · decide

theorem read_print {reference : Reference} (h : reference.Canonical) :
    read reference.print = .ok reference := by
  cases reference with
  | implicit => rfl
  | index position =>
    obtain ⟨n, rfl, hwritable⟩ := h.index_eq
    have hdigits : (Numeral.ofNat n).all Char.isDigit = true :=
      List.all_eq_true.mpr fun c hc ↦ Numeral.isDigit_of_mem_ofNat hc
    simp [read, print, Numeral.ofInt_natCast, Numeral.ofNat_ne_nil, hdigits,
      Numeral.read?_ofNat hwritable]
  | name text =>
    cases text with
    | nil => cases h
    | cons first rest =>
      have hfirst : first.isDigit = false := by
        refine isDigit_eq_false_of_isNameStart ?_
        simp only [Canonical, isName, Bool.and_eq_true] at h
        exact h.1
      simp only [Canonical] at h
      simp [read, print, hfirst, h]

theorem canonical_of_read {text : Text} {reference : Reference} (h : read text = .ok reference) :
    reference.Canonical := by
  unfold read at h
  split at h
  · cases h
    trivial
  split at h
  · rename_i hdigits
    split at h
    · rename_i position hread
      cases h
      obtain ⟨hlength, rfl⟩ := Numeral.read?_eq_some_iff.mp hread
      refine ⟨Int.natCast_nonneg _, Numeral.natCast_lt_pow_iff.mpr ?_⟩
      exact Numeral.writable_value (fun c hc ↦ List.all_eq_true.mp hdigits c hc) hlength
    · cases h
  split at h
  · rename_i hname
    cases h
    exact hname
  · cases h

theorem isNameRest_of_mem_print {reference : Reference} (h : reference.Canonical) {c : Char}
    (hc : c ∈ reference.print) : isNameRest c = true := by
  cases reference with
  | implicit => cases hc
  | index position =>
    obtain ⟨n, rfl, -⟩ := h.index_eq
    rw [print, Numeral.ofInt_natCast] at hc
    simp [isNameRest, Char.isAlphanum, Numeral.isDigit_of_mem_ofNat hc]
  | name text =>
    cases text with
    | nil => cases hc
    | cons first rest =>
      simp only [Canonical, isName, Bool.and_eq_true, List.all_eq_true] at h
      rcases List.mem_cons.mp hc with rfl | hrest
      · have hstart := h.1
        simp only [isNameStart, Bool.or_eq_true] at hstart
        rcases hstart with halpha | hunderscore
        · simp [isNameRest, Char.isAlphanum, halpha]
        · simp [isNameRest, hunderscore]
      · exact h.2 c hrest

theorem ne_of_mem_print {reference : Reference} (h : reference.Canonical) {c d : Char}
    (hc : c ∈ reference.print) (hd : isNameRest d = false) : c ≠ d := by
  rintro rfl
  rw [isNameRest_of_mem_print h hc] at hd
  cases hd

end Reference

/-! ### Placeholders -/

namespace Placeholder

/-- The placeholders that a text can denote. -/
def Canonical (p : Placeholder) : Prop :=
  p.reference.Canonical ∧ ∀ spec ∈ p.spec, spec.Canonical

theorem Canonical.print?_eq {p : Placeholder} (h : p.Canonical) : p.print? = .ok p.print :=
  if_pos ⟨h.1.writable, fun spec hspec ↦ (h.2 spec hspec).writable⟩

theorem parse_of_cutAt?_eq_none {body : Text} (h : cutAt? ':' body = none) :
    parse body =
      match Reference.read body with
      | .error defect => .error (.invalidPlaceholder (braced body) (some defect))
      | .ok reference => .ok ⟨reference, none⟩ := by
  cases hread : Reference.read body with
  | error defect => simp [parse, h, hread]
  | ok reference => simp [parse, h, hread]

theorem parse_of_cutAt?_eq_some {body before after : Text}
    (h : cutAt? ':' body = some (before, after)) :
    parse body =
      match Reference.read before with
      | .error defect => .error (.invalidPlaceholder (braced body) (some defect))
      | .ok reference => (Spec.parse after).map fun spec ↦ ⟨reference, some spec⟩ := by
  cases hread : Reference.read before with
  | error defect => simp [parse, h, hread]
  | ok reference => simp [parse, h, hread]

theorem Canonical.parse_printBody {p : Placeholder} (h : p.Canonical) :
    parse p.printBody = .ok p := by
  obtain ⟨reference, spec⟩ := p
  have hcolon : ':' ∉ reference.print := fun hmem ↦
    Reference.ne_of_mem_print h.1 hmem (by decide) rfl
  cases spec with
  | none =>
    have hbody : (⟨reference, none⟩ : Placeholder).printBody = reference.print :=
      List.append_nil _
    rw [hbody, parse_of_cutAt?_eq_none (cutAt?_of_notMem hcolon), Reference.read_print h.1]
  | some spec =>
    have hbody : (⟨reference, some spec⟩ : Placeholder).printBody =
        reference.print ++ ':' :: spec.print := rfl
    rw [hbody, parse_of_cutAt?_eq_some (cutAt?_append hcolon spec.print),
      Reference.read_print h.1, (h.2 spec rfl).parse_print]
    rfl

/-- A body that is read denotes a canonical reference, and its specifier is read from what stands
behind the first colon. -/
theorem canonical_and_cutAt?_of_parse {body : Text} {p : Placeholder} (h : parse body = .ok p) :
    p.reference.Canonical ∧ ∀ spec ∈ p.spec,
      ∃ before after, cutAt? ':' body = some (before, after) ∧ Spec.parse after = .ok spec := by
  cases hcut : cutAt? ':' body with
  | none =>
    rw [parse_of_cutAt?_eq_none hcut] at h
    split at h
    · cases h
    · rename_i reference hread
      cases h
      exact ⟨Reference.canonical_of_read hread, by simp⟩
  | some parts =>
    obtain ⟨before, after⟩ := parts
    rw [parse_of_cutAt?_eq_some hcut] at h
    split at h
    · cases h
    · rename_i reference hread
      cases hspec : Spec.parse after with
      | error error =>
        rw [hspec] at h
        cases h
      | ok spec =>
        rw [hspec] at h
        cases h
        refine ⟨Reference.canonical_of_read hread, ?_⟩
        rintro _ ⟨⟩
        exact ⟨before, after, rfl, hspec⟩

theorem canonical_of_parse {body : Text} {p : Placeholder} (h : parse body = .ok p) :
    p.Canonical := by
  obtain ⟨hreference, hspec⟩ := canonical_and_cutAt?_of_parse h
  refine ⟨hreference, fun spec hmem ↦ ?_⟩
  obtain ⟨_, _, -, hparse⟩ := hspec spec hmem
  exact Spec.canonical_of_parse hparse

theorem mem_of_mem_after {body before after : Text}
    (h : cutAt? ':' body = some (before, after)) {c : Char} (hc : c ∈ after) : c ∈ body := by
  unfold cutAt? at h
  split at h
  · cases h
  · rename_i first rest hdrop
    cases h
    exact (List.dropWhile_suffix _).subset (hdrop ▸ List.mem_cons_of_mem first hc)

/-- A placeholder read from a body without a certain visible character has no fill of it. -/
theorem notMem_fill_of_parse {body : Text} {p : Placeholder} (h : parse body = .ok p) {d : Char}
    (hd : d ∉ body) (hblank : d ≠ ' ') : ∀ spec ∈ p.spec, d ∉ spec.fill := by
  intro spec hspec hmem
  obtain ⟨_, hspecs⟩ := canonical_and_cutAt?_of_parse h
  obtain ⟨before, after, hcut, hparse⟩ := hspecs spec hspec
  rcases Spec.mem_of_mem_fill_of_parse hparse hmem with hspace | hafter
  · exact hblank hspace
  · exact hd (mem_of_mem_after hcut hafter)

/-- The body of a canonical placeholder has no brace but one in the fill. -/
theorem Canonical.ne_of_mem_printBody {p : Placeholder} (h : p.Canonical) {brace : Char}
    (hbrace : brace ∈ ['{', '}']) (hfill : ∀ spec ∈ p.spec, brace ∉ spec.fill) {c : Char}
    (hc : c ∈ p.printBody) : c ≠ brace := by
  have hother : Reference.isNameRest brace = false ∧ brace ≠ ':' := by
    simp only [List.mem_cons, List.not_mem_nil, or_false] at hbrace
    rcases hbrace with rfl | rfl <;> decide
  rcases List.mem_append.mp hc with hreference | hspec
  · exact Reference.ne_of_mem_print h.1 hreference hother.1
  · cases hp : p.spec with
    | none => simp [hp] at hspec
    | some spec =>
      simp only [hp, Option.elim_some, List.mem_cons] at hspec
      rcases hspec with rfl | hspec
      · exact hother.2.symm
      · exact (h.2 spec hp).ne_of_mem_print hbrace (hfill spec hp) hspec

end Placeholder

end BraceFormat
