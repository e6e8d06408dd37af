import BraceFormat.Proofs.References
import BraceFormat.Proofs.Template.Scan

/-!
# The shape of the arguments decides what is a mistake

The shape of a table is the names that its arguments have and the kinds of their values. A reference
finds arguments of one kind in tables of one shape, or is missing in both, and what a specifier asks
for is allowed or refused for a kind. So the values decide what text a template is formatted to, and
whether they exceed a limit, but not whether the template is a mistake or which one
(`format_sameVerdict`).
-/

set_option autoImplicit false
set_option relaxedAutoImplicit false

namespace BraceFormat

/-- What is known of an argument without its value. -/
def Argument.shape (argument : Argument) : Option Text × ValueKind :=
  (argument.name, argument.value.kind)

/-- The names and the kinds of the arguments, in order. -/
def ArgumentTable.shape (table : ArgumentTable) : List (Option Text × ValueKind) :=
  table.arguments.map Argument.shape

/-- Formatting comes to a text or to a mistake, and not to a limit of the values. -/
def Answers (result : Except Failure Text) : Prop :=
  ∀ fault, result ≠ .error (.fault fault)

/-- Some text on both sides, or the same mistake. -/
inductive SameVerdict : Except Failure Text → Except Failure Text → Prop
  | texts (first second : Text) : SameVerdict (.ok first) (.ok second)
  | mistake (error : FormatError) :
    SameVerdict (.error (.format error)) (.error (.format error))

section Verdicts

variable {first second : Except Failure Text}

theorem Answers.of_map {f : Text → Text} (h : Answers (first.map f)) : Answers first := by
  rintro fault rfl
  exact h fault rfl

theorem SameVerdict.map (h : SameVerdict first second) (f g : Text → Text) :
    SameVerdict (first.map f) (second.map g) := by
  cases h with
  | texts text text' => exact .texts (f text) (g text')
  | mistake error => exact .mistake error

/-- A failure that is no limit is a mistake. -/
theorem sameVerdict_of_answers {failure : Failure} (h : Answers (.error failure)) :
    SameVerdict (.error failure) (.error failure) := by
  cases failure with
  | format error => exact .mistake error
  | fault fault => exact absurd rfl (h fault)

end Verdicts

/-! ### References -/

namespace ArgumentTable

variable {first second : ArgumentTable}

theorem size_eq_of_shape (h : first.shape = second.shape) : first.size = second.size := by
  have hlength := congrArg List.length h
  rwa [shape, shape, List.length_map, List.length_map] at hlength

theorem map_shape_get? (table : ArgumentTable) (position : Int) :
    (table.get? position).map Argument.shape =
      if position < 0 then none else table.shape[position.toNat]? := by
  unfold get?
  split
  · rfl
  · exact List.getElem?_map.symm

theorem map_shape_getNamed? (table : ArgumentTable) (name : Text) :
    (table.getNamed? name).map Argument.shape = table.shape.find? (·.1 = some name) := by
  rw [shape, List.find?_map]
  rfl

/-- In tables of one shape, a reference selects arguments of one shape, or none. -/
theorem map_shape_select? (h : first.shape = second.shape) (cursor : Nat) (reference : Reference) :
    (first.select? cursor reference).map Argument.shape =
      (second.select? cursor reference).map Argument.shape := by
  cases reference with
  | implicit => rw [select?, select?, map_shape_get?, map_shape_get?, h]
  | index position => rw [select?, select?, map_shape_get?, map_shape_get?, h]
  | name name => rw [select?, select?, map_shape_getNamed?, map_shape_getNamed?, h]

end ArgumentTable

/-! ### One placeholder -/

theorem exists_eq_ok_of_answers_mapError {result : Except Fault Text}
    (h : Answers (result.mapError .fault)) : ∃ text, result.mapError Failure.fault = .ok text := by
  cases result with
  | error fault => exact absurd rfl (h fault)
  | ok text => exact ⟨text, rfl⟩

/-- A directive is refused for the kind of a value, whatever the value is. -/
theorem render_sameVerdict {first second : Value} (h : first.kind = second.kind) {spec : Spec}
    (hfirst : Answers (render first spec)) (hsecond : Answers (render second spec)) :
    SameVerdict (render first spec) (render second spec) := by
  unfold render at hfirst hsecond ⊢
  rw [← h] at hsecond ⊢
  cases hrefused : refused spec first.kind with
  | cons directive rest =>
    rw [hrefused] at hfirst
    exact sameVerdict_of_answers hfirst
  | nil =>
    rw [hrefused] at hfirst hsecond
    obtain ⟨text, htext⟩ := exists_eq_ok_of_answers_mapError hfirst
    obtain ⟨text', htext'⟩ := exists_eq_ok_of_answers_mapError hsecond
    show SameVerdict ((renderValue first spec).mapError .fault)
      ((renderValue second spec).mapError .fault)
    rw [htext, htext']
    exact .texts text text'

section Tables

variable {first second : ArgumentTable} {cursor : Nat}

theorem renderField_sameVerdict (h : first.shape = second.shape) {p : Placeholder}
    (hfirst : Answers (renderField first cursor p))
    (hsecond : Answers (renderField second cursor p)) :
    SameVerdict (renderField first cursor p) (renderField second cursor p) := by
  have hselect := ArgumentTable.map_shape_select? h cursor p.reference
  unfold renderField at hfirst hsecond ⊢
  by_cases hwritable : p.reference.Writable
  · rw [ArgumentTable.resolve_of_writable hwritable] at hfirst hsecond ⊢
    rw [ArgumentTable.resolve_of_writable hwritable]
    cases hargument : first.select? cursor p.reference with
    | none =>
      rw [hargument] at hselect
      rw [Option.map_eq_none_iff.mp hselect.symm, ArgumentTable.size_eq_of_shape h]
      exact .mistake _
    | some argument =>
      rw [hargument] at hfirst hselect
      obtain ⟨argument', hargument', hshape⟩ := Option.map_eq_some_iff.mp hselect.symm
      rw [hargument'] at hsecond ⊢
      have hkind : argument.value.kind = argument'.value.kind := (congrArg Prod.snd hshape).symm
      exact render_sameVerdict hkind hfirst hsecond
  · rw [ArgumentTable.resolve_of_not_writable hwritable] at hfirst
    exact absurd rfl (hfirst .numeralTooLong)

/-! ### All placeholders -/

theorem answers_renderField {table : ArgumentTable} {p : Placeholder} {rest : List Token}
    (h : Answers (renderTokens table cursor (.field p :: rest)).1) :
    Answers (renderField table cursor p) := by
  intro fault hfault
  rw [renderTokens_field_of_error hfault] at h
  exact h fault rfl

/-- Runs over tables of one shape both come to their end, or stop with the same mistake. -/
theorem renderTokens_sameVerdict (h : first.shape = second.shape) {tokens : List Token}
    (hfirst : Answers (renderTokens first cursor tokens).1)
    (hsecond : Answers (renderTokens second cursor tokens).1) :
    SameVerdict (renderTokens first cursor tokens).1 (renderTokens second cursor tokens).1 := by
  induction tokens generalizing cursor with
  | nil => exact .texts [] []
  | cons token rest ih =>
    cases token with
    | literal text =>
      rw [renderTokens_literal] at hfirst hsecond
      rw [renderTokens_literal, renderTokens_literal]
      exact (ih hfirst.of_map hsecond.of_map).map _ _
    | field p =>
      have hfield := renderField_sameVerdict h (answers_renderField hfirst)
        (answers_renderField hsecond)
      generalize hp : renderField first cursor p = rendered at hfield
      generalize hp' : renderField second cursor p = rendered' at hfield
      cases hfield with
      | mistake error =>
        rw [renderTokens_field_of_error hp, renderTokens_field_of_error hp']
        exact .mistake error
      | texts text text' =>
        rw [renderTokens_field_of_ok hp] at hfirst ⊢
        rw [renderTokens_field_of_ok hp'] at hsecond ⊢
        exact (ih hfirst.of_map hsecond.of_map).map _ _

end Tables

/-- Two lists of arguments that make tables of one shape, and for which formatting a template comes
to no limit of the values, are both formatted, or both refused with the same mistake. -/
theorem format_sameVerdict {template : Text} {entries entries' : List ArgumentTable.Entry}
    {first second : ArgumentTable} (hentries : ArgumentTable.ofEntries entries = .ok first)
    (hentries' : ArgumentTable.ofEntries entries' = .ok second) (h : first.shape = second.shape)
    (hfirst : Answers (format template entries)) (hsecond : Answers (format template entries')) :
    SameVerdict (format template entries) (format template entries') := by
  rw [format, hentries] at hfirst ⊢
  rw [format, hentries'] at hsecond ⊢
  show SameVerdict (formatWith first template) (formatWith second template)
  unfold formatWith at hfirst hsecond ⊢
  cases hparse : Template.parse template with
  | error error => exact .mistake error
  | ok tokens =>
    rw [hparse] at hfirst hsecond
    exact renderTokens_sameVerdict h hfirst hsecond

/-- An argument is shown and then refused for a sign that it cannot have; neither the text that it
is nor the number in front of it makes a difference to that. -/
theorem format_sameVerdict_sign :
    ArgumentTable.ofEntries [.token ['0'], .token ['x', '=']] =
        .ok ⟨[⟨0, none, .integer 0, ['0']⟩, ⟨1, some ['x'], .string [], []⟩], by decide⟩ ∧
      ArgumentTable.ofEntries [.token ['-', '7'], .token ['x', '=', 'b']] =
        .ok ⟨[⟨0, none, .integer (-7), ['-', '7']⟩, ⟨1, some ['x'], .string ['b'], ['b']⟩],
          by decide⟩ ∧
      format ['{', 'x', '}', '{', 'x', ':', '+', '}'] [.token ['0'], .token ['x', '=']] =
        .error (.format (.unsupportedSpec ['+'] "sign '+'".toList "string".toList)) ∧
      SameVerdict
        (format ['{', 'x', '}', '{', 'x', ':', '+', '}'] [.token ['0'], .token ['x', '=']])
        (format ['{', 'x', '}', '{', 'x', ':', '+', '}']
          [.token ['-', '7'], .token ['x', '=', 'b']]) := by
  have hparse : Template.parse ['{', 'x', '}', '{', 'x', ':', '+', '}'] =
      .ok [.field ⟨.name ['x'], none⟩, .field ⟨.name ['x'], some { sign := some .plus }⟩] := by
    have hplain : (Piece.field ['x'] ⟨.name ['x'], none⟩).Valid :=
      ⟨List.forall_mem_singleton.mpr rfl, rfl⟩
    have hsigned : (Piece.field ['x', ':', '+']
        ⟨.name ['x'], some { sign := some .plus }⟩).Valid :=
      ⟨by simp [Template.isBrace], rfl⟩
    refine Template.parse_eq_ok_iff.mpr ⟨[.field ['x'] ⟨.name ['x'], none⟩,
      .field ['x', ':', '+'] ⟨.name ['x'], some { sign := some .plus }⟩], ?_, rfl, rfl⟩
    exact List.forall_mem_cons.mpr ⟨hplain, List.forall_mem_singleton.mpr hsigned⟩
  have hfirst : format ['{', 'x', '}', '{', 'x', ':', '+', '}'] [.token ['0'], .token ['x', '=']] =
      .error (.format (.unsupportedSpec ['+'] "sign '+'".toList "string".toList)) := by
    show formatWith _ _ = _
    rw [formatWith, hparse]
    rfl
  have hsecond : format ['{', 'x', '}', '{', 'x', ':', '+', '}']
        [.token ['-', '7'], .token ['x', '=', 'b']] =
      .error (.format (.unsupportedSpec ['+'] "sign '+'".toList "string".toList)) := by
    show formatWith _ _ = _
    rw [formatWith, hparse]
    rfl
  refine ⟨rfl, rfl, hfirst, format_sameVerdict rfl rfl rfl ?_ ?_⟩
  · intro fault hfault
    rw [hfirst] at hfault
    cases hfault
  · intro fault hfault
    rw [hsecond] at hfault
    cases hfault

end BraceFormat
