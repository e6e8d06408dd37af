import BraceFormat.Proofs.Formatting
import BraceFormat.Proofs.Table

/-!
# References by position are enough

Counting implicit references and looking up names are ways to say a position. Tokens whose
references are replaced by the positions that they stand for are rendered to the same text, without
a cursor that moves, or fail at the same token and for the same reason; only a missing argument is
called by another name (`renderTokens_explicit`). The cursor of a run that has not failed never
passes the last argument, so the positions are numbers that can be written as long as the count of
arguments can.
-/

set_option autoImplicit false
set_option relaxedAutoImplicit false

namespace BraceFormat

/-- Tokens with their references replaced. The replacement of a reference depends on how many
implicit ones are in front of it. -/
def mapReferences (replace : Nat → Reference → Reference) (passed : Nat) : List Token → List Token
  | [] => []
  | .literal text :: rest => .literal text :: mapReferences replace passed rest
  | .field p :: rest =>
    .field { p with reference := replace passed p.reference } ::
      mapReferences replace (p.reference.advance passed) rest

/-- A reference by position for an implicit one. -/
def Reference.numbered (passed : Nat) : Reference → Reference
  | implicit => index passed
  | reference => reference

namespace ArgumentTable

/-- The position of the argument with a name; that behind the last argument if there is none. -/
def positionOf (table : ArgumentTable) (name : Text) : Nat :=
  (table.arguments.findIdx? (·.isNamed name)).getD table.size

/-- A reference by position for any reference. -/
def explicit (table : ArgumentTable) (passed : Nat) : Reference → Reference
  | .implicit => .index passed
  | .index position => .index position
  | .name name => .index (table.positionOf name)

end ArgumentTable

/-- The same failure, but for how a missing argument is called. -/
inductive Failure.SameButReference : Failure → Failure → Prop
  | same (failure : Failure) : SameButReference failure failure
  | missing (first second : Text) (count : Int) :
    SameButReference (.format (.missingArgument first count))
      (.format (.missingArgument second count))

/-- The same result, or failures that differ at most in how a missing argument is called. -/
inductive Agree {α : Type} : Except Failure α → Except Failure α → Prop
  | ok (a : α) : Agree (.ok a) (.ok a)
  | error {first second : Failure} (h : first.SameButReference second) :
    Agree (.error first) (.error second)

theorem Agree.refl {α : Type} (result : Except Failure α) : Agree result result := by
  cases result with
  | error failure => exact .error (.same failure)
  | ok a => exact .ok a

/-! ### One reference -/

namespace ArgumentTable

variable {table : ArgumentTable}

theorem positionOf_eq_findIdx (table : ArgumentTable) (name : Text) :
    table.positionOf name = table.arguments.findIdx (·.isNamed name) :=
  List.findIdx_eq_getD_findIdx?.symm

theorem positionOf_le_size (table : ArgumentTable) (name : Text) :
    table.positionOf name ≤ table.size := by
  rw [positionOf_eq_findIdx]
  exact List.findIdx_le_length

theorem get?_positionOf (table : ArgumentTable) (name : Text) :
    table.get? (table.positionOf name) = table.getNamed? name := by
  rw [get?_natCast, positionOf_eq_findIdx, getNamed?, List.find?_eq_getElem?_findIdx]

theorem select?_explicit (table : ArgumentTable) (cursor other : Nat) (reference : Reference) :
    table.select? other (table.explicit cursor reference) = table.select? cursor reference := by
  cases reference with
  | implicit => rfl
  | index position => rfl
  | name name => exact get?_positionOf table name

/-- Positions up to that behind the last argument can be written if the count of arguments can. -/
theorem writable_explicit_iff (hsize : table.size < 10 ^ Numeral.maxDigits) {cursor : Nat}
    (hcursor : cursor ≤ table.size) (reference : Reference) :
    (table.explicit cursor reference).Writable ↔ reference.Writable := by
  cases reference with
  | implicit => exact iff_of_true (Nat.lt_of_le_of_lt hcursor hsize) trivial
  | index position => exact Iff.rfl
  | name name =>
    exact iff_of_true (Nat.lt_of_le_of_lt (positionOf_le_size table name) hsize) trivial

theorem resolve_of_writable {reference : Reference} (h : reference.Writable) (cursor : Nat) :
    table.resolve cursor reference =
      match table.select? cursor reference with
      | some argument => .ok argument
      | none => .error (.format (.missingArgument (reference.label cursor) table.size)) :=
  if_neg (not_not_intro h)

theorem resolve_of_not_writable {reference : Reference} (h : ¬ reference.Writable) (cursor : Nat) :
    table.resolve cursor reference = .error (.fault .numeralTooLong) :=
  if_pos h

theorem select?_of_resolve {cursor : Nat} {reference : Reference} {argument : Argument}
    (h : table.resolve cursor reference = .ok argument) :
    table.select? cursor reference = some argument := by
  by_cases hwritable : reference.Writable
  · rw [resolve_of_writable hwritable] at h
    cases hselect : table.select? cursor reference with
    | none =>
      rw [hselect] at h
      cases h
    | some other =>
      rw [hselect] at h
      cases h
      rfl
  · rw [resolve_of_not_writable hwritable] at h
    cases h

theorem resolve_explicit (hsize : table.size < 10 ^ Numeral.maxDigits) {cursor : Nat}
    (hcursor : cursor ≤ table.size) (other : Nat) (reference : Reference) :
    Agree (table.resolve cursor reference)
      (table.resolve other (table.explicit cursor reference)) := by
  have hwritable := writable_explicit_iff hsize hcursor reference
  by_cases hreference : reference.Writable
  · rw [resolve_of_writable hreference, resolve_of_writable (hwritable.mpr hreference),
      select?_explicit]
    cases table.select? cursor reference with
    | none => exact .error (.missing _ _ _)
    | some argument => exact .ok argument
  · rw [resolve_of_not_writable hreference,
      resolve_of_not_writable fun hexplicit ↦ hreference (hwritable.mp hexplicit)]
    exact .error (.same _)

/-- A reference that is resolved leaves the cursor within the table. -/
theorem advance_le_size {cursor : Nat} (hcursor : cursor ≤ table.size) {reference : Reference}
    {argument : Argument} (h : table.resolve cursor reference = .ok argument) :
    reference.advance cursor ≤ table.size := by
  cases reference with
  | index position => exact hcursor
  | name name => exact hcursor
  | implicit =>
    have hselect : table.arguments[cursor]? = some argument := by
      rw [← get?_natCast]
      exact select?_of_resolve h
    exact (List.getElem?_eq_some_iff.mp hselect).1

end ArgumentTable

/-! ### One placeholder -/

section Field

variable {table : ArgumentTable} {cursor : Nat}

theorem advance_explicit (table : ArgumentTable) (cursor other : Nat) (reference : Reference) :
    (table.explicit cursor reference).advance other = other := by
  cases reference with
  | implicit => rfl
  | index position => rfl
  | name name => rfl

theorem exists_resolve_of_renderField {p : Placeholder} {text : Text}
    (h : renderField table cursor p = .ok text) :
    ∃ argument, table.resolve cursor p.reference = .ok argument := by
  unfold renderField at h
  cases hresolve : table.resolve cursor p.reference with
  | error failure =>
    rw [hresolve] at h
    cases h
  | ok argument => exact ⟨argument, rfl⟩

theorem renderField_explicit (hsize : table.size < 10 ^ Numeral.maxDigits)
    (hcursor : cursor ≤ table.size) (other : Nat) (p : Placeholder) :
    Agree (renderField table cursor p)
      (renderField table other { p with reference := table.explicit cursor p.reference }) := by
  have hresolve := ArgumentTable.resolve_explicit hsize hcursor other p.reference
  unfold renderField
  revert hresolve
  generalize table.resolve cursor p.reference = first
  generalize table.resolve other (table.explicit cursor p.reference) = second
  intro hresolve
  cases hresolve with
  | error same => exact .error same
  | ok argument => exact .refl (render argument.value (p.spec.getD {}))

end Field

/-! ### All placeholders -/

/-- Two runs come to the same: to one text, or to failures at the same token that differ at most in
how a missing argument is called. -/
inductive SameRun (table : ArgumentTable) (cursor other : Nat) (first second : List Token) : Prop
  | rendered {text : Text} (hfirst : (renderTokens table cursor first).1 = .ok text)
    (hsecond : (renderTokens table other second).1 = .ok text)
  | failed {index : Nat} {failure failure' : Failure}
    (hfirst : FailsAt table cursor first index failure)
    (hsecond : FailsAt table other second index failure')
    (same : failure.SameButReference failure')

section Runs

variable {table : ArgumentTable} {cursor other : Nat} {first second : List Token}

theorem SameRun.literal (h : SameRun table cursor other first second) (text : Text) :
    SameRun table cursor other (.literal text :: first) (.literal text :: second) := by
  cases h with
  | @rendered more hfirst hsecond =>
    have hfirst' : (renderTokens table cursor (.literal text :: first)).1 = .ok (text ++ more) := by
      rw [renderTokens_literal, hfirst]
      rfl
    have hsecond' :
        (renderTokens table other (.literal text :: second)).1 = .ok (text ++ more) := by
      rw [renderTokens_literal, hsecond]
      rfl
    exact .rendered hfirst' hsecond'
  | failed hfirst hsecond same => exact .failed (hfirst.literal text) (hsecond.literal text) same

theorem SameRun.field {p q : Placeholder} {text : Text} (hp : renderField table cursor p = .ok text)
    (hq : renderField table other q = .ok text)
    (h : SameRun table (p.reference.advance cursor) (q.reference.advance other) first second) :
    SameRun table cursor other (.field p :: first) (.field q :: second) := by
  cases h with
  | @rendered more hfirst hsecond =>
    have hp' : (renderTokens table cursor (.field p :: first)).1 = .ok (text ++ more) := by
      rw [renderTokens_field_of_ok hp, hfirst]
      rfl
    have hq' : (renderTokens table other (.field q :: second)).1 = .ok (text ++ more) := by
      rw [renderTokens_field_of_ok hq, hsecond]
      rfl
    exact .rendered hp' hq'
  | failed hfirst hsecond same => exact .failed (.field hp hfirst) (.field hq hsecond) same

/-- Explicit references are rendered as those that they stand for, wherever the cursor of the run
with them is. -/
theorem sameRun_explicit (hsize : table.size < 10 ^ Numeral.maxDigits)
    (hcursor : cursor ≤ table.size) (other : Nat) (tokens : List Token) :
    SameRun table cursor other tokens (mapReferences table.explicit cursor tokens) := by
  induction tokens generalizing cursor with
  | nil => exact .rendered rfl rfl
  | cons token rest ih =>
    cases token with
    | literal text => exact (ih hcursor).literal text
    | field p =>
      rw [mapReferences]
      have hagree := renderField_explicit hsize hcursor other p
      generalize hp : renderField table cursor p = rendered at hagree
      generalize hq : renderField table other
        { p with reference := table.explicit cursor p.reference } = rendered' at hagree
      cases hagree with
      | error same => exact .failed (.here hp rest) (.here hq _) same
      | ok text =>
        obtain ⟨argument, hresolve⟩ := exists_resolve_of_renderField hp
        refine .field hp hq ?_
        rw [advance_explicit]
        exact ih (ArgumentTable.advance_le_size hcursor hresolve)

end Runs

/-! ### How many arguments are needed -/

namespace Template

theorem implicitCount_numbered (passed : Nat) (tokens : List Token) :
    implicitCount (mapReferences Reference.numbered passed tokens) = 0 := by
  induction tokens generalizing passed with
  | nil => rfl
  | cons token rest ih =>
    cases token with
    | literal text => exact ih passed
    | field p =>
      have hcount := ih (p.reference.advance passed)
      rw [mapReferences, ← Nat.zero_add (implicitCount _), ← advance_add_implicitCount, hcount]
      cases p.reference with
      | implicit => rfl
      | index position => rfl
      | name name => rfl

theorem names_numbered (passed : Nat) (tokens : List Token) :
    names (mapReferences Reference.numbered passed tokens) = names tokens := by
  unfold names
  refine congrArg distinct ?_
  induction tokens generalizing passed with
  | nil => rfl
  | cons token rest ih =>
    cases token with
    | literal text => exact ih passed
    | field p =>
      obtain ⟨reference, spec⟩ := p
      cases reference with
      | implicit => exact ih (passed + 1)
      | index position => exact ih passed
      | name name => exact congrArg (name :: ·) (ih passed)

theorem indexedCount_field (p : Placeholder) (rest : List Token) :
    indexedCount (.field p :: rest) =
      max (match p.reference with | .index position => (position + 1).toNat | _ => 0)
        (indexedCount rest) :=
  rfl

/-- The positions given to implicit references are those from `passed` on. -/
theorem indexedCount_numbered (passed : Nat) (tokens : List Token) :
    max passed (indexedCount (mapReferences Reference.numbered passed tokens)) =
      max (passed + implicitCount tokens) (indexedCount tokens) := by
  induction tokens generalizing passed with
  | nil => rfl
  | cons token rest ih =>
    cases token with
    | literal text => exact ih passed
    | field p =>
      have hrest := ih (p.reference.advance passed)
      rw [advance_add_implicitCount] at hrest
      obtain ⟨reference, spec⟩ := p
      rw [mapReferences, indexedCount_field, indexedCount_field]
      cases reference with
      | implicit =>
        show max passed (max (passed + 1) _) = max _ (max 0 _)
        rw [Nat.zero_max, ← hrest, ← Nat.max_assoc, Nat.max_eq_right (Nat.le_succ passed)]
        rfl
      | index position =>
        show max passed (max (position + 1).toNat _) = max _ (max (position + 1).toNat _)
        rw [Nat.max_left_comm, Nat.max_left_comm (passed + _), ← hrest]
        rfl
      | name name =>
        show max passed (max 0 _) = max _ (max 0 _)
        rw [Nat.zero_max, Nat.zero_max, ← hrest]
        rfl

theorem expectedArgs_numbered (tokens : List Token) :
    expectedArgs (mapReferences Reference.numbered 0 tokens) = expectedArgs tokens := by
  have hindexed := indexedCount_numbered 0 tokens
  rw [Nat.zero_max, Nat.zero_add] at hindexed
  rw [expectedArgs, implicitCount_numbered, names_numbered, Nat.zero_max, hindexed, expectedArgs]

end Template

/-- Positions in place of all references, those of implicit ones counted and those of names looked
up, make no difference to what is rendered or to where and why rendering fails, but to how a missing
argument is called; and positions in place of the implicit references make no difference to how many
arguments are needed. -/
theorem renderTokens_explicit {table : ArgumentTable} (hsize : table.size < 10 ^ Numeral.maxDigits)
    (tokens : List Token) :
    SameRun table 0 0 tokens (mapReferences table.explicit 0 tokens) ∧
      Template.expectedArgs (mapReferences Reference.numbered 0 tokens) =
        Template.expectedArgs tokens :=
  ⟨sameRun_explicit hsize (Nat.zero_le _) 0 tokens, Template.expectedArgs_numbered tokens⟩

/-- A name that the one argument has, an implicit reference to it, and another one to none. -/
theorem renderTokens_explicit_name :
    1 < 10 ^ Numeral.maxDigits ∧
      SameRun ⟨[⟨0, some ['a'], .integer 5, ['5']⟩], by decide⟩ 0 0
        [.field ⟨.name ['a'], none⟩, .literal [' '], .field {}, .field {}]
        [.field ⟨.index 0, none⟩, .literal [' '], .field ⟨.index 0, none⟩,
          .field ⟨.index 1, none⟩] ∧
      Template.expectedArgs [.field ⟨.name ['a'], none⟩, .literal [' '], .field ⟨.index 0, none⟩,
          .field ⟨.index 1, none⟩] =
        Template.expectedArgs
          [.field ⟨.name ['a'], none⟩, .literal [' '], .field {}, .field {}] := by
  have hsize : ArgumentTable.size ⟨[⟨0, some ['a'], .integer 5, ['5']⟩], by decide⟩ <
      10 ^ Numeral.maxDigits :=
    Nat.lt_of_lt_of_le (by decide) (Nat.pow_le_pow_right (by decide) (by decide : 1 ≤ 4300))
  exact ⟨hsize, renderTokens_explicit hsize _⟩

end BraceFormat
