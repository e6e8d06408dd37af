import BraceFormat.Proofs.References
import BraceFormat.Proofs.Template.RoundTrip
import Mathlib.Data.List.Perm.Subperm

/-!
# What a template needs of its arguments

Resolving the placeholders of a template in order comes to an end when there is an argument for
each implicit reference and each position, and one with each name; how the references are mixed
does not matter. That takes as many arguments as there are positions and as there are names, and
arguments that fill a position do not count for a name unless they have it, so a template needs no
more than `Template.expectedArgs` arguments and, in general, no fewer
(`needsExactly_of_parse`).
-/

set_option autoImplicit false
set_option relaxedAutoImplicit false

namespace BraceFormat

/-- Resolves the placeholders among tokens in order, up to the first whose argument is missing. -/
def ArgumentTable.resolveTokens (table : ArgumentTable) (cursor : Nat) :
    List Token → Except Failure (List Argument)
  | [] => .ok []
  | .literal _ :: rest => table.resolveTokens cursor rest
  | .field p :: rest =>
    match table.resolve cursor p.reference with
    | .error failure => .error failure
    | .ok argument => (table.resolveTokens (p.reference.advance cursor) rest).map (argument :: ·)

namespace Template

/-- A placeholder among the tokens has the reference. -/
def Refers (tokens : List Token) (reference : Reference) : Prop :=
  ∃ p ∈ placeholders tokens, p.reference = reference

/-- How many arguments a template takes by their positions. -/
def positionalCount (tokens : List Token) : Nat :=
  max (implicitCount tokens) (indexedCount tokens)

/-- The placeholders of a template are resolved, from the first argument on. -/
def Resolves (tokens : List Token) (table : ArgumentTable) : Prop :=
  ∃ found, table.resolveTokens 0 tokens = .ok found

/-- What a template needs of a table. -/
structure NeedsExactly (tokens : List Token) (table : ArgumentTable) : Prop where
  /-- The table has to be long enough for the positions and to have the names. -/
  resolves_iff : Resolves tokens table ↔
    positionalCount tokens ≤ table.size ∧ ∀ name ∈ names tokens, name ∈ table.names
  /-- Nothing but a missing argument stops the placeholders from being resolved. -/
  missing : ∀ failure, table.resolveTokens 0 tokens = .error failure →
    ∃ reference, failure = .format (.missingArgument reference table.size)
  /-- There have to be as many arguments as there are positions, and as there are names. -/
  le_size : Resolves tokens table →
    max (positionalCount tokens) (names tokens).length ≤ table.size
  /-- There have to be as many as are expected, unless an argument that fills a position has one of
  the names. -/
  expectedArgs_le_size : Resolves tokens table →
    (∀ argument ∈ table.arguments.take (positionalCount tokens), ∀ name ∈ argument.name,
      name ∉ names tokens) →
    expectedArgs tokens ≤ table.size
  /-- As many as are expected are enough: those for the positions, which need no names, and behind
  them one for each name. -/
  enough : ∀ positional named, table.arguments = positional ++ named →
    positional.length = positionalCount tokens →
    (named.map Argument.name).Perm ((names tokens).map some) →
    table.size = expectedArgs tokens ∧ Resolves tokens table

/-! ### The references of a template -/

theorem not_refers_nil (reference : Reference) : ¬ Refers [] reference := by
  rintro ⟨p, hp, -⟩
  exact absurd hp List.not_mem_nil

theorem refers_field_iff {p : Placeholder} {rest : List Token} {reference : Reference} :
    Refers (.field p :: rest) reference ↔ p.reference = reference ∨ Refers rest reference := by
  have hplaceholders : placeholders (.field p :: rest) = p :: placeholders rest := rfl
  simp only [Refers, hplaceholders, List.mem_cons, exists_eq_or_imp]

theorem mem_distinct_iff {name : Text} {items : List Text} :
    name ∈ distinct items ↔ name ∈ items := by
  induction items with
  | nil => rfl
  | cons item rest ih =>
    rw [distinct]
    split
    · rename_i hrepeated
      rw [ih, List.mem_cons]
      refine (or_iff_right_of_imp ?_).symm
      rintro rfl
      exact hrepeated
    · rw [List.mem_cons, ih, List.mem_cons]

theorem nodup_distinct (items : List Text) : (distinct items).Nodup := by
  induction items with
  | nil => exact List.nodup_nil
  | cons item rest ih =>
    rw [distinct]
    split
    · exact ih
    · rename_i hnew
      exact List.nodup_cons.mpr ⟨fun hmem ↦ hnew (mem_distinct_iff.mp hmem), ih⟩

theorem nodup_names (tokens : List Token) : (names tokens).Nodup :=
  nodup_distinct _

theorem mem_names_iff {tokens : List Token} {name : Text} :
    name ∈ names tokens ↔ Refers tokens (.name name) := by
  rw [names, mem_distinct_iff, List.mem_filterMap]
  refine exists_congr fun p ↦ and_congr_right fun _ ↦ ?_
  cases p.reference with
  | implicit => simp
  | index position => simp
  | name other => simp

theorem indexedCount_le_iff {tokens : List Token} {n : Nat} :
    indexedCount tokens ≤ n ↔ ∀ position, Refers tokens (.index position) → position < n := by
  induction tokens with
  | nil => exact iff_of_true (Nat.zero_le n) fun _ hrefers ↦ absurd hrefers (not_refers_nil _)
  | cons token rest ih =>
    cases token with
    | literal text => exact ih
    | field p =>
      rw [indexedCount_field, Nat.max_le, ih]
      cases hreference : p.reference with
      | implicit => simp [refers_field_iff, hreference]
      | index position =>
        simp only [refers_field_iff, hreference, Reference.index.injEq, or_imp, forall_and,
          forall_eq', Int.toNat_le, Int.add_one_le_iff]
      | name name => simp [refers_field_iff, hreference]

theorem canonical_of_refers {template : Text} {tokens : List Token}
    (h : parse template = .ok tokens) {reference : Reference} (hrefers : Refers tokens reference) :
    reference.Canonical := by
  obtain ⟨p, hp, rfl⟩ := hrefers
  obtain ⟨token, htoken, hfield⟩ := List.mem_filterMap.mp hp
  cases token with
  | literal text => cases hfield
  | field q =>
    cases hfield
    exact ((normal_of_parse h).placeholder_of_mem htoken).1

end Template

/-! ### Finding the arguments -/

namespace ArgumentTable

variable {table : ArgumentTable} {cursor : Nat}

theorem select?_eq_select?_zero {reference : Reference} (h : reference ≠ .implicit) (cursor : Nat) :
    table.select? cursor reference = table.select? 0 reference := by
  cases reference with
  | implicit => exact absurd rfl h
  | index position => rfl
  | name name => rfl

end ArgumentTable

namespace Template

section Tokens

variable {tokens : List Token} {table : ArgumentTable} {cursor : Nat}

/-- The arguments of all references but the implicit ones are found. -/
def Finds (tokens : List Token) (table : ArgumentTable) : Prop :=
  ∀ reference, Refers tokens reference → reference ≠ .implicit →
    ∃ argument, table.select? 0 reference = some argument

theorem finds_field_iff {p : Placeholder} {rest : List Token} :
    Finds (.field p :: rest) table ↔
      (p.reference ≠ .implicit → ∃ argument, table.select? 0 p.reference = some argument) ∧
        Finds rest table := by
  simp only [Finds, refers_field_iff, or_imp, forall_and, forall_eq']

/-- From a cursor within the table, placeholders are resolved just if the cursor can pass their
implicit references and the arguments of the others are found. -/
theorem exists_resolveTokens_eq_ok_iff
    (hwritable : ∀ reference, Refers tokens reference → reference.Writable)
    (hcursor : cursor ≤ table.size) :
    (∃ found, table.resolveTokens cursor tokens = .ok found) ↔
      cursor + implicitCount tokens ≤ table.size ∧ Finds tokens table := by
  induction tokens generalizing cursor with
  | nil =>
    have hfinds : Finds [] table := fun reference hrefers ↦ absurd hrefers (not_refers_nil _)
    exact iff_of_true ⟨[], rfl⟩ ⟨hcursor, hfinds⟩
  | cons token rest ih =>
    cases token with
    | literal text => exact ih hwritable hcursor
    | field p =>
      have hp := hwritable p.reference (refers_field_iff.mpr (Or.inl rfl))
      have hrest : ∀ reference, Refers rest reference → reference.Writable :=
        fun reference hrefers ↦ hwritable reference (refers_field_iff.mpr (Or.inr hrefers))
      rw [finds_field_iff, ← advance_add_implicitCount, ArgumentTable.resolveTokens]
      cases hresolve : table.resolve cursor p.reference with
      | error failure =>
        refine iff_of_false nofun ?_
        rintro ⟨hcount, hfound, -⟩
        have hmissing : ¬ ∃ argument, table.select? cursor p.reference = some argument := by
          rintro ⟨argument, hselect⟩
          rw [ArgumentTable.resolve_of_writable hp, hselect] at hresolve
          cases hresolve
        by_cases himplicit : p.reference = .implicit
        · rw [himplicit] at hmissing hcount
          have hinside : (cursor : Int) < table.size := by
            rw [Reference.advance] at hcount
            omega
          exact hmissing ((ArgumentTable.exists_get?_iff (Int.natCast_nonneg cursor)).mpr hinside)
        · rw [ArgumentTable.select?_eq_select?_zero himplicit] at hmissing
          exact hmissing (hfound himplicit)
      | ok argument =>
        have hselect := ArgumentTable.select?_of_resolve hresolve
        have hfound : p.reference ≠ .implicit →
            ∃ argument, table.select? 0 p.reference = some argument := fun hexplicit ↦
          ⟨argument, ArgumentTable.select?_eq_select?_zero hexplicit cursor ▸ hselect⟩
        rw [exists_map_eq_ok_iff, ih hrest (ArgumentTable.advance_le_size hcursor hresolve)]
        exact and_congr_right' (and_iff_right hfound).symm

/-- Placeholders that are not resolved have an argument that is missing. -/
theorem missingArgument_of_resolveTokens
    (hwritable : ∀ reference, Refers tokens reference → reference.Writable) {failure : Failure}
    (h : table.resolveTokens cursor tokens = .error failure) :
    ∃ reference, failure = .format (.missingArgument reference table.size) := by
  induction tokens generalizing cursor with
  | nil => cases h
  | cons token rest ih =>
    cases token with
    | literal text => exact ih hwritable h
    | field p =>
      have hp := hwritable p.reference (refers_field_iff.mpr (Or.inl rfl))
      rw [ArgumentTable.resolveTokens, ArgumentTable.resolve_of_writable hp] at h
      cases hselect : table.select? cursor p.reference with
      | none =>
        rw [hselect] at h
        cases h
        exact ⟨_, rfl⟩
      | some argument =>
        rw [hselect] at h
        refine ih (fun reference hrefers ↦ ?_) (map_eq_error_iff.mp h)
        exact hwritable reference (refers_field_iff.mpr (Or.inr hrefers))

theorem finds_iff (hcanonical : ∀ reference, Refers tokens reference → reference.Canonical) :
    Finds tokens table ↔
      indexedCount tokens ≤ table.size ∧ ∀ name ∈ names tokens, name ∈ table.names := by
  simp only [indexedCount_le_iff, mem_names_iff]
  constructor
  · intro hfinds
    refine ⟨fun position hrefers ↦ ?_, fun name hrefers ↦ ?_⟩
    · have hnonneg : 0 ≤ position := (hcanonical _ hrefers).1
      exact (ArgumentTable.exists_get?_iff hnonneg).mp (hfinds _ hrefers nofun)
    · exact ArgumentTable.exists_getNamed?_iff.mp (hfinds _ hrefers nofun)
  · rintro ⟨hindexed, hnames⟩ reference hrefers hexplicit
    cases reference with
    | implicit => exact absurd rfl hexplicit
    | index position =>
      have hnonneg : 0 ≤ position := (hcanonical _ hrefers).1
      exact (ArgumentTable.exists_get?_iff hnonneg).mpr (hindexed position hrefers)
    | name name => exact ArgumentTable.exists_getNamed?_iff.mpr (hnames name hrefers)

theorem resolves_iff (hcanonical : ∀ reference, Refers tokens reference → reference.Canonical) :
    Resolves tokens table ↔
      positionalCount tokens ≤ table.size ∧ ∀ name ∈ names tokens, name ∈ table.names := by
  have hwritable := fun reference hrefers ↦ (hcanonical reference hrefers).writable
  rw [Resolves, exists_resolveTokens_eq_ok_iff hwritable (Nat.zero_le _), Nat.zero_add,
    finds_iff hcanonical, positionalCount, Nat.max_le, and_assoc]

/-! ### Counting arguments -/

/-- Different names are those of different arguments. -/
theorem length_names_le {arguments : List Argument}
    (h : ∀ name ∈ names tokens, name ∈ arguments.filterMap Argument.name) :
    (names tokens).length ≤ arguments.length :=
  Nat.le_trans (List.subperm_of_subset (nodup_names tokens) h).length_le
    (List.length_filterMap_le _ _)

/-- Arguments behind the positional ones have the names, if none of these does. -/
theorem expectedArgs_le_size (hsize : positionalCount tokens ≤ table.size)
    (hnames : ∀ name ∈ names tokens, name ∈ table.names)
    (hpositional : ∀ argument ∈ table.arguments.take (positionalCount tokens),
      ∀ name ∈ argument.name, name ∉ names tokens) :
    expectedArgs tokens ≤ table.size := by
  have hbehind : ∀ name ∈ names tokens,
      name ∈ (table.arguments.drop (positionalCount tokens)).filterMap Argument.name := by
    intro name hname
    have hmem := hnames name hname
    rw [ArgumentTable.names, ← List.take_append_drop (positionalCount tokens) table.arguments,
      List.filterMap_append, List.mem_append] at hmem
    refine hmem.resolve_left fun hfront ↦ ?_
    obtain ⟨argument, hargument, hits⟩ := List.mem_filterMap.mp hfront
    exact hpositional argument hargument name hits hname
  have hlength := length_names_le hbehind
  rw [List.length_drop] at hlength
  calc expectedArgs tokens = positionalCount tokens + (names tokens).length := rfl
    _ ≤ positionalCount tokens + (table.size - positionalCount tokens) :=
      Nat.add_le_add_left hlength _
    _ = table.size := Nat.add_sub_cancel' hsize

/-- Arguments for the positions, and behind them one for each name, serve a template. -/
theorem size_and_resolves_of_enough
    (hcanonical : ∀ reference, Refers tokens reference → reference.Canonical)
    {positional named : List Argument} (harguments : table.arguments = positional ++ named)
    (hlength : positional.length = positionalCount tokens)
    (hnamed : (named.map Argument.name).Perm ((names tokens).map some)) :
    table.size = expectedArgs tokens ∧ Resolves tokens table := by
  have hcount : named.length = (names tokens).length := by
    simpa only [List.length_map] using hnamed.length_eq
  have hsize : table.size = expectedArgs tokens := by
    rw [ArgumentTable.size, harguments, List.length_append, hlength, hcount]
    rfl
  refine ⟨hsize, (resolves_iff hcanonical).mpr ⟨?_, fun name hname ↦ ?_⟩⟩
  · rw [hsize]
    exact Nat.le_add_right _ _
  · have hmem := hnamed.mem_iff.mpr (List.mem_map_of_mem hname)
    obtain ⟨argument, hargument, hits⟩ := List.mem_map.mp hmem
    rw [ArgumentTable.names, harguments, List.filterMap_append]
    exact List.mem_append_right _ (List.mem_filterMap.mpr ⟨argument, hargument, hits⟩)

end Tokens

/-- The names of a template are counted once each, the count of its positions is one more than the
highest, and with its implicit references they tell exactly which tables serve it. -/
theorem needsExactly_of_parse {template : Text} {tokens : List Token}
    (h : parse template = .ok tokens) :
    (names tokens).Nodup ∧ (∀ name, name ∈ names tokens ↔ Refers tokens (.name name)) ∧
      (∀ n : Nat, indexedCount tokens ≤ n ↔
        ∀ position, Refers tokens (.index position) → position < n) ∧
      expectedArgs tokens = positionalCount tokens + (names tokens).length ∧
      ∀ table, NeedsExactly tokens table := by
  have hcanonical : ∀ reference, Refers tokens reference → reference.Canonical :=
    fun reference hrefers ↦ canonical_of_refers h hrefers
  have hwritable := fun reference hrefers ↦ (hcanonical reference hrefers).writable
  refine ⟨nodup_names tokens, fun name ↦ mem_names_iff, fun n ↦ indexedCount_le_iff, rfl,
    fun table ↦ ?_⟩
  have hresolves := @resolves_iff tokens table hcanonical
  exact {
    resolves_iff := hresolves
    missing := fun failure hfailure ↦ missingArgument_of_resolveTokens hwritable hfailure
    le_size := fun hserved ↦
      Nat.max_le.mpr ⟨(hresolves.mp hserved).1, length_names_le (hresolves.mp hserved).2⟩
    expectedArgs_le_size := fun hserved hpositional ↦
      expectedArgs_le_size (hresolves.mp hserved).1 (hresolves.mp hserved).2 hpositional
    enough := fun positional named harguments hlength hnamed ↦
      size_and_resolves_of_enough hcanonical harguments hlength hnamed }

/-- An implicit reference, a position and a name take four arguments, but three are enough if the
last of them has the name, and two are not. -/
theorem needsExactly_of_parse_mixed :
    parse ['{', '}', '{', '2', '}', '{', 'x', '}'] =
        .ok [.field {}, .field ⟨.index 2, none⟩, .field ⟨.name ['x'], none⟩] ∧
      expectedArgs [.field {}, .field ⟨.index 2, none⟩, .field ⟨.name ['x'], none⟩] = 4 ∧
      Resolves [.field {}, .field ⟨.index 2, none⟩, .field ⟨.name ['x'], none⟩]
        ⟨[⟨0, none, .integer 5, ['5']⟩, ⟨1, none, .integer 6, ['6']⟩, ⟨2, none, .integer 7, ['7']⟩,
          ⟨3, some ['x'], .integer 8, ['8']⟩], by decide⟩ ∧
      Resolves [.field {}, .field ⟨.index 2, none⟩, .field ⟨.name ['x'], none⟩]
        ⟨[⟨0, none, .integer 5, ['5']⟩, ⟨1, none, .integer 6, ['6']⟩,
          ⟨2, some ['x'], .integer 7, ['7']⟩], by decide⟩ ∧
      ¬ Resolves [.field {}, .field ⟨.index 2, none⟩, .field ⟨.name ['x'], none⟩]
        ⟨[⟨0, none, .integer 5, ['5']⟩, ⟨1, some ['x'], .integer 6, ['6']⟩], by decide⟩ := by
  have hparse : parse ['{', '}', '{', '2', '}', '{', 'x', '}'] =
      .ok [.field {}, .field ⟨.index 2, none⟩, .field ⟨.name ['x'], none⟩] := by
    have hfirst : (Piece.field [] {}).Valid := ⟨nofun, rfl⟩
    have hsecond : (Piece.field ['2'] ⟨.index 2, none⟩).Valid :=
      ⟨List.forall_mem_singleton.mpr rfl, rfl⟩
    have hthird : (Piece.field ['x'] ⟨.name ['x'], none⟩).Valid :=
      ⟨List.forall_mem_singleton.mpr rfl, rfl⟩
    refine parse_eq_ok_iff.mpr ⟨[.field [] {}, .field ['2'] ⟨.index 2, none⟩,
      .field ['x'] ⟨.name ['x'], none⟩], List.forall_mem_cons.mpr ⟨hfirst, ?_⟩, rfl, rfl⟩
    exact List.forall_mem_cons.mpr ⟨hsecond, List.forall_mem_singleton.mpr hthird⟩
  obtain ⟨-, -, -, -, hneeds⟩ := needsExactly_of_parse hparse
  refine ⟨hparse, by decide, ?_, ?_, ?_⟩
  · exact ((hneeds _).enough [⟨0, none, .integer 5, ['5']⟩, ⟨1, none, .integer 6, ['6']⟩,
      ⟨2, none, .integer 7, ['7']⟩] [⟨3, some ['x'], .integer 8, ['8']⟩] rfl rfl
      (.refl [some ['x']])).2
  · exact (hneeds _).resolves_iff.mpr ⟨by decide, by decide⟩
  · exact fun hserved ↦ absurd ((hneeds _).le_size hserved) (by decide)

end Template

end BraceFormat
