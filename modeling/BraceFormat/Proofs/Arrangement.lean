import BraceFormat.Proofs.References
import BraceFormat.Proofs.Table
import BraceFormat.Proofs.Template.Scan
import Mathlib.Data.List.Perm.Basic

/-!
# Arguments that a template does not use, and their order

A run looks at no arguments but those that its references select, and at how many there are only
when one is missing. Behind the arguments of a table others can be put, and whatever was selected
still is; so a run over the longer table comes to the same, unless an argument was missing. A name
selects the one argument that has it, so if references are by name, a run comes to the same over
arguments in any order, and misses the same one (`format_append_and_perm`).
-/

set_option autoImplicit false
set_option relaxedAutoImplicit false

namespace BraceFormat

/-- The second result is the first, unless that is a failure of an excused kind. -/
def EqUnless (excused : Failure → Prop) (first second : Except Failure Text) : Prop :=
  (∃ failure, excused failure ∧ first = .error failure) ∨ second = first

/-- An argument is missing. -/
def Failure.IsMissing (failure : Failure) : Prop :=
  ∃ reference count, failure = .format (.missingArgument reference count)

theorem EqUnless.map {excused : Failure → Prop} {first second : Except Failure Text}
    (h : EqUnless excused first second) (f : Text → Text) :
    EqUnless excused (first.map f) (second.map f) := by
  rcases h with ⟨failure, hexcused, rfl⟩ | rfl
  · exact Or.inl ⟨failure, hexcused, rfl⟩
  · exact Or.inr rfl

/-! ### From placeholders to runs -/

section Runs

variable {first second : ArgumentTable} {excused : Failure → Prop}

/-- Runs over two tables come to the same if each placeholder does, from any cursor. -/
theorem renderTokens_eqUnless {tokens : List Token}
    (h : ∀ p ∈ Template.placeholders tokens, ∀ cursor,
      EqUnless excused (renderField first cursor p) (renderField second cursor p))
    (cursor : Nat) :
    EqUnless excused (renderTokens first cursor tokens).1
      (renderTokens second cursor tokens).1 := by
  induction tokens generalizing cursor with
  | nil => exact Or.inr rfl
  | cons token rest ih =>
    cases token with
    | literal text =>
      rw [renderTokens_literal, renderTokens_literal]
      exact (ih h cursor).map _
    | field p =>
      have hplaceholders : Template.placeholders (.field p :: rest) =
          p :: Template.placeholders rest := rfl
      rw [hplaceholders, List.forall_mem_cons] at h
      rcases h.1 cursor with ⟨failure, hexcused, hfailure⟩ | hsame
      · -- the first run ends here, and the second may go on as it likes
        rw [renderTokens_field_of_error hfailure]
        exact Or.inl ⟨failure, hexcused, rfl⟩
      · cases hfield : renderField first cursor p with
        | error failure =>
          rw [renderTokens_field_of_error hfield,
            renderTokens_field_of_error (hsame.trans hfield)]
          exact Or.inr rfl
        | ok text =>
          rw [renderTokens_field_of_ok hfield, renderTokens_field_of_ok (hsame.trans hfield)]
          exact (ih h.2 _).map _

theorem formatWith_eqUnless {template : Text}
    (h : ∀ tokens, Template.parse template = .ok tokens → ∀ p ∈ Template.placeholders tokens,
      ∀ cursor, EqUnless excused (renderField first cursor p) (renderField second cursor p)) :
    EqUnless excused (formatWith first template) (formatWith second template) := by
  unfold formatWith
  cases hparse : Template.parse template with
  | error error => exact Or.inr rfl
  | ok tokens => exact renderTokens_eqUnless (h tokens hparse) 0

end Runs

/-! ### Arguments behind others -/

section Append

variable {first second : ArgumentTable} {more : List Argument}

theorem ArgumentTable.get?_of_append (h : second.arguments = first.arguments ++ more)
    {position : Int} {argument : Argument} (hget : first.get? position = some argument) :
    second.get? position = some argument := by
  unfold get? at hget ⊢
  split
  · rename_i hnegative
    rw [if_pos hnegative] at hget
    cases hget
  · rename_i hnonneg
    rw [if_neg hnonneg] at hget
    rw [h, List.getElem?_append_left (List.getElem?_eq_some_iff.mp hget).1, hget]

theorem ArgumentTable.getNamed?_of_append (h : second.arguments = first.arguments ++ more)
    {name : Text} {argument : Argument} (hnamed : first.getNamed? name = some argument) :
    second.getNamed? name = some argument := by
  rw [getNamed?_eq_some_iff] at hnamed ⊢
  rw [h]
  exact ⟨List.mem_append_left more hnamed.1, hnamed.2⟩

/-- What is selected stays so when arguments are put behind the others. -/
theorem ArgumentTable.select?_of_append (h : second.arguments = first.arguments ++ more)
    {cursor : Nat} {reference : Reference} {argument : Argument}
    (hselect : first.select? cursor reference = some argument) :
    second.select? cursor reference = some argument := by
  cases reference with
  | implicit => exact get?_of_append h hselect
  | index position => exact get?_of_append h hselect
  | name name => exact getNamed?_of_append h hselect

/-- Arguments behind those of a table matter to a placeholder only if one is missing. -/
theorem renderField_eqUnless_of_append (h : second.arguments = first.arguments ++ more)
    (cursor : Nat) (p : Placeholder) :
    EqUnless Failure.IsMissing (renderField first cursor p) (renderField second cursor p) := by
  unfold renderField
  by_cases hwritable : p.reference.Writable
  · rw [ArgumentTable.resolve_of_writable hwritable, ArgumentTable.resolve_of_writable hwritable]
    cases hselect : first.select? cursor p.reference with
    | none => exact Or.inl ⟨_, ⟨_, _, rfl⟩, rfl⟩
    | some argument =>
      rw [ArgumentTable.select?_of_append h hselect]
      exact Or.inr rfl
  · rw [ArgumentTable.resolve_of_not_writable hwritable,
      ArgumentTable.resolve_of_not_writable hwritable]
    exact Or.inr rfl

end Append

/-! ### Arguments in another order -/

namespace ArgumentTable

/-- The names and the values of the arguments, in order. -/
def contents (table : ArgumentTable) : List (Option Text × Value) :=
  table.arguments.map Argument.content

theorem map_content_getNamed?_eq_some_iff {table : ArgumentTable} {name : Text}
    {content : Option Text × Value} :
    (table.getNamed? name).map Argument.content = some content ↔
      content ∈ table.contents ∧ content.1 = some name := by
  simp only [Option.map_eq_some_iff, getNamed?_eq_some_iff, contents, List.mem_map]
  constructor
  · rintro ⟨argument, ⟨hmem, hname⟩, rfl⟩
    exact ⟨⟨argument, hmem, rfl⟩, hname⟩
  · rintro ⟨⟨argument, hmem, rfl⟩, hname⟩
    exact ⟨argument, ⟨hmem, hname⟩, rfl⟩

section Perm

variable {first second : ArgumentTable} (h : first.contents.Perm second.contents)
include h

theorem size_eq_of_perm : first.size = second.size := by
  have hlength := h.length_eq
  rwa [contents, contents, List.length_map, List.length_map] at hlength

theorem map_content_getNamed?_of_perm (name : Text) :
    (first.getNamed? name).map Argument.content = (second.getNamed? name).map Argument.content :=
  Option.ext fun _ ↦ by
    rw [map_content_getNamed?_eq_some_iff, map_content_getNamed?_eq_some_iff, h.mem_iff]

end Perm

end ArgumentTable

/-- The order of the arguments does not matter to a placeholder that refers to one by its name. -/
theorem renderField_eq_of_perm {first second : ArgumentTable}
    (h : first.contents.Perm second.contents) (cursor : Nat) {p : Placeholder} {name : Text}
    (hname : p.reference = .name name) :
    renderField second cursor p = renderField first cursor p := by
  have hnamed := ArgumentTable.map_content_getNamed?_of_perm h name
  have hwritable : Reference.Writable (.name name) := trivial
  unfold renderField
  rw [hname, ArgumentTable.resolve_of_writable hwritable,
    ArgumentTable.resolve_of_writable hwritable, ArgumentTable.select?, ArgumentTable.select?]
  cases hfirst : first.getNamed? name with
  | none =>
    rw [hfirst] at hnamed
    rw [Option.map_eq_none_iff.mp hnamed.symm, ArgumentTable.size_eq_of_perm h]
  | some argument =>
    rw [hfirst] at hnamed
    obtain ⟨other, hsecond, hcontent⟩ := Option.map_eq_some_iff.mp hnamed.symm
    rw [hsecond]
    show render other.value _ = render argument.value _
    rw [show other.value = argument.value from congrArg Prod.snd hcontent]

namespace ArgumentTable

/-- Entries that form a table do so in any order, and say the same. -/
theorem exists_ofEntries_of_perm {entries entries' : List Entry} {table : ArgumentTable}
    (hentries : ofEntries entries = .ok table) (h : entries.Perm entries') :
    ∃ table', ofEntries entries' = .ok table' ∧ table.contents.Perm table'.contents := by
  have hcontents := map_content_of_readFrom (ofEntries_eq_ok_iff.mp hentries)
  have hread : ∀ entry ∈ entries', ∃ content, entry.content = .ok content := by
    intro entry hentry
    have hmem : entry.content ∈ entries.map Entry.content :=
      List.mem_map_of_mem (h.mem_iff.mpr hentry)
    rw [hcontents] at hmem
    obtain ⟨content, -, hcontent⟩ := List.mem_map.mp hmem
    exact ⟨content, hcontent.symm⟩
  obtain ⟨arguments, harguments⟩ := exists_readFrom_eq_ok 0 hread
  -- the arguments differ in their positions, so only what they say is a permutation
  have hperm : table.contents.Perm (arguments.map Argument.content) := by
    have hmapped := h.map Entry.content
    rw [hcontents, map_content_of_readFrom harguments] at hmapped
    exact (List.map_perm_map_iff fun _ _ ↦ Except.ok.inj).mp hmapped
  have hnames : (arguments.filterMap Argument.name).Nodup := by
    have hfiltered := hperm.filterMap Prod.fst
    rw [contents, List.filterMap_map, List.filterMap_map] at hfiltered
    exact hfiltered.nodup_iff.mp table.nodup_names
  exact ⟨⟨arguments, hnames⟩, ofEntries_eq_ok_iff.mpr harguments, hperm⟩

/-- Entries that form a table in front of others make up the front of the larger table. -/
theorem exists_arguments_of_append {front back : List Entry} {first second : ArgumentTable}
    (hfirst : ofEntries front = .ok first) (hsecond : ofEntries (front ++ back) = .ok second) :
    ∃ more, second.arguments = first.arguments ++ more := by
  obtain ⟨arguments, more, harguments, hfront⟩ :=
    exists_readFrom_of_append (ofEntries_eq_ok_iff.mp hsecond)
  rw [ofEntries_eq_ok_iff.mp hfirst] at hfront
  cases hfront
  exact ⟨more, harguments⟩

end ArgumentTable

theorem format_of_ofEntries {template : Text} {entries : List ArgumentTable.Entry}
    {table : ArgumentTable} (h : ArgumentTable.ofEntries entries = .ok table) :
    format template entries = formatWith table template := by
  rw [format, h]

/-- Arguments behind those that suffice make no difference: the template is formatted to the same
text, or fails for the same reason. Nor does the order of the arguments of a template that refers to
them by their names, and then even the one that is missing is the same. -/
theorem format_append_and_perm (template : Text) {entries : List ArgumentTable.Entry}
    {table : ArgumentTable} (hentries : ArgumentTable.ofEntries entries = .ok table) :
    (∀ more larger, ArgumentTable.ofEntries (entries ++ more) = .ok larger →
        (∀ reference count,
          format template entries ≠ .error (.format (.missingArgument reference count))) →
        format template (entries ++ more) = format template entries) ∧
      ((∀ tokens, Template.parse template = .ok tokens → ∀ p ∈ Template.placeholders tokens,
          ∃ name, p.reference = .name name) →
        ∀ entries', entries.Perm entries' →
          format template entries' = format template entries) := by
  rw [format_of_ofEntries hentries]
  constructor
  · intro more larger hlarger hmissing
    obtain ⟨behind, harguments⟩ := ArgumentTable.exists_arguments_of_append hentries hlarger
    rw [format_of_ofEntries hlarger]
    have hrun : EqUnless Failure.IsMissing (formatWith table template)
        (formatWith larger template) :=
      formatWith_eqUnless fun _ _ p _ cursor ↦ renderField_eqUnless_of_append harguments cursor p
    refine hrun.resolve_left ?_
    rintro ⟨_, ⟨reference, count, rfl⟩, hfailure⟩
    exact hmissing reference count hfailure
  · intro hnames entries' hperm
    obtain ⟨table', hentries', hcontents⟩ := ArgumentTable.exists_ofEntries_of_perm hentries hperm
    rw [format_of_ofEntries hentries']
    have hrun : EqUnless (fun _ ↦ False) (formatWith table template)
        (formatWith table' template) := by
      refine formatWith_eqUnless fun tokens hparse p hp cursor ↦ Or.inr ?_
      obtain ⟨name, hname⟩ := hnames tokens hparse p hp
      exact renderField_eq_of_perm hcontents cursor hname
    exact hrun.resolve_left fun ⟨_, hexcused, _⟩ ↦ hexcused

/-- A text is refused a sign in front of a name that no argument has; no more comes of it if one
has, nor if the arguments are swapped. -/
theorem format_append_and_perm_sign :
    ArgumentTable.ofEntries [.token ['a', '=', 'x'], .token ['b', '=']] =
        .ok ⟨[⟨0, some ['a'], .string ['x'], ['x']⟩, ⟨1, some ['b'], .string [], []⟩],
          by decide⟩ ∧
      format ['{', 'a', ':', '+', '}', '{', 'c', '}']
          [.token ['a', '=', 'x'], .token ['b', '='], .token ['c', '=', 'y']] =
        .error (.format (.unsupportedSpec ['+'] "sign '+'".toList "string".toList)) ∧
      format ['{', 'a', ':', '+', '}', '{', 'c', '}'] [.token ['b', '='], .token ['a', '=', 'x']] =
        .error (.format (.unsupportedSpec ['+'] "sign '+'".toList "string".toList)) := by
  have hparse : Template.parse ['{', 'a', ':', '+', '}', '{', 'c', '}'] =
      .ok [.field ⟨.name ['a'], some { sign := some .plus }⟩, .field ⟨.name ['c'], none⟩] := by
    have hsigned : (Piece.field ['a', ':', '+']
        ⟨.name ['a'], some { sign := some .plus }⟩).Valid :=
      ⟨by simp [Template.isBrace], rfl⟩
    have hplain : (Piece.field ['c'] ⟨.name ['c'], none⟩).Valid :=
      ⟨List.forall_mem_singleton.mpr rfl, rfl⟩
    refine Template.parse_eq_ok_iff.mpr ⟨[.field ['a', ':', '+']
      ⟨.name ['a'], some { sign := some .plus }⟩, .field ['c'] ⟨.name ['c'], none⟩], ?_, rfl, rfl⟩
    exact List.forall_mem_cons.mpr ⟨hsigned, List.forall_mem_singleton.mpr hplain⟩
  have hentries : ArgumentTable.ofEntries [.token ['a', '=', 'x'], .token ['b', '=']] =
      .ok ⟨[⟨0, some ['a'], .string ['x'], ['x']⟩, ⟨1, some ['b'], .string [], []⟩],
        by decide⟩ := rfl
  have hformat : format ['{', 'a', ':', '+', '}', '{', 'c', '}']
        [.token ['a', '=', 'x'], .token ['b', '=']] =
      .error (.format (.unsupportedSpec ['+'] "sign '+'".toList "string".toList)) := by
    show formatWith _ _ = _
    rw [formatWith, hparse]
    rfl
  obtain ⟨happend, hperm⟩ :=
    format_append_and_perm ['{', 'a', ':', '+', '}', '{', 'c', '}'] hentries
  refine ⟨hentries, ?_, ?_⟩
  · rw [← hformat]
    refine happend [.token ['c', '=', 'y']] ⟨[⟨0, some ['a'], .string ['x'], ['x']⟩,
      ⟨1, some ['b'], .string [], []⟩, ⟨2, some ['c'], .string ['y'], ['y']⟩], by decide⟩ rfl ?_
    intro reference count hmissing
    rw [hformat] at hmissing
    cases hmissing
  · rw [← hformat]
    refine hperm ?_ _ (.swap _ _ _)
    rw [hparse]
    rintro tokens ⟨⟩ p hp
    rcases List.mem_cons.mp hp with rfl | hrest
    · exact ⟨_, rfl⟩
    · rw [List.mem_singleton.mp hrest]
      exact ⟨_, rfl⟩

end BraceFormat
