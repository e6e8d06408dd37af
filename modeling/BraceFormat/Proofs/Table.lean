import BraceFormat.Proofs.Argument

/-!
# Tables of arguments

A table is made of arguments just if no two of them share a name, and then holds them as they are
(`ArgumentTable.ofArguments_eq_ok_iff`). A name finds the one argument that has it, wherever it
stands (`ArgumentTable.getNamed?_eq_some_iff`). What an argument says, its name and its value, does
not depend on its position, so entries say the same wherever they are read
(`ArgumentTable.map_content_of_readFrom`).
-/

set_option autoImplicit false
set_option relaxedAutoImplicit false

namespace BraceFormat

/-! ### Repeated names -/

theorem firstRepeat?_eq_none_iff {seen items : List Text} :
    firstRepeat? seen items = none ↔ items.Nodup ∧ ∀ item ∈ items, item ∉ seen := by
  refine ⟨nodup_of_firstRepeat?, ?_⟩
  induction items generalizing seen with
  | nil => exact fun _ ↦ rfl
  | cons item rest ih =>
    rintro ⟨hnodup, hseen⟩
    obtain ⟨hitem, hrest⟩ := List.nodup_cons.mp hnodup
    rw [firstRepeat?, if_neg (hseen item List.mem_cons_self)]
    refine ih ⟨hrest, fun other hother ↦ ?_⟩
    rw [List.mem_cons, not_or]
    exact ⟨fun heq ↦ hitem (heq ▸ hother), hseen other (List.mem_cons_of_mem item hother)⟩

namespace ArgumentTable

/-- Arguments form a table if they have no name in common, and the table holds them as they are. -/
theorem ofArguments_eq_ok_iff {arguments : List Argument} {table : ArgumentTable} :
    ofArguments arguments = .ok table ↔ table.arguments = arguments := by
  constructor
  · intro h
    unfold ofArguments at h
    split at h
    · cases h
    · cases h
      rfl
  · rintro rfl
    have hnone : firstRepeat? [] (table.arguments.filterMap Argument.name) = none :=
      firstRepeat?_eq_none_iff.mpr ⟨table.nodup_names, fun _ _ ↦ List.not_mem_nil⟩
    unfold ofArguments
    split
    · rename_i hsome
      rw [hnone] at hsome
      cases hsome
    · rfl

theorem ofEntries_eq_ok_iff {entries : List Entry} {table : ArgumentTable} :
    ofEntries entries = .ok table ↔ readFrom 0 entries = .ok table.arguments := by
  unfold ofEntries
  cases readFrom 0 entries with
  | error fault => simp
  | ok arguments =>
    rw [mapError_eq_ok_iff, ofArguments_eq_ok_iff, Except.ok.injEq, eq_comm]

/-! ### Finding arguments -/

section Finding

variable {table : ArgumentTable}

theorem get?_natCast (table : ArgumentTable) (position : Nat) :
    table.get? position = table.arguments[position]? := by
  rw [get?, if_neg (Int.not_lt.mpr (Int.natCast_nonneg position)), Int.toNat_natCast]

theorem exists_get?_iff {position : Int} (h : 0 ≤ position) :
    (∃ argument, table.get? position = some argument) ↔ position < table.size := by
  obtain ⟨n, rfl⟩ := Int.eq_ofNat_of_zero_le h
  simp [get?_natCast, ← Option.isSome_iff_exists, size]

theorem exists_getNamed?_iff {name : Text} :
    (∃ argument, table.getNamed? name = some argument) ↔ name ∈ table.names := by
  rw [getNamed?, ← Option.isSome_iff_exists, List.find?_isSome, names, List.mem_filterMap]
  refine exists_congr fun argument ↦ and_congr_right fun _ ↦ ?_
  rw [Argument.isNamed, decide_eq_true_eq]

/-- A name finds an argument of the table that has it; there is no other. -/
theorem getNamed?_eq_some_iff {name : Text} {argument : Argument} :
    table.getNamed? name = some argument ↔
      argument ∈ table.arguments ∧ argument.name = some name := by
  have hnodup := table.nodup_names
  rw [getNamed?, List.find?_eq_some_iff_append]
  constructor
  · rintro ⟨hname, front, back, harguments, -⟩
    rw [harguments]
    exact ⟨List.mem_append_right front List.mem_cons_self, of_decide_eq_true hname⟩
  · rintro ⟨hmem, hname⟩
    obtain ⟨front, back, harguments⟩ := List.append_of_mem hmem
    refine ⟨decide_eq_true hname, front, back, harguments, fun other hother ↦ ?_⟩
    rw [harguments, List.filterMap_append, List.filterMap_cons_some hname] at hnodup
    have hdisjoint := (List.nodup_append.mp hnodup).2.2
    have hdifferent : other.name ≠ some name := fun hsame ↦
      hdisjoint name (List.mem_filterMap.mpr ⟨other, hother, hsame⟩) name List.mem_cons_self rfl
    simp [Argument.isNamed, hdifferent]

end Finding

end ArgumentTable

/-! ### What entries say -/

/-- An argument without its position and its written form. -/
def Argument.content (argument : Argument) : Option Text × Value :=
  (argument.name, argument.value)

namespace ArgumentTable

/-- What an entry says, wherever it is read. -/
def Entry.content (entry : Entry) : Except Fault (Option Text × Value) :=
  (entry.toArgument 0).map Argument.content

theorem map_content_toArgument (entry : Entry) (position : Int) :
    (entry.toArgument position).map Argument.content = entry.content := by
  cases entry with
  | made argument => rfl
  | token text =>
    show ((Value.read (Argument.splitName text).2).map _).map Argument.content =
      ((Value.read (Argument.splitName text).2).map _).map Argument.content
    cases Value.read (Argument.splitName text).2 with
    | error fault => rfl
    | ok value => rfl

theorem content_of_toArgument {entry : Entry} {position : Int} {argument : Argument}
    (h : entry.toArgument position = .ok argument) : entry.content = .ok argument.content := by
  rw [← map_content_toArgument entry position, h]
  rfl

theorem readFrom_cons_eq_ok_iff {entry : Entry} {rest : List Entry} {position : Nat}
    {arguments : List Argument} :
    readFrom position (entry :: rest) = .ok arguments ↔
      ∃ argument others, entry.toArgument position = .ok argument ∧
        readFrom (position + 1) rest = .ok others ∧ argument :: others = arguments := by
  rw [readFrom]
  cases entry.toArgument position with
  | error fault => simp
  | ok argument => simp [map_eq_ok_iff]

/-- Entries are read, one after the other, to arguments that say what the entries do. -/
theorem map_content_of_readFrom {entries : List Entry} {position : Nat} {arguments : List Argument}
    (h : readFrom position entries = .ok arguments) :
    entries.map Entry.content = (arguments.map Argument.content).map .ok := by
  induction entries generalizing position arguments with
  | nil =>
    cases h
    rfl
  | cons entry rest ih =>
    obtain ⟨argument, others, hentry, hrest, rfl⟩ := readFrom_cons_eq_ok_iff.mp h
    rw [List.map_cons, ih hrest, content_of_toArgument hentry]
    rfl

/-- Entries are read if each of them is. -/
theorem exists_readFrom_eq_ok {entries : List Entry} (position : Nat)
    (h : ∀ entry ∈ entries, ∃ content, entry.content = .ok content) :
    ∃ arguments, readFrom position entries = .ok arguments := by
  induction entries generalizing position with
  | nil => exact ⟨[], rfl⟩
  | cons entry rest ih =>
    obtain ⟨hentry, hrest⟩ := List.forall_mem_cons.mp h
    rw [← map_content_toArgument entry position] at hentry
    obtain ⟨argument, hargument⟩ := exists_map_eq_ok_iff.mp hentry
    obtain ⟨others, hothers⟩ := ih (position + 1) hrest
    exact ⟨argument :: others, readFrom_cons_eq_ok_iff.mpr ⟨_, _, hargument, hothers, rfl⟩⟩

/-- Entries in front of others are read to the arguments in front of the others. -/
theorem exists_readFrom_of_append {front back : List Entry} {position : Nat}
    {arguments : List Argument} (h : readFrom position (front ++ back) = .ok arguments) :
    ∃ first second, arguments = first ++ second ∧ readFrom position front = .ok first := by
  induction front generalizing position arguments with
  | nil => exact ⟨[], arguments, rfl, rfl⟩
  | cons entry front ih =>
    obtain ⟨argument, others, hentry, hrest, rfl⟩ := readFrom_cons_eq_ok_iff.mp h
    obtain ⟨first, second, rfl, hfront⟩ := ih hrest
    exact ⟨argument :: first, second, rfl, readFrom_cons_eq_ok_iff.mpr ⟨_, _, hentry, hfront, rfl⟩⟩

end ArgumentTable

end BraceFormat
