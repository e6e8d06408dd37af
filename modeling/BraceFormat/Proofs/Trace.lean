import BraceFormat.Trace

/-!
# The log of a format request

Whatever formatting tells the log is for debugging, so a record of another level is from the
program around it.
-/

set_option autoImplicit false
set_option relaxedAutoImplicit false

namespace BraceFormat.Trace

/-- All records are at the level for debugging. -/
def ForDebugging (records : List Record) : Prop :=
  ∀ record ∈ records, record.level = .debug

/-! ### Records together -/

theorem ForDebugging.nil : ForDebugging [] :=
  nofun

theorem ForDebugging.cons {record : Record} {records : List Record}
    (hfirst : record.level = .debug) (h : ForDebugging records) :
    ForDebugging (record :: records) :=
  List.forall_mem_cons.mpr ⟨hfirst, h⟩

theorem ForDebugging.append {first second : List Record} (hfirst : ForDebugging first)
    (hsecond : ForDebugging second) : ForDebugging (first ++ second) :=
  List.forall_mem_append.mpr ⟨hfirst, hsecond⟩

theorem forDebugging_note (logger : Logger) (message : String) :
    ForDebugging [note logger message] :=
  .cons rfl .nil

/-! ### The records of each stage -/

theorem forDebugging_ofToken (token : Text) : ForDebugging (ofToken token) := by
  unfold ofToken
  simp only
  split
  · exact forDebugging_note _ _
  · exact .nil

theorem forDebugging_ofEntries (entries : List ArgumentTable.Entry) :
    ForDebugging (ofEntries entries) := by
  induction entries with
  | nil => exact .nil
  | cons entry rest ih =>
    cases entry with
    | made argument => exact ih
    | token token =>
      unfold ofEntries
      split
      · exact (forDebugging_ofToken token).append ih
      · exact .nil

theorem forDebugging_ofPieces (offset : Nat) (pieces : List Piece) :
    ForDebugging (ofPieces offset pieces) := by
  induction pieces generalizing offset with
  | nil => exact .nil
  | cons piece rest ih =>
    unfold ofPieces
    refine ForDebugging.append ?_ (ih _)
    split
    · exact forDebugging_note _ _
    · exact .nil

theorem forDebugging_ofReference (table : ArgumentTable) (cursor : Nat) (reference : Reference) :
    ForDebugging (ofReference table cursor reference) := by
  unfold ofReference
  split
  · exact forDebugging_note _ _
  · exact .nil
  · exact forDebugging_note _ _

theorem forDebugging_ofTokens (table : ArgumentTable) (cursor : Nat) (tokens : List Token) :
    ForDebugging (ofTokens table cursor tokens) := by
  induction tokens generalizing cursor with
  | nil => exact .nil
  | cons token rest ih =>
    cases token with
    | literal text => exact ih cursor
    | field p =>
      unfold ofTokens
      refine (forDebugging_ofReference table cursor p.reference).append ?_
      split
      · exact .nil
      · exact .cons rfl (ih _)

theorem forDebugging_failed (failure : Failure) : ForDebugging (failed failure) := by
  cases failure with
  | format error => exact forDebugging_note _ _
  | fault fault => exact .nil

theorem forDebugging_ofTemplate (table : ArgumentTable) (template : Text) (given : Nat) :
    ForDebugging (ofTemplate table template given) := by
  unfold ofTemplate
  refine .cons rfl ((forDebugging_ofPieces 0 _).append ?_)
  split
  · exact forDebugging_failed _
  · refine (forDebugging_ofTokens table 0 _).append ?_
    split
    · exact forDebugging_failed _
    · simp only
      split
      · exact .nil
      · exact forDebugging_note _ _

/-- Whatever formatting tells the log is for debugging. -/
theorem forDebugging_ofFormat (template : Text) (entries : List ArgumentTable.Entry) :
    ForDebugging (ofFormat template entries) := by
  unfold ofFormat
  refine (forDebugging_ofEntries entries).append ?_
  split
  · exact forDebugging_failed _
  · exact forDebugging_ofTemplate _ template entries.length

end BraceFormat.Trace
