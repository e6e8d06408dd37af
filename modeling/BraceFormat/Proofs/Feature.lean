import BraceFormat.CommandLine
import BraceFormat.Http
import BraceFormat.Proofs.Formatting
import BraceFormat.Proofs.Rendering
import BraceFormat.Proofs.Template.RoundTrip
import BraceFormat.Proofs.Trace

/-!
# When the format feature breaks

The format feature answers with a formatted text or with a message about a mistake, and breaks on
the requests that are `Faulty`: those with a misspelled word for infinity among the arguments, and
those whose rendering comes to an argument that exceeds a limit of the numbers and texts. The
endpoint and the command line break on the same requests (`runFormat_answers_iff_not_faulty`).
-/

set_option autoImplicit false
set_option relaxedAutoImplicit false

namespace BraceFormat

/-! ### One placeholder -/

theorem Spec.canonical_default : Spec.Canonical {} where
  fill := Or.inl ⟨rfl, rfl⟩
  width := nofun
  precision := nofun
  zeroPad := nofun

theorem Placeholder.Canonical.getD_spec {p : Placeholder} (h : p.Canonical) :
    (p.spec.getD {}).Canonical := by
  cases hspec : p.spec with
  | none => exact Spec.canonical_default
  | some spec => exact h.2 spec hspec

/-- Rendering a placeholder breaks when it finds an argument that is allowed but exceeds a limit. -/
theorem exists_renderField_eq_fault_iff {table : ArgumentTable} {cursor : Nat} {p : Placeholder}
    (h : p.Canonical) :
    (∃ fault, renderField table cursor p = .error (.fault fault)) ↔
      ∃ argument, table.select? cursor p.reference = some argument ∧
        refused (p.spec.getD {}) argument.value.kind = [] ∧
        argument.value.Exceeds (p.spec.getD {}) := by
  unfold renderField ArgumentTable.resolve
  rw [if_neg (not_not_intro h.1.writable)]
  cases table.select? cursor p.reference with
  | none => simp
  | some argument => simp [exists_render_eq_fault_iff h.getD_spec]

/-! ### Requests -/

/-- The requests on which formatting breaks. -/
inductive Faulty (template : Text) (args : List Text) : Prop
  | misspelled (token : Text) (given : token ∈ args)
    (infinity : Value.MisspelledInfinity (Argument.splitName token).2)
  | exceeding (table : ArgumentTable) (before after : List Token) (p : Placeholder)
    (argument : Argument) (given : ArgumentTable.ofEntries (args.map .token) = .ok table)
    (read : Template.parse template = .ok (before ++ .field p :: after))
    (reached : Renders table 0 before)
    (selected : table.select? (Template.implicitCount before) p.reference = some argument)
    (allowed : refused (p.spec.getD {}) argument.value.kind = [])
    (exceeds : argument.value.Exceeds (p.spec.getD {}))

/-- Rendering the tokens of a template breaks where the first placeholder does that is not rendered,
and only if that one breaks. -/
theorem exists_renderTokens_eq_fault_iff {table : ArgumentTable} {template : Text}
    {tokens : List Token} (h : Template.parse template = .ok tokens) :
    (∃ fault, (renderTokens table 0 tokens).1 = .error (.fault fault)) ↔
      ∃ before p after argument, tokens = before ++ .field p :: after ∧ Renders table 0 before ∧
        table.select? (Template.implicitCount before) p.reference = some argument ∧
        refused (p.spec.getD {}) argument.value.kind = [] ∧
        argument.value.Exceeds (p.spec.getD {}) := by
  have hcanonical : ∀ before p after, tokens = before ++ .field p :: after → p.Canonical := by
    rintro before p after rfl
    refine Placeholder.Normal.canonical ?_
    exact (Template.normal_of_parse h).placeholder_of_mem (by simp)
  constructor
  · rintro ⟨fault, hfault⟩
    obtain ⟨before, p, after, htokens, hbefore, hfield⟩ := renderTokens_eq_error_iff.mp hfault
    rw [Nat.zero_add] at hfield
    obtain ⟨argument, hargument⟩ :=
      (exists_renderField_eq_fault_iff (hcanonical before p after htokens)).mp ⟨fault, hfield⟩
    exact ⟨before, p, after, argument, htokens, hbefore, hargument⟩
  · rintro ⟨before, p, after, argument, htokens, hbefore, hargument⟩
    obtain ⟨fault, hfield⟩ :=
      (exists_renderField_eq_fault_iff (hcanonical before p after htokens)).mpr
        ⟨argument, hargument⟩
    refine ⟨fault, renderTokens_eq_error_iff.mpr ⟨before, p, after, htokens, hbefore, ?_⟩⟩
    rwa [Nat.zero_add]

theorem exists_formatted_eq_fault_iff {template : Text} {args : List Text} :
    (∃ fault, formatted template (args.map .token) = .error (.fault fault)) ↔
      Faulty template args := by
  have hargs := @ArgumentTable.exists_ofEntries_eq_fault_iff args
  constructor
  · rintro ⟨fault, hfault⟩
    unfold formatted at hfault
    split at hfault
    · rename_i failure htable
      cases hfault
      obtain ⟨token, hmem, hmisspelled⟩ := hargs.mp ⟨fault, htable⟩
      exact .misspelled token hmem hmisspelled
    · rename_i table htable
      split at hfault
      · cases hfault
      · rename_i tokens hparse
        obtain ⟨before, p, after, argument, rfl, hbefore, hselect, hallowed, hexceeds⟩ :=
          (exists_renderTokens_eq_fault_iff hparse).mp ⟨fault, map_eq_error_iff.mp hfault⟩
        exact .exceeding table before after p argument htable hparse hbefore hselect hallowed
          hexceeds
  · intro hfaulty
    unfold formatted
    cases hfaulty with
    | misspelled token given infinity =>
      obtain ⟨fault, htable⟩ := hargs.mpr ⟨token, given, infinity⟩
      exact ⟨fault, by rw [htable]⟩
    | exceeding table before after p argument given read reached selected allowed exceeds =>
      obtain ⟨fault, hfault⟩ := (exists_renderTokens_eq_fault_iff read).mpr
        ⟨before, p, after, argument, rfl, reached, selected, allowed, exceeds⟩
      refine ⟨fault, ?_⟩
      rw [given, read]
      exact map_eq_error_iff.mpr hfault

/-! ### The feature and what offers it -/

theorem exists_runFormat_eq_error_iff {template : Text} {args : List Text} :
    (∃ fault, runFormat template (args.map .token) = .error fault) ↔ Faulty template args := by
  rw [← exists_formatted_eq_fault_iff]
  unfold runFormat
  cases formatted template (args.map .token) with
  | ok data => simp [Outcome.ofResult]
  | error failure =>
    cases failure with
    | format error => simp [Outcome.ofResult]
    | fault fault => simp [Outcome.ofResult]

theorem exists_runFormat_eq_ok_iff {template : Text} {args : List Text} :
    (∃ outcome, runFormat template (args.map .token) = .ok outcome) ↔ ¬ Faulty template args := by
  rw [← exists_runFormat_eq_error_iff]
  cases runFormat template (args.map .token) with
  | ok outcome => simp
  | error fault => simp

theorem Http.status_format_eq_iff (request : Http.FormatRequest) :
    (Http.format request).status = 500 ↔ Faulty request.template request.args := by
  rw [← exists_runFormat_eq_error_iff]
  unfold Http.format
  cases runFormat request.template (request.args.map .token) with
  | error fault => simp [Http.Answer.status]
  | ok outcome =>
    cases outcome with
    | success reply => simp [Http.Answer.status]
    | failure error => simp [Http.Answer.status]

/-! ### The command line -/

namespace CommandLine

theorem mem_records_after_iff {record : Record} {front : List Record} {report : Report}
    (hfront : Trace.ForDebugging front) (hrecord : record.level ≠ .debug) :
    record ∈ (report.after front).records ↔ record ∈ report.records := by
  show record ∈ front ++ report.records ↔ _
  rw [List.mem_append]
  exact or_iff_right fun hmem ↦ hrecord (hfront record hmem)

theorem unexpected_ne_failed (error : Option String) :
    "An unexpected error occurred" ≠
      s!"{String.ofList Builtin.format.feature.name} failed: {Outcome.errorWords error}" := by
  intro hsame
  have hname : String.ofList Builtin.format.feature.name = "format" := String.ofList_toList
  have hfirst := congrArg (fun words : String ↦ words.toList.head?) hsame
  rw [hname] at hfirst
  simp only [toString, String.toList_append] at hfirst
  revert hfirst
  simp

theorem note_mem_records_iff (template : Text) (args : List Text) :
    note .error "An unexpected error occurred" ∈ (runFormatCommand template args).records ↔
      Faulty template args := by
  rw [← exists_runFormat_eq_error_iff]
  unfold runFormatCommand
  have hlevel : (note .error "An unexpected error occurred").level ≠ .debug :=
    show Level.error ≠ .debug from nofun
  rw [mem_records_after_iff (.cons rfl (Trace.forDebugging_ofFormat template _)) hlevel]
  cases runFormat template (args.map .token) with
  | error fault => simp [Report.failed]
  | ok outcome =>
    cases outcome with
    | success data => simp [reportOutcome, dataOf, Report.printed]
    | failure error =>
      simp only [reduceCtorEq, exists_false, iff_false]
      refine fun hmem ↦ unexpected_ne_failed error ?_
      exact congrArg Record.message (List.mem_singleton.mp hmem)

end CommandLine

/-! ### Faulty requests -/

/-- On the requests that are not faulty, and on no others, the format feature answers with an
outcome; and on the faulty requests, and on no others, the endpoint answers with an internal error
and the command line says that something unexpected happened. -/
theorem runFormat_answers_iff_not_faulty (template : Text) (args : List Text) :
    ((∃ outcome, runFormat template (args.map .token) = .ok outcome) ↔ ¬ Faulty template args) ∧
      ((Http.format ⟨template, args⟩).status = 500 ↔ Faulty template args) ∧
      (CommandLine.note .error "An unexpected error occurred" ∈
          (CommandLine.runFormatCommand template args).records ↔
        Faulty template args) :=
  ⟨exists_runFormat_eq_ok_iff, Http.status_format_eq_iff ⟨template, args⟩,
    CommandLine.note_mem_records_iff template args⟩

theorem misspelledInfinity_dotless : Value.MisspelledInfinity ['ı', 'n', 'f'] :=
  ⟨by decide, Or.inr (by decide)⟩

/-- There are faulty requests: a dotless `i` in the word for infinity is enough. -/
theorem not_forall_runFormat_answers :
    ¬ ∀ (template : Text) (args : List Text),
        ∃ outcome, runFormat template (args.map .token) = .ok outcome := by
  intro hanswers
  have houtcome := hanswers ['{', '}'] [['ı', 'n', 'f']]
  exact exists_runFormat_eq_ok_iff.mp houtcome
    (.misspelled ['ı', 'n', 'f'] List.mem_cons_self misspelledInfinity_dotless)

end BraceFormat
