import BraceFormat.CommandLine
import BraceFormat.Http
import BraceFormat.Proofs.Template.Scan
import Mathlib.Data.List.Basic

/-!
# The command line and the endpoint

The format command and the format endpoint run one feature, so they agree on what comes of a
template and arguments: a line is printed where its text is the output of the answer, and a command
fails where the request is refused (`agrees_runFormatCommand`). But a command line is words, which
are sorted before they are a template and arguments. A word that begins with one dash is taken for
letters behind it, and the letters that ask for debugging are taken out of it (`kept?`, `sort_eq`).
So the two agree on the same words as long as no word has such a letter behind its dash, and
otherwise the command goes by other words than those that were typed (`run_format_agrees`). That
can change what is printed without a word about it (`not_forall_run_format_agrees`).

Words that begin with two dashes are left out: `--` ends the options, and in front of it the long
names of the switches, that for help among them, are taken out whole.
-/

set_option autoImplicit false
set_option relaxedAutoImplicit false

namespace BraceFormat

/-- The output that the body of an answer holds. -/
def Http.Answer.output? (answer : Answer) : Option Json :=
  answer.body?.bind (·.member? "output".toList)

namespace CommandLine

/-- A report and an answer tell the same of a template and its arguments. -/
structure Agrees (report : Report) (answer : Http.Answer) : Prop where
  printed : ∀ output, report.exit = 0 ∧ report.output = output ++ ['\n'] ↔
    answer.status = 200 ∧ answer.output? = some (.string output)
  failed : report.exit = 1 ∧ report.output = [] ↔ answer.status = 400 ∨ answer.status = 500

/-- Whether a word has a debug letter behind a dash. -/
def asksDebug (word : Text) : Bool :=
  word.head? = some '-' && debugLetter ∈ word

/-- What the format command keeps of a word that does not begin with two dashes. A word with debug
letters behind its dash loses them, and is dropped if it has no others. -/
def kept? (word : Text) : Option Text :=
  if asksDebug word then
    match word.tail.filter (· ≠ debugLetter) with
    | [] => none
    | left => some ('-' :: left)
  else some word

/-! ### Words -/

theorem ofText_of_head?_ne {word : Text} (h : word.head? ≠ some '-') :
    Word.ofText word = .plain word := by
  rw [Word.ofText]
  · rintro rfl
    exact h rfl
  · rintro rest rfl
    exact h rfl
  · rintro first rest rfl
    exact h rfl

theorem ofText_cluster {first : Char} (h : first ≠ '-') (rest : Text) :
    Word.ofText ('-' :: first :: rest) = .cluster (first :: rest) := by
  rw [Word.ofText]
  · exact fun hfirst _ ↦ h hfirst
  · exact h

theorem sort_cons_of_plain {word : Text} (h : Word.ofText word = .plain word) (rest : List Text) :
    formatOptions.sort (word :: rest) =
      (formatOptions.sort rest).map (Sorted.addPositional word) := by
  rw [Options.sort, h]
  rfl

theorem sort_cons_of_cluster {word letters : Text} (h : Word.ofText word = .cluster letters)
    (rest : List Text) :
    formatOptions.sort (word :: rest) =
      if formatOptions.left letters = [] then
        (formatOptions.sort rest).map (Sorted.addSwitches (formatOptions.given letters))
      else
        (formatOptions.sort rest).map fun sorted ↦
          (sorted.addPositional ('-' :: formatOptions.left letters)).addSwitches
            (formatOptions.given letters) := by
  rw [Options.sort, h]
  rfl

theorem left_formatOptions (letters : Text) :
    formatOptions.left letters = letters.filter (· ≠ debugLetter) := by
  simp [Options.left, formatOptions]

theorem given_formatOptions (letters : Text) :
    formatOptions.given letters = if debugLetter ∈ letters then [debugOption] else [] := by
  by_cases hdebug : debugLetter ∈ letters
  · simp [Options.given, formatOptions, hdebug]
  · simp [Options.given, formatOptions, hdebug]

/-- A word of a format command adds what is kept of it, and may ask for debugging. -/
def addKept (word : Text) (sorted : Sorted) : Sorted :=
  { sorted with
    switches := (if asksDebug word then [debugOption] else []) ++ sorted.switches
    positionals := (kept? word).toList ++ sorted.positionals }

theorem addKept_of_not_asksDebug {word : Text} (h : asksDebug word = false) :
    addKept word = Sorted.addPositional word := by
  funext sorted
  simp [addKept, kept?, h, Sorted.addPositional]

theorem asksDebug_dash (letters : Text) :
    asksDebug ('-' :: letters) = decide (debugLetter ∈ letters) := by
  have hdash : debugLetter ≠ '-' := by decide
  simp [asksDebug, hdash]

/-- Where letters stand behind a dash, the debug letters are taken out of them. -/
theorem kept?_dash {letters : Text} (h : letters ≠ []) :
    kept? ('-' :: letters) =
      match letters.filter (· ≠ debugLetter) with
      | [] => none
      | left => some ('-' :: left) := by
  rw [kept?, asksDebug_dash]
  by_cases hdebug : debugLetter ∈ letters
  · rw [if_pos (decide_eq_true hdebug)]
    rfl
  · have hleft : letters.filter (· ≠ debugLetter) = letters := by
      refine List.filter_eq_self.mpr fun c hc ↦ decide_eq_true ?_
      rintro rfl
      exact hdebug hc
    rw [hleft, decide_eq_false hdebug]
    cases letters with
    | nil => exact absurd rfl h
    | cons first rest => rfl

theorem sort_cons_of_letters {letters : Text} (hletters : letters ≠ [])
    (hcluster : Word.ofText ('-' :: letters) = .cluster letters) (rest : List Text) :
    formatOptions.sort (('-' :: letters) :: rest) =
      (formatOptions.sort rest).map (addKept ('-' :: letters)) := by
  have hadd : addKept ('-' :: letters) = fun sorted ↦
      { sorted with
        switches := formatOptions.given letters ++ sorted.switches
        positionals := (kept? ('-' :: letters)).toList ++ sorted.positionals } := by
    funext sorted
    simp only [addKept, asksDebug_dash, given_formatOptions, decide_eq_true_eq]
  rw [sort_cons_of_cluster hcluster, left_formatOptions, hadd, kept?_dash hletters]
  cases letters.filter (· ≠ debugLetter) with
  | nil => rfl
  | cons first left => rfl

theorem sort_cons {word : Text} (h : ¬ ['-', '-'] <+: word) (rest : List Text) :
    formatOptions.sort (word :: rest) = (formatOptions.sort rest).map (addKept word) := by
  by_cases hdash : word.head? = some '-'
  · obtain ⟨letters, rfl⟩ := List.head?_eq_some_iff.mp hdash
    cases letters with
    | nil => rw [sort_cons_of_plain rfl, addKept_of_not_asksDebug rfl]
    | cons first letters =>
      have hfirst : first ≠ '-' := by
        rintro rfl
        exact h ⟨letters, rfl⟩
      exact sort_cons_of_letters (List.cons_ne_nil first letters) (ofText_cluster hfirst letters)
        rest
  · have hasks : asksDebug word = false := by simp [asksDebug, hdash]
    rw [sort_cons_of_plain (ofText_of_head?_ne hdash), addKept_of_not_asksDebug hasks]

/-- Words that do not begin with two dashes are sorted one by one: what is kept of them are the
positionals, in order, and the only switch that can be given is the one for debugging. -/
theorem sort_eq {words : List Text} (h : ∀ word ∈ words, ¬ ['-', '-'] <+: word) :
    formatOptions.sort words =
      .ok ⟨(words.filter asksDebug).map fun _ ↦ debugOption, [], words.filterMap kept?⟩ := by
  induction words with
  | nil => rfl
  | cons word rest ih =>
    have hrest := ih fun other hother ↦ h other (List.mem_cons_of_mem word hother)
    rw [sort_cons (h word List.mem_cons_self), hrest]
    show Except.ok _ = Except.ok _
    have hkept : (word :: rest).filterMap kept? = (kept? word).toList ++ rest.filterMap kept? := by
      cases hword : kept? word with
      | none => rw [List.filterMap_cons_none hword]; rfl
      | some left => rw [List.filterMap_cons_some hword]; rfl
    have hswitches : ((word :: rest).filter asksDebug).map (fun _ ↦ debugOption) =
        (if asksDebug word then [debugOption] else []) ++
          (rest.filter asksDebug).map fun _ ↦ debugOption := by
      cases hword : asksDebug word with
      | false => rw [List.filter_cons_of_neg (by simp [hword])]; rfl
      | true => rw [List.filter_cons_of_pos hword]; rfl
    rw [addKept, hkept, hswitches]

/-- No debug letters are left behind the dash of what is kept of a word. -/
theorem asksDebug_of_kept? {word left : Text} (h : kept? word = some left) :
    asksDebug left = false := by
  rw [kept?] at h
  split at h
  · split at h
    · exact nomatch h
    · obtain rfl := Option.some.inj h
      rw [asksDebug_dash]
      exact decide_eq_false fun hmem ↦ of_decide_eq_true (List.mem_filter.mp hmem).2 rfl
  · rename_i hasks
    obtain rfl := Option.some.inj h
    exact Bool.eq_false_iff.mpr hasks

/-- All words are kept as they are just if none has a debug letter behind a dash. -/
theorem filterMap_kept?_eq_self_iff {words : List Text} :
    words.filterMap kept? = words ↔ ∀ word ∈ words, asksDebug word = false := by
  constructor
  · intro hself word hword
    rw [← hself] at hword
    obtain ⟨typed, -, hkept⟩ := List.mem_filterMap.mp hword
    exact asksDebug_of_kept? hkept
  · intro hplain
    have hkept : ∀ word ∈ words, kept? word = some word := fun word hword ↦ by
      rw [kept?, hplain word hword]
      rfl
    rw [List.filterMap_congr hkept, List.filterMap_some]

theorem mem_switches_iff {words : List Text} {name : Text} :
    name ∈ (words.filter asksDebug).map (fun _ ↦ debugOption) ↔
      words.any asksDebug = true ∧ name = debugOption := by
  rw [List.mem_map, List.any_eq_true]
  constructor
  · rintro ⟨word, hword, rfl⟩
    exact ⟨⟨word, List.mem_filter.mp hword⟩, rfl⟩
  · rintro ⟨⟨word, hword⟩, rfl⟩
    exact ⟨word, List.mem_filter.mpr hword, rfl⟩

/-- The command that words ask for once its name is taken off. -/
theorem read_format {words : List Text} (h : ∀ word ∈ words, ¬ ['-', '-'] <+: word)
    (environment : List (Text × Text)) :
    read environment ("format".toList :: words) =
      match words.filterMap kept? with
      | [] => .error .missingTemplate
      | template :: args => .ok (.format (words.any asksDebug) false template args) := by
  have hnamed : read environment ("format".toList :: words) = formatCommand words := rfl
  have hhelp : helpOption ≠ debugOption := by decide
  have hverbose : verboseOption ≠ debugOption := by decide
  rw [hnamed]
  cases hkept : words.filterMap kept? with
  | nil =>
    simp only [formatCommand, Options.command, sort_eq h, hkept, mem_switches_iff, hhelp,
      and_false, if_false]
  | cons template args =>
    simp only [formatCommand, Options.command, sort_eq h, hkept, mem_switches_iff, hhelp,
      hverbose, and_false, and_true, if_false, decide_false, Bool.decide_eq_true]

/-! ### Reports and answers -/

theorem agrees_of_printed {report : Report} {answer : Http.Answer} {line : Text}
    (hexit : report.exit = 0) (hline : report.output = line ++ ['\n'])
    (hstatus : answer.status = 200) (houtput : answer.output? = some (.string line)) :
    Agrees report answer := by
  constructor
  · intro output
    simp [hexit, hline, hstatus, houtput]
  · simp [hexit, hstatus]

theorem agrees_of_failed {report : Report} {answer : Http.Answer} (hexit : report.exit = 1)
    (houtput : report.output = []) (hstatus : answer.status = 400 ∨ answer.status = 500) :
    Agrees report answer := by
  constructor
  · intro output
    have hrefused : answer.status ≠ 200 := by omega
    simp [hexit, hrefused]
  · exact iff_of_true ⟨hexit, houtput⟩ hstatus

/-- Run on the same template and arguments, the format command and the format endpoint agree. -/
theorem agrees_runFormatCommand (template : Text) (args : List Text) :
    Agrees (runFormatCommand template args) (Http.format ⟨template, args⟩) := by
  rw [runFormatCommand, Http.format]
  cases runFormat template (args.map ArgumentTable.Entry.token) with
  | error fault => exact agrees_of_failed rfl rfl (.inr rfl)
  | ok outcome =>
    cases outcome with
    | failure error => exact agrees_of_failed rfl rfl (.inl rfl)
    | success reply => exact agrees_of_printed rfl rfl rfl rfl

/-- The words of a format command. -/
def formatLine (template : Text) (args : List Text) : List Text :=
  "format".toList :: template :: args

theorem run_of_read {environment : List (Text × Text)} {words : List Text} {debug verbose : Bool}
    {template : Text} {args : List Text}
    (h : read environment words = .ok (.format debug verbose template args)) :
    ∃ report, run environment words = .ok report ∧
      Agrees report (Http.format ⟨template, args⟩) := by
  refine ⟨runFormatCommand template args, ?_, agrees_runFormatCommand template args⟩
  rw [run, h]
  rfl

/-- The command line and the endpoint agree on a template and arguments, which reach the formatting
as they were typed, if no word has a debug letter behind a dash. If one has, the words that reach
the formatting are others, and the command agrees with the endpoint on those. -/
theorem run_format_agrees (environment : List (Text × Text)) (template : Text) (args : List Text)
    (h : ∀ word ∈ template :: args, ¬ ['-', '-'] <+: word) :
    ((∀ word ∈ template :: args, asksDebug word = false) →
      ∃ report, run environment (formatLine template args) = .ok report ∧
        Agrees report (Http.format ⟨template, args⟩)) ∧
    ((∃ debug verbose, read environment (formatLine template args) =
        .ok (.format debug verbose template args)) ↔
      ∀ word ∈ template :: args, asksDebug word = false) ∧
    match (template :: args).filterMap kept? with
    | [] => run environment (formatLine template args) = .error .missingTemplate
    | keptTemplate :: keptArgs =>
      ∃ report, run environment (formatLine template args) = .ok report ∧
        Agrees report (Http.format ⟨keptTemplate, keptArgs⟩) := by
  have hread := read_format h environment
  rw [← formatLine] at hread
  have htyped : (∃ debug verbose, read environment (formatLine template args) =
      .ok (.format debug verbose template args)) ↔
      ∀ word ∈ template :: args, asksDebug word = false := by
    rw [hread, ← filterMap_kept?_eq_self_iff]
    constructor
    · rintro ⟨debug, verbose, hcommand⟩
      split at hcommand
      · exact nomatch hcommand
      · rename_i keptTemplate keptArgs hkept
        cases hcommand
        exact hkept
    · intro hkept
      exact ⟨_, _, by rw [hkept]⟩
  refine ⟨fun hplain ↦ ?_, htyped, ?_⟩
  · obtain ⟨debug, verbose, hcommand⟩ := htyped.mpr hplain
    exact run_of_read hcommand
  · cases hkept : (template :: args).filterMap kept? with
    | nil =>
      rw [hkept] at hread
      show run environment (formatLine template args) = .error .missingTemplate
      rw [run, hread]
      rfl
    | cons keptTemplate keptArgs =>
      rw [hkept] at hread
      exact run_of_read hread

/-- A negative number, a lone dash, and a letter behind a dash that is no debug letter reach the
formatting as typed. -/
theorem run_format_agrees_negative :
    (∀ word ∈ ["{}".toList, "-5".toList, "-".toList, "-x".toList], ¬ ['-', '-'] <+: word) ∧
      (∃ debug verbose,
        read [] (formatLine "{}".toList ["-5".toList, "-".toList, "-x".toList]) =
          .ok (.format debug verbose "{}".toList ["-5".toList, "-".toList, "-x".toList])) ∧
      ∃ report,
        run [] (formatLine "{}".toList ["-5".toList, "-".toList, "-x".toList]) = .ok report ∧
          Agrees report
            (Http.format ⟨"{}".toList, ["-5".toList, "-".toList, "-x".toList]⟩) := by
  have hdashes : ∀ word ∈ ["{}".toList, "-5".toList, "-".toList, "-x".toList],
      ¬ ['-', '-'] <+: word := by decide
  have hplain : ∀ word ∈ ["{}".toList, "-5".toList, "-".toList, "-x".toList],
      asksDebug word = false := by decide
  obtain ⟨hagrees, htyped, -⟩ := run_format_agrees [] _ _ hdashes
  exact ⟨hdashes, htyped.mpr hplain, hagrees hplain⟩

/-- It is not enough that no word is the debug letter behind a dash: with `-xD` for its argument the
command prints `-x`, where the endpoint answers with `-xD`. -/
theorem not_forall_run_format_agrees :
    ¬ ∀ (environment : List (Text × Text)) (template : Text) (args : List Text),
      (∀ word ∈ template :: args, ¬ ['-', '-'] <+: word ∧ word ≠ ['-', debugLetter]) →
      ∃ report, run environment (formatLine template args) = .ok report ∧
        Agrees report (Http.format ⟨template, args⟩) := by
  intro hall
  obtain ⟨report, hrun, hagrees⟩ := hall [] ['{', '}'] [['-', 'x', 'D']] (by decide)
  have hparse : Template.parse ['{', '}'] = .ok [.field {}] :=
    Template.parse_eq_ok_iff.mpr
      ⟨[.field [] {}], List.forall_mem_singleton.mpr ⟨nofun, rfl⟩, rfl, rfl⟩
  have htyped : runFormat ['{', '}'] [.token ['-', 'x', 'D']] =
      .ok (.success ⟨['-', 'x', 'D'], 1⟩) := by
    rw [runFormat, formatted, hparse]
    rfl
  have hkept : runFormat ['{', '}'] [.token ['-', 'x']] = .ok (.success ⟨['-', 'x'], 1⟩) := by
    rw [runFormat, formatted, hparse]
    rfl
  have hreport : report = runFormatCommand ['{', '}'] [['-', 'x']] := by
    have hdashes : ∀ word ∈ [['{', '}'], ['-', 'x', 'D']], ¬ ['-', '-'] <+: word := by decide
    rw [run, formatLine, read_format hdashes] at hrun
    exact (Except.ok.inj hrun).symm
  have hprinted : report.exit = 0 ∧ report.output = ['-', 'x'] ++ ['\n'] := by
    rw [hreport, runFormatCommand]
    simp only [List.map_cons, List.map_nil, hkept]
    exact ⟨rfl, rfl⟩
  have houtput := ((hagrees.printed ['-', 'x']).mp hprinted).2
  rw [Http.format] at houtput
  simp only [List.map_cons, List.map_nil, htyped] at houtput
  cases houtput

end CommandLine

end BraceFormat
