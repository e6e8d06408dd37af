import BraceFormat.Proofs.Formatting
import BraceFormat.Proofs.Template.Scan
import BraceFormat.Session

/-!
# What a session keeps

A session keeps the tokens of the template that is in force when tokens are first asked for and the
template has no defect (`keptTemplate?`); whatever is assigned later, they stay. Of the steps taken
before, a generation sees nothing else: it starts from the first argument, so it gives what a new
session on the kept template gives, and it leaves the cursor behind the implicit references that it
came to (`historyIndependent_run`).
-/

set_option autoImplicit false
set_option relaxedAutoImplicit false

namespace BraceFormat.Session

namespace Step

/-- The template in force behind a step. -/
def assign (template : Text) : Step → Text
  | setTemplate new => new
  | _ => template

/-- Whether a step asks for the tokens of the template. -/
def readsTokens : Step → Bool
  | generate | expectedArgs | tokens => true
  | resolve _ | setTemplate _ => false

end Step

/-- The template in force behind steps. -/
def templateAfter (template : Text) (steps : List Step) : Text :=
  steps.foldl Step.assign template

/-- The template whose tokens are kept behind steps: the one in force at the first step that asks
for tokens and finds no defect. -/
def keptTemplate? (template : Text) : List Step → Option Text
  | [] => none
  | step :: rest =>
    if step.readsTokens ∧ (Template.parse template).isOk then some template
    else keptTemplate? (step.assign template) rest

/-- The template that tokens are read of behind steps: the one that is kept, or else the one in
force. -/
def readTemplate (template : Text) (steps : List Step) : Text :=
  (keptTemplate? template steps).getD (templateAfter template steps)

/-- Where the cursor stands behind a generation from a template: at the beginning if the template
has a defect, else behind the implicit references of its tokens, or of those up to and including the
one that fails. -/
inductive CursorBehind (table : ArgumentTable) (template : Text) : Except Failure Text → Nat → Prop
  | unread {error : FormatError} (defect : Template.parse template = .error error) :
    CursorBehind table template (.error (.format error)) 0
  | generated {tokens : List Token} {text : Text} (read : Template.parse template = .ok tokens) :
    CursorBehind table template (.ok text) (Template.implicitCount tokens)
  | stopped {tokens : List Token} {index : Nat} {failure : Failure}
    (read : Template.parse template = .ok tokens) (fails : FailsAt table 0 tokens index failure) :
    CursorBehind table template (.error failure)
      (Template.implicitCount (tokens.take (index + 1)))

/-- What a session shows of the steps that it has taken since it was started with a template. -/
structure HistoryIndependent (table : ArgumentTable) (template : Text) (steps : List Step)
    (session : Session) : Prop where
  /-- Until tokens are read, none are kept. -/
  unread : keptTemplate? template steps = none → session.tokens = none
  /-- The tokens first read are kept, whatever is done later. -/
  kept : ∀ first, keptTemplate? template steps = some first → ∃ tokens,
    Template.parse first = .ok tokens ∧ ∀ later, (session.run later).tokens = some tokens
  /-- What is generated is what a new session generates. -/
  generated : session.generate.1 = (start table (readTemplate template steps)).generate.1
  /-- A generation leaves the cursor where its own tokens take it. -/
  cursor_generate : CursorBehind table (readTemplate template steps) session.generate.1
    session.generate.2.cursor
  /-- Only a reference to the next argument moves the cursor, found or not. -/
  cursor_resolve : ∀ reference, (session.step (.resolve reference)).2.cursor =
    session.cursor + if reference = .implicit then 1 else 0
  cursor_step : ∀ step, step ≠ .generate → (∀ reference, step ≠ .resolve reference) →
    (session.step step).2.cursor = session.cursor

/-! ### Results as options -/

theorem exists_eq_ok_of_isOk {α ε : Type} {result : Except ε α} (h : result.isOk = true) :
    ∃ a, result = .ok a := by
  cases result with
  | error error => cases h
  | ok a => exact ⟨a, rfl⟩

theorem toOption_eq_none_of_isOk {α ε : Type} {result : Except ε α} (h : ¬ result.isOk = true) :
    result.toOption = none := by
  cases result with
  | error error => rfl
  | ok a => exact absurd rfl h

/-! ### One step -/

section Step

variable {session : Session}

theorem fst_readTokens_of_some {tokens : List Token} (h : session.tokens = some tokens) :
    session.readTokens.1 = .ok tokens := by
  rw [readTokens, h]

theorem fst_readTokens_of_none (h : session.tokens = none) :
    session.readTokens.1 = Template.parse session.template := by
  rw [readTokens, h]
  cases Template.parse session.template with
  | error error => rfl
  | ok tokens => rfl

variable (session)

/-- Reading tokens keeps them, if there are any. -/
theorem snd_readTokens :
    session.readTokens.2 = { session with tokens := session.readTokens.1.toOption } := by
  obtain ⟨table, template, tokens, cursor⟩ := session
  cases tokens with
  | some tokens => rfl
  | none =>
    unfold readTokens
    cases Template.parse template with
    | error error => rfl
    | ok tokens => rfl

/-- All that a generation does: it reads tokens, and renders them from the first argument on. -/
theorem generate_eq :
    session.generate =
      match session.readTokens.1 with
      | .error error =>
        (.error (.format error), { session.readTokens.2 with cursor := 0 })
      | .ok tokens =>
        ((renderTokens session.table 0 tokens).1,
          { session.readTokens.2 with cursor := (renderTokens session.table 0 tokens).2 }) := by
  obtain ⟨table, template, tokens, cursor⟩ := session
  unfold generate
  cases tokens with
  | some tokens => rfl
  | none =>
    unfold readTokens
    cases Template.parse template with
    | error error => rfl
    | ok tokens => rfl

theorem fst_generate :
    session.generate.1 =
      match session.readTokens.1 with
      | .error error => .error (.format error)
      | .ok tokens => (renderTokens session.table 0 tokens).1 := by
  rw [generate_eq]
  cases session.readTokens.1 with
  | error error => rfl
  | ok tokens => rfl

theorem snd_generate :
    session.generate.2 =
      { session with
        tokens := session.readTokens.1.toOption
        cursor :=
          match session.readTokens.1 with
          | .error _ => 0
          | .ok tokens => (renderTokens session.table 0 tokens).2 } := by
  rw [generate_eq, snd_readTokens]
  cases session.readTokens.1 with
  | error error => rfl
  | ok tokens => rfl

/-- All that a step does to a session. -/
theorem snd_step (step : Step) :
    (session.step step).2 =
      { session with
        template := step.assign session.template
        tokens := if step.readsTokens then session.readTokens.1.toOption else session.tokens
        cursor :=
          match step with
          | .generate => session.generate.2.cursor
          | .resolve reference => reference.advance session.cursor
          | _ => session.cursor } := by
  cases step with
  | generate =>
    show session.generate.2 = { session with
      tokens := session.readTokens.1.toOption, cursor := session.generate.2.cursor }
    rw [snd_generate]
  | expectedArgs => exact snd_readTokens session
  | tokens => exact snd_readTokens session
  | resolve reference => rfl
  | setTemplate template => rfl

theorem table_step (step : Step) : (session.step step).2.table = session.table := by
  rw [snd_step]

theorem template_step (step : Step) :
    (session.step step).2.template = step.assign session.template := by
  rw [snd_step]

theorem tokens_step (step : Step) :
    (session.step step).2.tokens =
      if step.readsTokens then session.readTokens.1.toOption else session.tokens := by
  rw [snd_step]

end Step

/-! ### Many steps -/

section Run

theorem run_cons (session : Session) (step : Step) (rest : List Step) :
    session.run (step :: rest) = (session.step step).2.run rest :=
  rfl

theorem table_run (session : Session) (steps : List Step) :
    (session.run steps).table = session.table := by
  induction steps generalizing session with
  | nil => rfl
  | cons step rest ih => rw [run_cons, ih, table_step]

theorem template_run (session : Session) (steps : List Step) :
    (session.run steps).template = templateAfter session.template steps := by
  induction steps generalizing session with
  | nil => rfl
  | cons step rest ih =>
    rw [run_cons, ih, template_step]
    rfl

/-- Tokens that are kept stay. -/
theorem tokens_run_of_some {session : Session} {tokens : List Token}
    (h : session.tokens = some tokens) (steps : List Step) :
    (session.run steps).tokens = some tokens := by
  induction steps generalizing session with
  | nil => exact h
  | cons step rest ih =>
    rw [run_cons]
    refine ih ?_
    rw [tokens_step, fst_readTokens_of_some h, h]
    split
    · rfl
    · rfl

theorem tokens_run_of_none {session : Session} (h : session.tokens = none) (steps : List Step) :
    (session.run steps).tokens =
      (keptTemplate? session.template steps).bind fun kept ↦ (Template.parse kept).toOption := by
  induction steps generalizing session with
  | nil => exact h
  | cons step rest ih =>
    have hstep := tokens_step session step
    rw [fst_readTokens_of_none h, h] at hstep
    rw [run_cons, keptTemplate?]
    by_cases hread : step.readsTokens = true ∧ (Template.parse session.template).isOk = true
    · obtain ⟨tokens, hparse⟩ := exists_eq_ok_of_isOk hread.2
      rw [if_pos hread.1, hparse] at hstep
      rw [if_pos hread, tokens_run_of_some hstep, Option.bind_some, hparse]
      rfl
    · have hnone : (session.step step).2.tokens = none := by
        rw [hstep]
        split
        · rename_i hreads
          exact toOption_eq_none_of_isOk fun hok ↦ hread ⟨hreads, hok⟩
        · rfl
      rw [if_neg hread, ih hnone, template_step]

theorem exists_parse_of_keptTemplate? {template : Text} {steps : List Step} {kept : Text}
    (h : keptTemplate? template steps = some kept) :
    ∃ tokens, Template.parse kept = .ok tokens := by
  induction steps generalizing template with
  | nil => cases h
  | cons step rest ih =>
    rw [keptTemplate?] at h
    split at h
    · rename_i hread
      obtain rfl := Option.some.inj h
      exact exists_eq_ok_of_isOk hread.2
    · exact ih h

end Run

/-! ### From the beginning -/

section History

variable (table : ArgumentTable) (template : Text) (steps : List Step)

theorem tokens_run_start :
    ((start table template).run steps).tokens =
      (keptTemplate? template steps).bind fun kept ↦ (Template.parse kept).toOption :=
  tokens_run_of_none rfl steps

theorem template_run_start :
    ((start table template).run steps).template = templateAfter template steps :=
  template_run _ steps

theorem fst_readTokens_run :
    ((start table template).run steps).readTokens.1 =
      Template.parse (readTemplate template steps) := by
  have htokens := tokens_run_start table template steps
  unfold readTemplate
  cases hkept : keptTemplate? template steps with
  | none =>
    rw [hkept, Option.bind_none] at htokens
    rw [fst_readTokens_of_none htokens, template_run_start, Option.getD_none]
  | some kept =>
    obtain ⟨tokens, hparse⟩ := exists_parse_of_keptTemplate? hkept
    rw [hkept, Option.bind_some, hparse] at htokens
    rw [fst_readTokens_of_some htokens, Option.getD_some, hparse]

theorem fst_readTokens_start : (start table template).readTokens.1 = Template.parse template :=
  fst_readTokens_of_none rfl

/-- Generating depends on the arguments and on the tokens that are read, and on nothing else. -/
theorem fst_generate_run :
    ((start table template).run steps).generate.1 =
      (start table (readTemplate template steps)).generate.1 := by
  rw [fst_generate, fst_generate, fst_readTokens_run, fst_readTokens_start, table_run]
  rfl

end History

theorem cursorBehind_generate {session : Session} {source : Text}
    (h : session.readTokens.1 = Template.parse source) :
    CursorBehind session.table source session.generate.1 session.generate.2.cursor := by
  rw [fst_generate, snd_generate, h]
  cases hparse : Template.parse source with
  | error error => exact .unread hparse
  | ok tokens =>
    show CursorBehind session.table source (renderTokens session.table 0 tokens).1
      (renderTokens session.table 0 tokens).2
    cases hrender : (renderTokens session.table 0 tokens).1 with
    | error failure =>
      obtain ⟨index, hfails, hcursor⟩ := exists_failsAt hrender
      rw [hcursor, Nat.zero_add]
      exact .stopped hparse hfails
    | ok text =>
      rw [cursor_renderTokens ⟨text, hrender⟩, Nat.zero_add]
      exact .generated hparse

theorem cursor_resolve (session : Session) (reference : Reference) :
    (session.step (.resolve reference)).2.cursor =
      session.cursor + if reference = .implicit then 1 else 0 := by
  rw [snd_step]
  cases reference with
  | implicit => rfl
  | index position => rfl
  | name name => rfl

theorem cursor_step (session : Session) {step : Step} (hgenerate : step ≠ .generate)
    (hresolve : ∀ reference, step ≠ .resolve reference) :
    (session.step step).2.cursor = session.cursor := by
  rw [snd_step]
  cases step with
  | generate => exact absurd rfl hgenerate
  | expectedArgs => rfl
  | tokens => rfl
  | resolve reference => exact absurd rfl (hresolve reference)
  | setTemplate new => rfl

/-- Behind any steps, a session has kept the tokens that it read first and no others, and it
generates from them what a new session generates. -/
theorem historyIndependent_run (table : ArgumentTable) (template : Text) (steps : List Step) :
    HistoryIndependent table template steps ((start table template).run steps) where
  unread := by
    intro hkept
    rw [tokens_run_start, hkept, Option.bind_none]
  kept := by
    intro first hkept
    obtain ⟨tokens, hparse⟩ := exists_parse_of_keptTemplate? hkept
    have htokens := tokens_run_start table template steps
    rw [hkept, Option.bind_some, hparse] at htokens
    exact ⟨tokens, hparse, fun later ↦ tokens_run_of_some htokens later⟩
  generated := fst_generate_run table template steps
  cursor_generate := by
    have hcursor := cursorBehind_generate (fst_readTokens_run table template steps)
    rwa [table_run] at hcursor
  cursor_resolve := fun reference ↦ cursor_resolve _ reference
  cursor_step := fun _ hgenerate hresolve ↦ cursor_step _ hgenerate hresolve

/-- A template with a defect is asked for its tokens, another one takes its place and is read, and a
third one comes too late: what is generated is that of the second. -/
theorem historyIndependent_run_late_template :
    keptTemplate? ['{'] [.tokens, .setTemplate ['{', '}'], .expectedArgs, .setTemplate ['x']] =
        some ['{', '}'] ∧
      (((start .empty ['{']).run [.tokens, .setTemplate ['{', '}'], .expectedArgs,
        .setTemplate ['x']]).run [.setTemplate ['y'], .generate]).tokens = some [.field {}] ∧
      ((start .empty ['{']).run [.tokens, .setTemplate ['{', '}'], .expectedArgs,
        .setTemplate ['x']]).generate.1 = (start .empty ['{', '}']).generate.1 := by
  have hdefect : Template.parse ['{'] = .error (.unterminatedPlaceholder ['{'] 0) :=
    Template.parse_unterminated (by simp) rfl
  have hfield : Template.parse ['{', '}'] = .ok [.field {}] := by
    have hvalid : ∀ piece ∈ [Piece.field [] {}], piece.Valid :=
      List.forall_mem_singleton.mpr ⟨nofun, rfl⟩
    exact Template.parse_eq_ok_iff.mpr ⟨[.field [] {}], hvalid, rfl, rfl⟩
  have hkept : keptTemplate? ['{'] [.tokens, .setTemplate ['{', '}'], .expectedArgs,
      .setTemplate ['x']] = some ['{', '}'] := by
    have hbefore : ¬ (Template.parse ['{']).isOk = true := by
      rw [hdefect]
      exact nofun
    have hafter : (Template.parse ['{', '}']).isOk = true := by
      rw [hfield]
      rfl
    simp [keptTemplate?, Step.readsTokens, Step.assign, hbefore, hafter]
  have hsession := historyIndependent_run .empty ['{'] [.tokens, .setTemplate ['{', '}'],
    .expectedArgs, .setTemplate ['x']]
  obtain ⟨tokens, hparse, hlater⟩ := hsession.kept _ hkept
  rw [hfield] at hparse
  obtain rfl := Except.ok.inj hparse
  have hgenerated := hsession.generated
  rw [readTemplate, hkept, Option.getD_some] at hgenerated
  exact ⟨hkept, hlater _, hgenerated⟩

end BraceFormat.Session
