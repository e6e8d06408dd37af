import BraceFormat.Proofs.Template.Scan
import BraceFormat.Proofs.Template.Tokens

/-!
# The grammar of templates

A template is a row of pieces, none of which has a brace but those that belong to it, and there is
at most one way to cut a template into pieces: the first piece is told by its first two characters
and, if it is a placeholder, by the next brace. The tokens are the placeholders among the pieces
and one literal text for each run of pieces between them, which is as long as it can be. Templates
are accepted just if they can be cut (`parse_iff_cut`).
-/

set_option autoImplicit false
set_option relaxedAutoImplicit false

namespace BraceFormat.Template

/-- Pieces that make up a template, with nothing left over. -/
structure Cut (template : Text) (pieces : List Piece) : Prop where
  valid : ∀ piece ∈ pieces, piece.Valid
  whole : pieces.flatMap Piece.source = template

/-- The tokens that pieces are read as: a placeholder for each that is one, and a literal text for
each run of others that no further one follows. -/
inductive ReadAs : List Piece → List Token → Prop
  | nil : ReadAs [] []
  | field {body : Text} {p : Placeholder} {pieces : List Piece} {list : List Token}
    (rest : ReadAs pieces list) : ReadAs (.field body p :: pieces) (.field p :: list)
  | literal {run pieces : List Piece} {text : Text} {list : List Token} (nonempty : run ≠ [])
    (spelled : run.map Piece.char? = text.map some)
    (maximal : ∀ piece ∈ pieces.head?, piece.char? = none) (rest : ReadAs pieces list) :
    ReadAs (run ++ pieces) (.literal text :: list)

/-! ### Pieces are read in one way -/

/-- A literal piece in front makes the run behind it longer, or is a run of its own. -/
theorem ReadAs.addChar {piece : Piece} {c : Char} (hpiece : piece.char? = some c)
    {pieces : List Piece} {list : List Token} (h : ReadAs pieces list) :
    ReadAs (piece :: pieces) (addChar c list) := by
  have hspelled : [piece].map Piece.char? = [c].map some := by
    rw [List.map_singleton, List.map_singleton, hpiece]
  cases h with
  | nil =>
    have hnone : ∀ other ∈ ([] : List Piece).head?, other.char? = none := by simp
    exact .literal (List.cons_ne_nil piece []) hspelled hnone .nil
  | field rest =>
    refine .literal (List.cons_ne_nil piece []) hspelled ?_ (.field rest)
    rintro _ ⟨⟩
    rfl
  | literal nonempty spelled maximal rest =>
    refine .literal (List.cons_ne_nil piece _) ?_ maximal rest
    rw [List.map_cons, List.map_cons, hpiece, spelled]

theorem readAs_tokens (pieces : List Piece) : ReadAs pieces (tokens pieces) := by
  induction pieces with
  | nil => exact .nil
  | cons piece pieces ih =>
    cases hchar : piece.char? with
    | some c =>
      rw [tokens_cons_of_char? hchar]
      exact ih.addChar hchar
    | none =>
      cases piece with
      | field body p => exact .field ih
      | _ => cases hchar

theorem startsLiteral_tokens {pieces : List Piece}
    (h : ∀ piece ∈ pieces.head?, piece.char? = none) : startsLiteral (tokens pieces) = false := by
  cases pieces with
  | nil => rfl
  | cons piece pieces =>
    have hchar := h piece rfl
    cases piece with
    | field body p => rfl
    | _ => cases hchar

theorem ReadAs.tokens_eq {pieces : List Piece} {list : List Token} (h : ReadAs pieces list) :
    tokens pieces = list := by
  induction h with
  | nil => rfl
  | field _ ih => rw [tokens, ih]
  | @literal run pieces text list nonempty spelled maximal rest ih =>
    have htext : text ≠ [] := by
      rintro rfl
      exact nonempty (List.map_eq_nil_iff.mp spelled)
    rw [tokens_append_of_map_char? spelled, foldr_addChar htext (startsLiteral_tokens maximal), ih]

theorem readAs_iff {pieces : List Piece} {list : List Token} :
    ReadAs pieces list ↔ tokens pieces = list :=
  ⟨ReadAs.tokens_eq, fun h ↦ h ▸ readAs_tokens pieces⟩

/-! ### Templates are cut in one way -/

theorem cut_iff {template : Text} {pieces : List Piece} :
    Cut template pieces ↔ scan template = ⟨pieces, none⟩ := by
  rw [scan_eq_iff]
  exact ⟨fun h ↦ ⟨h.valid, h.whole⟩, fun h ↦ ⟨h.1, h.2⟩⟩

theorem Cut.unique {template : Text} {first second : List Piece} (hfirst : Cut template first)
    (hsecond : Cut template second) : first = second := by
  have hscan := (cut_iff.mp hfirst).symm.trans (cut_iff.mp hsecond)
  exact congrArg Scan.pieces hscan

theorem parse_eq_ok_iff_exists_cut {template : Text} {list : List Token} :
    parse template = .ok list ↔ ∃ pieces, Cut template pieces ∧ ReadAs pieces list := by
  rw [parse_eq_ok_iff]
  constructor
  · rintro ⟨pieces, hvalid, hwhole, htokens⟩
    exact ⟨pieces, ⟨hvalid, hwhole⟩, readAs_iff.mpr htokens⟩
  · rintro ⟨pieces, hcut, hread⟩
    exact ⟨pieces, hcut.valid, hcut.whole, readAs_iff.mp hread⟩

/-- A template is accepted just if it can be cut into pieces, there is then no other way to cut it,
and its tokens are those that the pieces are read as. -/
theorem parse_iff_cut (template : Text) :
    ((∃ list, parse template = .ok list) ↔ ∃ pieces, Cut template pieces) ∧
      (∀ first second, Cut template first → Cut template second → first = second) ∧
      ∀ list, parse template = .ok list ↔ ∃ pieces, Cut template pieces ∧ ReadAs pieces list := by
  refine ⟨?_, fun first second hfirst hsecond ↦ hfirst.unique hsecond, fun list ↦
    parse_eq_ok_iff_exists_cut⟩
  constructor
  · rintro ⟨list, hparse⟩
    obtain ⟨pieces, hcut, -⟩ := parse_eq_ok_iff_exists_cut.mp hparse
    exact ⟨pieces, hcut⟩
  · rintro ⟨pieces, hcut⟩
    exact ⟨tokens pieces, parse_eq_ok_iff_exists_cut.mpr ⟨pieces, hcut, readAs_tokens pieces⟩⟩

/-- Three opening braces and three closing ones are a placeholder between two braces of literal
text, and nothing else. -/
theorem parse_iff_cut_triple_braces :
    Cut ['{', '{', '{', '}', '}', '}'] [.openBrace, .field [] {}, .closeBrace] ∧
      (∀ other, Cut ['{', '{', '{', '}', '}', '}'] other →
        other = [.openBrace, .field [] {}, .closeBrace]) ∧
      parse ['{', '{', '{', '}', '}', '}'] = .ok [.literal ['{'], .field {}, .literal ['}']] := by
  have hcut : Cut ['{', '{', '{', '}', '}', '}'] [.openBrace, .field [] {}, .closeBrace] := by
    have hfield : (Piece.field [] {}).Valid := ⟨nofun, rfl⟩
    have hclose : ∀ piece ∈ [Piece.closeBrace], piece.Valid := List.forall_mem_singleton.mpr trivial
    exact ⟨List.forall_mem_cons.mpr ⟨trivial, List.forall_mem_cons.mpr ⟨hfield, hclose⟩⟩, rfl⟩
  obtain ⟨-, hunique, hread⟩ := parse_iff_cut ['{', '{', '{', '}', '}', '}']
  refine ⟨hcut, fun other hother ↦ hunique other _ hother hcut, ?_⟩
  exact (hread _).mpr ⟨_, hcut, readAs_tokens _⟩

end BraceFormat.Template
