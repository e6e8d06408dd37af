import BraceFormat.Formatting
import BraceFormat.Proofs.Placeholder
import BraceFormat.Proofs.Template.Scan
import BraceFormat.Proofs.Template.Tokens

/-!
# Templates and their tokens

The token lists that templates have are the normal ones: literal texts are not empty, none follows
another, and every placeholder can be written between braces. Writing a normal list and reading it
again gives the list (`parse_print`), and what is read is normal (`normal_of_parse`). So a text with
its braces doubled is a template of that text, whatever the arguments are.
-/

set_option autoImplicit false
set_option relaxedAutoImplicit false

namespace BraceFormat

/-- A placeholder that a template can hold: its reference can be read, and its specifier is read
from some text and has no brace for a fill. -/
def Placeholder.Normal (p : Placeholder) : Prop :=
  p.reference.Canonical ∧ ∀ spec ∈ p.spec,
    (∃ text, Spec.parse text = .ok spec) ∧ spec.fill ≠ ['{'] ∧ spec.fill ≠ ['}']

namespace Placeholder

theorem Normal.canonical {p : Placeholder} (h : p.Normal) : p.Canonical := by
  refine ⟨h.1, fun spec hspec ↦ ?_⟩
  obtain ⟨text, hparse⟩ := (h.2 spec hspec).1
  exact Spec.canonical_of_parse hparse

theorem Normal.notMem_fill {p : Placeholder} (h : p.Normal) {brace : Char}
    (hbrace : brace ∈ ['{', '}']) : ∀ spec ∈ p.spec, brace ∉ spec.fill := by
  intro spec hspec hmem
  obtain ⟨-, hopen, hclose⟩ := h.2 spec hspec
  have hfill : spec.fill = [brace] := by
    obtain ⟨c, hc⟩ := (h.canonical.2 spec hspec).fill_eq
    rw [hc] at hmem ⊢
    rw [List.mem_singleton.mp hmem]
  simp only [List.mem_cons, List.not_mem_nil, or_false] at hbrace
  rcases hbrace with rfl | rfl
  · exact hopen hfill
  · exact hclose hfill

theorem Normal.valid {p : Placeholder} (h : p.Normal) : (Piece.field p.printBody p).Valid := by
  refine ⟨fun c hc ↦ ?_, h.canonical.parse_printBody⟩
  have hne : ∀ brace ∈ ['{', '}'], c ≠ brace := fun brace hbrace ↦
    h.canonical.ne_of_mem_printBody hbrace (h.notMem_fill hbrace) hc
  simp [Template.isBrace, hne '{' (by decide), hne '}' (by decide)]

theorem normal_of_valid {body : Text} {p : Placeholder} (h : (Piece.field body p).Valid) :
    p.Normal := by
  obtain ⟨hbody, hparse⟩ := h
  obtain ⟨hreference, hspecs⟩ := canonical_and_cutAt?_of_parse hparse
  have hfill : ∀ brace ∈ ['{', '}'], ∀ spec ∈ p.spec, spec.fill ≠ [brace] := by
    intro brace hbrace spec hspec hfill
    have hnotMem : brace ∉ body := by
      intro hmem
      have hfree := hbody brace hmem
      revert hfree
      simp only [List.mem_cons, List.not_mem_nil, or_false] at hbrace
      rcases hbrace with rfl | rfl <;> decide
    have hblank : brace ≠ ' ' := by
      rintro rfl
      revert hbrace
      decide
    exact notMem_fill_of_parse hparse hnotMem hblank spec hspec (hfill ▸ List.mem_singleton_self _)
  refine ⟨hreference, fun spec hspec ↦ ?_⟩
  obtain ⟨before, after, -, hafter⟩ := hspecs spec hspec
  exact ⟨⟨after, hafter⟩, hfill '{' (by decide) spec hspec, hfill '}' (by decide) spec hspec⟩

end Placeholder

namespace Template

/-- The token lists that templates have. -/
inductive Normal : List Token → Prop
  | nil : Normal []
  | literal {text : Text} {rest : List Token} (nonempty : text ≠ [])
    (separated : startsLiteral rest = false) (normal : Normal rest) :
    Normal (.literal text :: rest)
  | field {p : Placeholder} {rest : List Token} (placeholder : p.Normal) (normal : Normal rest) :
    Normal (.field p :: rest)

/-! ### What is read is normal -/

theorem normal_addChar (c : Char) {tokens : List Token} (h : Normal tokens) :
    Normal (addChar c tokens) := by
  cases h with
  | nil => exact .literal (List.cons_ne_nil c []) rfl .nil
  | literal _ separated normal => exact .literal (List.cons_ne_nil c _) separated normal
  | field placeholder normal =>
    exact .literal (List.cons_ne_nil c []) rfl (.field placeholder normal)

theorem normal_tokens {pieces : List Piece} (h : ∀ piece ∈ pieces, piece.Valid) :
    Normal (tokens pieces) := by
  induction pieces with
  | nil => exact .nil
  | cons piece pieces ih =>
    have hrest := ih fun other hother ↦ h other (List.mem_cons_of_mem piece hother)
    cases piece with
    | char c => exact normal_addChar c hrest
    | openBrace => exact normal_addChar '{' hrest
    | closeBrace => exact normal_addChar '}' hrest
    | field body p => exact .field (Placeholder.normal_of_valid (h _ List.mem_cons_self)) hrest

theorem normal_of_parse {template : Text} {result : List Token}
    (h : parse template = .ok result) : Normal result := by
  obtain ⟨pieces, hvalid, -, rfl⟩ := parse_eq_ok_iff.mp h
  exact normal_tokens hvalid

/-! ### What is normal is read again -/

/-- The piece that stands for one character of literal text. -/
def literalPiece (c : Char) : Piece :=
  if c = '{' then .openBrace else if c = '}' then .closeBrace else .char c

/-- The pieces that a token is written as. -/
def piecesOf : Token → List Piece
  | .literal text => text.map literalPiece
  | .field p => [.field p.printBody p]

theorem valid_literalPiece (c : Char) : (literalPiece c).Valid := by
  by_cases hopen : c = '{'
  · simp [literalPiece, hopen, Piece.Valid]
  by_cases hclose : c = '}'
  · simp [literalPiece, hclose, Piece.Valid]
  · simp [literalPiece, hopen, hclose, Piece.Valid, isBrace]

theorem source_literalPiece (c : Char) :
    (literalPiece c).source = if isBrace c then [c, c] else [c] := by
  by_cases hopen : c = '{'
  · simp [literalPiece, hopen, Piece.source, isBrace]
  by_cases hclose : c = '}'
  · simp [literalPiece, hclose, Piece.source, isBrace]
  · simp [literalPiece, hopen, hclose, Piece.source, isBrace]

theorem char?_literalPiece (c : Char) : (literalPiece c).char? = some c := by
  by_cases hopen : c = '{'
  · simp [literalPiece, hopen, Piece.char?]
  by_cases hclose : c = '}'
  · simp [literalPiece, hclose, Piece.char?]
  · simp [literalPiece, hopen, hclose, Piece.char?]

theorem flatMap_source_piecesOf (list : List Token) :
    (list.flatMap piecesOf).flatMap Piece.source = print list := by
  induction list with
  | nil => rfl
  | cons token rest ih =>
    rw [List.flatMap_cons, List.flatMap_append, ih]
    cases token with
    | literal text =>
      rw [print, piecesOf, escape, List.flatMap_map]
      simp only [source_literalPiece]
    | field p => simp [print, piecesOf, Piece.source, Placeholder.print]

theorem valid_piecesOf {list : List Token} (h : Normal list) :
    ∀ piece ∈ list.flatMap piecesOf, piece.Valid := by
  induction h with
  | nil => simp
  | literal _ _ _ ih =>
    intro piece hpiece
    rw [List.flatMap_cons, List.mem_append] at hpiece
    rcases hpiece with hfirst | hrest
    · obtain ⟨c, -, rfl⟩ := List.mem_map.mp hfirst
      exact valid_literalPiece c
    · exact ih piece hrest
  | field placeholder _ ih =>
    intro piece hpiece
    rw [List.flatMap_cons, List.mem_append] at hpiece
    rcases hpiece with hfirst | hrest
    · rw [List.mem_singleton.mp hfirst]
      exact placeholder.valid
    · exact ih piece hrest

theorem tokens_map_literalPiece {text : Text} (hnonempty : text ≠ []) {rest : List Piece}
    (hrest : startsLiteral (tokens rest) = false) :
    tokens (text.map literalPiece ++ rest) = .literal text :: tokens rest := by
  have hspelled : (text.map literalPiece).map Piece.char? = text.map some := by
    rw [List.map_map]
    exact List.map_congr_left fun c _ ↦ char?_literalPiece c
  rw [tokens_append_of_map_char? hspelled, foldr_addChar hnonempty hrest]

theorem tokens_piecesOf {list : List Token} (h : Normal list) :
    tokens (list.flatMap piecesOf) = list := by
  induction h with
  | nil => rfl
  | literal nonempty separated _ ih =>
    rw [List.flatMap_cons, piecesOf, tokens_map_literalPiece nonempty (by rw [ih, separated]), ih]
  | field _ _ ih =>
    rw [List.flatMap_cons, piecesOf, List.singleton_append, tokens, ih]

/-- Writing a normal list of tokens and reading it again gives the list. -/
theorem parse_print {list : List Token} (h : Normal list) : parse (print list) = .ok list :=
  parse_eq_ok_iff.mpr ⟨list.flatMap piecesOf, valid_piecesOf h, flatMap_source_piecesOf list,
    tokens_piecesOf h⟩

theorem Normal.placeholder_of_mem {list : List Token} (h : Normal list) {p : Placeholder}
    (hp : .field p ∈ list) : p.Normal := by
  induction h with
  | nil => cases hp
  | literal _ _ _ ih => exact ih ((List.mem_cons.mp hp).resolve_left nofun)
  | field placeholder _ ih =>
    rcases List.mem_cons.mp hp with heq | hrest
    · cases heq
      exact placeholder
    · exact ih hrest

/-! ### Literal text -/

/-- A text with its braces doubled is a template without placeholders, and formatting it gives the
text back. -/
theorem formatWith_escape (table : ArgumentTable) (text : Text) :
    formatWith table (escape text) = .ok text := by
  by_cases hempty : text = []
  · subst hempty
    have hparse : parse (escape []) = .ok [] := parse_print Normal.nil
    rw [formatWith, hparse]
    rfl
  · have hparse : parse (escape text) = .ok [.literal text] := by
      have hprint := parse_print (.literal hempty rfl .nil)
      rwa [print, print, List.append_nil] at hprint
    rw [formatWith, hparse]
    simp [renderTokens, Except.map]

/-- Writing a normal list of tokens never fails, and the template that it gives is read as that
list; what a template is read as is normal, and so is read from its own text too; and doubling the
braces of a text makes a template of it. -/
theorem tokens_round_trip :
    (∀ list, Normal list → (∀ p, .field p ∈ list → p.print? = .ok p.print) ∧
      parse (print list) = .ok list) ∧
      (∀ template list, parse template = .ok list → Normal list ∧
        parse (print list) = .ok list) ∧
      ∀ text entries table, ArgumentTable.ofEntries entries = .ok table →
        format (escape text) entries = .ok text := by
  refine ⟨fun list h ↦ ⟨fun p hp ↦ ?_, parse_print h⟩, ?_, ?_⟩
  · exact (h.placeholder_of_mem hp).canonical.print?_eq
  · intro template list hparse
    have hnormal := normal_of_parse hparse
    exact ⟨hnormal, parse_print hnormal⟩
  · intro text entries table htable
    rw [format, htable]
    exact formatWith_escape table text

/-- Braces of literal text on both sides of a placeholder whose fill is a colon, and a text with a
brace that is formatted without arguments. -/
theorem tokens_round_trip_at_seams :
    parse (print [.literal ['{'], .field ⟨.index 10, some ⟨[':'], some .center, none, false, true,
          .decimal, some 7, none⟩⟩, .literal ['}', 'x']]) =
        .ok [.literal ['{'], .field ⟨.index 10, some ⟨[':'], some .center, none, false, true,
          .decimal, some 7, none⟩⟩, .literal ['}', 'x']] ∧
      Normal [.field {}] ∧ format (escape ['a', '}']) [] = .ok ['a', '}'] := by
  have hspec : Spec.parse [':', '^', '0', '7'] =
      .ok ⟨[':'], some .center, none, false, true, .decimal, some 7, none⟩ := rfl
  have hfield : Placeholder.Normal ⟨.index 10, some ⟨[':'], some .center, none, false, true,
      .decimal, some 7, none⟩⟩ := by
    refine ⟨⟨by decide, Numeral.natCast_lt_pow_iff.mpr ?_⟩, ?_⟩
    · exact Nat.lt_of_lt_of_le (by decide) (Nat.pow_le_pow_right (by decide) (by decide : 2 ≤ 4300))
    · rintro _ ⟨⟩
      exact ⟨⟨_, hspec⟩, by decide, by decide⟩
  refine ⟨(tokens_round_trip.1 _ ?_).2, ?_, ?_⟩
  · exact .literal nofun rfl (.field hfield (.literal nofun rfl .nil))
  · have hvalid : ∀ piece ∈ [Piece.field [] {}], piece.Valid :=
      List.forall_mem_singleton.mpr ⟨nofun, rfl⟩
    have hparse : parse ['{', '}'] = .ok [.field {}] :=
      parse_eq_ok_iff.mpr ⟨[.field [] {}], hvalid, rfl, rfl⟩
    exact (tokens_round_trip.2.1 _ _ hparse).1
  · exact tokens_round_trip.2.2 _ _ .empty rfl

end Template

end BraceFormat
