import BraceFormat.Template

/-!
# Pieces and their tokens

A run of literal pieces is one token, whose text has a character for each piece. So the tokens of
two rows of pieces together are those of the one and then those of the other, but for a literal text
that goes on across the seam (`tokens_append`).
-/

set_option autoImplicit false
set_option relaxedAutoImplicit false

namespace BraceFormat

/-- The character of literal text that a piece stands for; none for a placeholder. -/
def Piece.char? : Piece → Option Char
  | char c => some c
  | openBrace => some '{'
  | closeBrace => some '}'
  | field .. => none

namespace Template

/-- Whether a literal text comes first. -/
def startsLiteral : List Token → Bool
  | .literal _ :: _ => true
  | _ => false

theorem tokens_cons_of_char? {piece : Piece} {c : Char} (h : piece.char? = some c)
    (rest : List Piece) : tokens (piece :: rest) = addChar c (tokens rest) := by
  cases piece with
  | char d =>
    obtain rfl := Option.some.inj h
    rfl
  | openBrace =>
    obtain rfl := Option.some.inj h
    rfl
  | closeBrace =>
    obtain rfl := Option.some.inj h
    rfl
  | field body p => cases h

/-- Literal pieces add their characters in front of what follows. -/
theorem tokens_append_of_map_char? {run : List Piece} {text : Text}
    (h : run.map Piece.char? = text.map some) (rest : List Piece) :
    tokens (run ++ rest) = text.foldr addChar (tokens rest) := by
  induction run generalizing text with
  | nil =>
    rw [List.map_nil, List.nil_eq, List.map_eq_nil_iff] at h
    rw [h]
    rfl
  | cons piece run ih =>
    obtain ⟨c, text, rfl, hpiece, hrun⟩ := List.map_eq_cons_iff.mp h.symm
    rw [List.cons_append, tokens_cons_of_char? hpiece.symm, ih hrun.symm]
    rfl

/-- Characters in front of what is no literal text make one. -/
theorem foldr_addChar {text : Text} (hnonempty : text ≠ []) {rest : List Token}
    (hrest : startsLiteral rest = false) : text.foldr addChar rest = .literal text :: rest := by
  induction text with
  | nil => exact absurd rfl hnonempty
  | cons c text ih =>
    rw [List.foldr_cons]
    cases text with
    | nil =>
      cases rest with
      | nil => rfl
      | cons token rest =>
        cases token with
        | literal text => cases hrest
        | field p => rfl
    | cons d text =>
      rw [ih (List.cons_ne_nil d text)]
      rfl

end Template

end BraceFormat
