import BraceFormat.Template

/-!
# Scanning takes pieces

Scanning a template case by case, and the two directions that follow by induction. Valid pieces are
found again in the text that they take, whatever stands behind (`scan_append`), and the pieces in
front of the first defect are valid and take the text up to there (`scan_eq`).
-/

set_option autoImplicit false
set_option relaxedAutoImplicit false

namespace BraceFormat

/-- A piece that scanning can find: a character that is no brace, a doubled brace, or a placeholder
with the body that it is read from. -/
def Piece.Valid : Piece → Prop
  | char c => Template.isBrace c = false
  | openBrace => True
  | closeBrace => True
  | field body placeholder =>
    (∀ c ∈ body, Template.isBrace c = false) ∧ Placeholder.parse body = .ok placeholder

namespace Template

theorem takeBody?_append {body : Text} (h : ∀ c ∈ body, isBrace c = false) (behind : Text) :
    takeBody? (body ++ '}' :: behind) = some (body, behind) := by
  have hbody : ∀ c ∈ body, (!isBrace c) = true := fun c hc ↦ by simp [h c hc]
  have hclose : isBrace '}' = true := by decide
  simp [takeBody?, List.dropWhile_append_of_pos hbody, List.takeWhile_append_of_pos hbody, hclose]

theorem takeBody?_eq_some {text body behind : Text} (h : takeBody? text = some (body, behind)) :
    (∀ c ∈ body, isBrace c = false) ∧ text = body ++ '}' :: behind := by
  unfold takeBody? at h
  split at h
  · rename_i rest hdrop
    obtain ⟨rfl, rfl⟩ := Prod.mk.inj (Option.some.inj h)
    refine ⟨fun c hc ↦ ?_, ?_⟩
    · simpa using List.all_eq_true.mp List.all_takeWhile c hc
    · rw [← hdrop, List.takeWhile_append_dropWhile]
  · cases h

/-! ### One step -/

theorem scan_nil : scan [] = ⟨[], none⟩ := by
  rw [scan]

theorem scan_openBrace (rest : Text) :
    scan ('{' :: '{' :: rest) = (scan rest).add .openBrace := by
  rw [scan]

theorem scan_closeBrace (rest : Text) :
    scan ('}' :: '}' :: rest) = (scan rest).add .closeBrace := by
  rw [scan]

theorem scan_char {c : Char} (h : isBrace c = false) (rest : Text) :
    scan (c :: rest) = (scan rest).add (.char c) := by
  simp only [isBrace, Bool.or_eq_false_iff, decide_eq_false_iff_not] at h
  rw [scan]
  · exact fun _ hopen _ ↦ h.1 hopen
  · exact fun _ hclose _ ↦ h.2 hclose
  · exact h.1
  · exact h.2

theorem scan_unmatchedClose {rest : Text} (h : rest.head? ≠ some '}') :
    scan ('}' :: rest) = ⟨[], some .unmatchedClose⟩ := by
  rw [scan]
  rintro rest rfl
  exact h rfl

theorem scan_unterminated {rest : Text} (hhead : rest.head? ≠ some '{')
    (h : takeBody? rest = none) : scan ('{' :: rest) = ⟨[], some .unterminated⟩ := by
  rw [scan]
  · split
    · rfl
    · simp_all
  · rintro rest rfl
    exact hhead rfl

theorem scan_field {rest body behind : Text} (hhead : rest.head? ≠ some '{')
    (h : takeBody? rest = some (body, behind)) :
    scan ('{' :: rest) =
      match Placeholder.parse body with
      | .error error => ⟨[], some (.invalidField error)⟩
      | .ok placeholder => (scan behind).add (.field body placeholder) := by
  rw [scan]
  · split
    · rename_i hnone
      rw [h] at hnone
      cases hnone
    · rename_i found left hsome
      rw [h] at hsome
      obtain ⟨rfl, rfl⟩ := Prod.mk.inj (Option.some.inj hsome)
      cases Placeholder.parse body <;> rfl
  · rintro rest rfl
    exact hhead rfl

/-- A placeholder at the front that nothing closes is reported there. -/
theorem parse_unterminated {rest : Text} (hhead : rest.head? ≠ some '{')
    (h : takeBody? rest = none) :
    parse ('{' :: rest) = .error (.unterminatedPlaceholder ('{' :: rest) 0) := by
  rw [parse, scan_unterminated hhead h]
  rfl

/-! ### All pieces -/

/-- Valid pieces in front of a text are found, and then those of the text. -/
theorem scan_append {pieces : List Piece} (h : ∀ piece ∈ pieces, piece.Valid) (rest : Text) :
    scan (pieces.flatMap Piece.source ++ rest) =
      ⟨pieces ++ (scan rest).pieces, (scan rest).defect⟩ := by
  induction pieces with
  | nil => rfl
  | cons piece pieces ih =>
    have hpiece := h piece List.mem_cons_self
    have hrest := ih fun other hother ↦ h other (List.mem_cons_of_mem piece hother)
    rw [List.flatMap_cons, List.append_assoc]
    cases piece with
    | char c =>
      rw [Piece.source, List.singleton_append, scan_char hpiece, hrest]
      rfl
    | openBrace =>
      rw [Piece.source, List.cons_append, List.singleton_append, scan_openBrace, hrest]
      rfl
    | closeBrace =>
      rw [Piece.source, List.cons_append, List.singleton_append, scan_closeBrace, hrest]
      rfl
    | field body placeholder =>
      obtain ⟨hbody, hparse⟩ := hpiece
      have hsource : braced body ++ (pieces.flatMap Piece.source ++ rest) =
          '{' :: (body ++ '}' :: (pieces.flatMap Piece.source ++ rest)) := by
        simp [braced]
      have hhead : (body ++ '}' :: (pieces.flatMap Piece.source ++ rest)).head? ≠ some '{' := by
        cases body with
        | nil => simp
        | cons c body =>
          have hc := hbody c List.mem_cons_self
          simp only [isBrace, Bool.or_eq_false_iff, decide_eq_false_iff_not] at hc
          simpa using hc.1
      rw [Piece.source, hsource, scan_field hhead (takeBody?_append hbody _), hparse, hrest]
      rfl

/-- A scan has found valid pieces that take a template from its front, and all of it unless there is
a defect. -/
structure Covers (found : Scan) (template : Text) : Prop where
  valid : ∀ piece ∈ found.pieces, piece.Valid
  front : found.pieces.flatMap Piece.source <+: template
  whole : found.defect = none → found.pieces.flatMap Piece.source = template

theorem covers_defect (defect : TemplateDefect) (template : Text) :
    Covers ⟨[], some defect⟩ template where
  valid := fun _ hpiece ↦ absurd hpiece List.not_mem_nil
  front := List.nil_prefix
  whole := fun hnone ↦ nomatch hnone

theorem Covers.add {found : Scan} {rest : Text} (h : Covers found rest) {piece : Piece}
    (hpiece : piece.Valid) : Covers (found.add piece) (piece.source ++ rest) where
  valid := by
    intro other hother
    rcases List.mem_cons.mp hother with rfl | hother
    · exact hpiece
    · exact h.valid other hother
  front := by
    rw [Scan.add, List.flatMap_cons]
    exact (List.prefix_append_right_inj _).mpr h.front
  whole := by
    intro hnone
    rw [Scan.add, List.flatMap_cons, h.whole hnone]

/-- Scanning finds valid pieces of the template. -/
theorem covers_scan (template : Text) : Covers (scan template) template := by
  fun_induction scan template with
  | case1 => exact ⟨fun _ hpiece ↦ absurd hpiece List.not_mem_nil, List.nil_prefix, fun _ ↦ rfl⟩
  | case2 rest ih =>
    have hpiece : Piece.openBrace.Valid := trivial
    exact ih.add hpiece
  | case3 rest ih =>
    have hpiece : Piece.closeBrace.Valid := trivial
    exact ih.add hpiece
  | case4 => exact covers_defect _ _
  | case5 => exact covers_defect _ _
  | case6 rest hhead body behind hbody placeholder hparse ih =>
    obtain ⟨hbraces, rfl⟩ := takeBody?_eq_some hbody
    have hpiece : (Piece.field body placeholder).Valid := ⟨hbraces, hparse⟩
    simpa [Piece.source, braced] using ih.add hpiece
  | case7 => exact covers_defect _ _
  | case8 c rest _ _ hopen hclose ih =>
    have hpiece : (Piece.char c).Valid := by
      simp only [Piece.Valid, isBrace, Bool.or_eq_false_iff, decide_eq_false_iff_not]
      exact ⟨hopen, hclose⟩
    exact ih.add hpiece

/-- The pieces of a template without a defect are the only valid ones that make it up. -/
theorem scan_eq_iff {template : Text} {pieces : List Piece} :
    scan template = ⟨pieces, none⟩ ↔
      (∀ piece ∈ pieces, piece.Valid) ∧ pieces.flatMap Piece.source = template := by
  constructor
  · intro hscan
    have hcovers := covers_scan template
    rw [hscan] at hcovers
    exact ⟨hcovers.valid, hcovers.whole rfl⟩
  · rintro ⟨hvalid, rfl⟩
    have hscan := scan_append hvalid []
    rwa [List.append_nil, scan_nil, List.append_nil] at hscan

/-- A template is accepted just if it is made up of valid pieces. -/
theorem parse_eq_ok_iff {template : Text} {result : List Token} :
    parse template = .ok result ↔ ∃ pieces, (∀ piece ∈ pieces, piece.Valid) ∧
      pieces.flatMap Piece.source = template ∧ tokens pieces = result := by
  unfold parse
  constructor
  · intro hparse
    rcases hscan : scan template with ⟨pieces, _ | defect⟩
    · rw [hscan] at hparse
      obtain ⟨hvalid, hwhole⟩ := scan_eq_iff.mp hscan
      exact ⟨pieces, hvalid, hwhole, Except.ok.inj hparse⟩
    · rw [hscan] at hparse
      cases hparse
  · rintro ⟨pieces, hvalid, hwhole, rfl⟩
    rw [scan_eq_iff.mpr ⟨hvalid, hwhole⟩]

end Template

end BraceFormat
