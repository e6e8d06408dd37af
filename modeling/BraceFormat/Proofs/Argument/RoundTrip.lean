import BraceFormat.Proofs.Argument.Kind

/-!
# Arguments that are written and read again

An argument is written as its text, behind its name and an `=` if it has one. Neither has blanks at
its ends and no `=` is in the name, so a named argument is cut again where it was put together,
whatever its text is. Without a name, an `=` in the text is taken for the end of one, and the text
that is read is shorter than the one that was written (`Argument.parse_print_iff`).
-/

set_option autoImplicit false
set_option relaxedAutoImplicit false

namespace BraceFormat

/-! ### Stripped texts -/

section Strips

variable {text core : Text}

theorem Strips.mem (h : Strips text core) {c : Char} (hc : c ∈ core) : c ∈ text := by
  obtain ⟨⟨front, back, rfl, -⟩, -, -⟩ := h
  exact List.mem_append_left back (List.mem_append_right front hc)

theorem Strips.length_le (h : Strips text core) : core.length ≤ text.length := by
  obtain ⟨⟨front, back, rfl, -⟩, -, -⟩ := h
  simp only [List.length_append]
  omega

/-- A stripped text is not stripped any further. -/
theorem Strips.stripped (h : Strips text core) : Strips core core where
  blanks := ⟨[], [], (List.append_nil core).symm, nofun⟩
  head := h.head
  last := h.last

end Strips

namespace Argument

/-! ### Cutting a written argument -/

section SplitsName

variable {token text : Text} {name : Option Text}

theorem SplitsName.strips (h : SplitsName token name text) : Strips text text := by
  cases h with
  | unnamed _ htext => exact htext.stripped
  | blank _ _ htext => exact htext.stripped
  | named _ _ _ htext => exact htext.stripped

/-- What stands behind an `=` is shorter than the whole. -/
theorem SplitsName.length_lt (h : SplitsName token name text) (hmark : '=' ∈ token) :
    text.length < token.length := by
  have hbehind : ∀ {left right : Text}, Strips right text →
      text.length < (left ++ '=' :: right).length := by
    intro left right hright
    have hle := hright.length_le
    simp only [List.length_append, List.length_cons]
    omega
  cases h with
  | unnamed hnone _ => exact absurd hmark hnone
  | blank _ _ htext => exact hbehind htext
  | named _ _ _ htext => exact hbehind htext

/-- A name and a text that were cut apart are so again when they are put together. -/
theorem SplitsName.rejoined {name : Text} (h : SplitsName token (some name) text) :
    SplitsName (name ++ '=' :: text) (some name) text := by
  have htext := h.strips
  cases h with
  | named hmark hleft hname _ =>
    exact SplitsName.named (fun hmem ↦ hmark (hleft.mem hmem)) hleft.stripped hname htext

end SplitsName

/-- Reading cuts a token and reads the text behind the name. -/
theorem parse_eq_ok_iff {token : Text} {position : Int} {argument : Argument} :
    parse token position = .ok argument ↔
      SplitsName token argument.name argument.raw ∧
        Value.read argument.raw = .ok argument.value ∧ argument.position = position := by
  rw [parse, map_eq_ok_iff, splitsName_iff]
  constructor
  · rintro ⟨value, hread, rfl⟩
    exact ⟨rfl, hread, rfl⟩
  · rintro ⟨hsplit, hread, rfl⟩
    rw [hsplit]
    exact ⟨argument.value, hread, rfl⟩

/-- The written form of an argument is cut where it was put together, if that is behind a name or if
there is nothing to cut at. -/
theorem splitsName_print_iff {token : Text} {argument : Argument}
    (h : SplitsName token argument.name argument.raw) :
    SplitsName argument.print argument.name argument.raw ↔
      argument.name ≠ none ∨ '=' ∉ argument.raw := by
  obtain ⟨position, name, value, raw⟩ := argument
  cases name with
  | some name => exact iff_of_true h.rejoined (Or.inl nofun)
  | none =>
    rw [or_iff_right fun hnamed ↦ hnamed rfl]
    refine ⟨fun hprint hmark ↦ ?_, fun hmark ↦ SplitsName.unnamed hmark h.strips⟩
    exact Nat.lt_irrefl _ (hprint.length_lt hmark)

/-- An argument that was read is the same when it is written and read again just if it has a name
or no `=` is in its text. Otherwise its text comes back shorter. Blanks around a name and a text do
not matter, so whatever they were, an argument with a name is read and written in the same way from
then on. -/
theorem parse_print_iff {token : Text} {position : Int} {argument : Argument}
    (h : parse token position = .ok argument) :
    (parse argument.print argument.position = .ok argument ↔
        argument.name ≠ none ∨ '=' ∉ argument.raw) ∧
      (argument.name = none → '=' ∈ argument.raw → ∀ reread,
        parse argument.print argument.position = .ok reread →
          reread.raw.length < argument.raw.length) ∧
      (argument.name ≠ none →
        (∀ other, SplitsName other argument.name argument.raw →
          parse other argument.position = .ok argument) ∧
        (parse argument.print argument.position).map print = .ok argument.print) := by
  obtain ⟨hsplits, hread, -⟩ := parse_eq_ok_iff.mp h
  have hiff : parse argument.print argument.position = .ok argument ↔
      argument.name ≠ none ∨ '=' ∉ argument.raw := by
    rw [parse_eq_ok_iff, ← splitsName_print_iff hsplits]
    exact and_iff_left ⟨hread, rfl⟩
  refine ⟨hiff, fun hnone hmark reread hreread ↦ ?_, fun hnamed ↦ ⟨fun other hother ↦ ?_, ?_⟩⟩
  · have hprint : argument.print = argument.raw := by
      rw [print, hnone]
    have hcut := (parse_eq_ok_iff.mp hreread).1
    rw [hprint] at hcut
    exact hcut.length_lt hmark
  · exact parse_eq_ok_iff.mpr ⟨hother, hread, rfl⟩
  · rw [hiff.mpr (Or.inl hnamed)]
    rfl

/-- Blanks within a name and an `=` within its text are kept, but behind no name the text is cut. -/
theorem parse_print_iff_marks :
    parse " a b = c=d\t".toList 3 =
        .ok ⟨3, some "a b".toList, .string "c=d".toList, "c=d".toList⟩ ∧
      parse "a b=c=d".toList 3 =
        .ok ⟨3, some "a b".toList, .string "c=d".toList, "c=d".toList⟩ ∧
      parse " = c=d".toList 0 = .ok ⟨0, none, .string "c=d".toList, "c=d".toList⟩ ∧
      parse "c=d".toList 0 ≠ .ok ⟨0, none, .string "c=d".toList, "c=d".toList⟩ := by
  have hnamed : parse " a b = c=d\t".toList 3 =
      .ok ⟨3, some "a b".toList, .string "c=d".toList, "c=d".toList⟩ := by decide +kernel
  have hunnamed : parse " = c=d".toList 0 =
      .ok ⟨0, none, .string "c=d".toList, "c=d".toList⟩ := by decide +kernel
  refine ⟨hnamed, ?_, hunnamed, fun hagain ↦ ?_⟩
  · exact (parse_print_iff hnamed).1.mpr (Or.inl nofun)
  · rcases (parse_print_iff hunnamed).1.mp hagain with hname | hmark
    · exact hname rfl
    · exact hmark (by decide)

end Argument

end BraceFormat
