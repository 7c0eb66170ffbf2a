import MarkupDirectives.Proofs.Cursor.Reading
import MarkupDirectives.Proofs.Text.Slice

namespace MarkupDirectives

open Text Cursor

/-!
# Cuts at offsets

Scanning that keeps nothing but an offset has to cut the text there whenever it
looks ahead.  These functions give `none` where a cut is not possible, and for
nothing else.
-/

namespace Text

variable {text inside rest : Text} {start stop offset : Nat}

/-- A text is divided at its boundaries, and at no other offset. -/
theorem isBoundary_iff_isSome : text.IsBoundary offset ↔ (text.splitAt? offset).isSome := by
  rw [Option.isSome_iff_exists]
  constructor
  · rintro ⟨before, rest, whole, wide⟩
    exact ⟨(before, rest), splitAt?_eq_some_iff.mpr ⟨whole, wide⟩⟩
  · rintro ⟨⟨before, rest⟩, found⟩
    exact ⟨before, rest, splitAt?_eq_some_iff.mp found⟩

theorem IsBoundary.le_width (boundary : text.IsBoundary offset) : offset ≤ width text :=
  boundary.add_width_le

/-- A slice can be cut out exactly if its ends are in order, do not lie beyond
the text, and are boundaries. -/
theorem isSome_slice?_iff :
    (text.slice? start stop).isSome ↔
      start ≤ stop ∧ stop ≤ width text ∧ text.IsBoundary start ∧ text.IsBoundary stop := by
  rw [Option.isSome_iff_exists]
  constructor
  · rintro ⟨inside, found⟩
    rcases slice?_eq_some_iff.mp found with ⟨before, after, rfl, rfl, rfl⟩
    have first : IsBoundary (before ++ inside ++ after) (width before) :=
      ⟨before, inside ++ after, List.append_assoc _ _ _, rfl⟩
    have second : IsBoundary (before ++ inside ++ after) (width before + width inside) :=
      ⟨before ++ inside, after, rfl, (width_append _ _).symm⟩
    exact ⟨Nat.le_add_right _ _, second.le_width, first, second⟩
  · rintro ⟨ordered, _, ⟨before, rest, rfl, rfl⟩, ⟨beginning, after, same, rfl⟩⟩
    rw [List.nil_append, List.nil_append] at same
    rcases List.append_eq_append_iff.mp same with ⟨inside, rfl, ahead⟩ | ⟨passed, rfl, _⟩
    · refine ⟨inside, slice?_eq_some_iff.mpr ⟨before, after, ?_, rfl, width_append _ _⟩⟩
      rw [List.nil_append, same]
    · -- The second end does not lie in front of the first, so that nothing is between the two.
      rw [width_append] at ordered
      have nothing : passed = [] := width_eq_zero_iff.mp (by omega)
      subst nothing
      refine ⟨[], slice?_eq_some_iff.mpr ⟨beginning ++ [], rest, ?_, rfl, ?_⟩⟩
      · rw [List.nil_append, List.append_nil, List.append_nil]
      · rw [List.append_nil, width_nil, Nat.add_zero]

/-- The text from an offset on. -/
def ahead? (text : Text) (offset : Nat) : Option Text := text.slice? offset (width text)

/-- What lies ahead of an offset is what a cursor there has with it. -/
theorem ahead?_eq_some_iff : text.ahead? offset = some rest ↔ LiesIn ⟨offset, rest⟩ text := by
  rw [ahead?, slice?_eq_some_iff]
  constructor
  · rintro ⟨before, after, rfl, rfl, whole⟩
    rw [width_append, width_append] at whole
    have nothing : after = [] := width_eq_zero_iff.mp (by omega)
    subst nothing
    exact liesIn_of_eq (List.append_nil _) rfl
  · intro inText
    rcases inText.exists_before with ⟨before, whole, wide⟩
    exact ⟨before, [], whole.trans (List.append_nil _).symm, wide, inText.offset_add_width.symm⟩

/-- The offset behind the longest run of accepted characters ahead. -/
def skip? (text : Text) (offset : Nat) (accept : Char -> Bool) : Option Nat :=
  (text.ahead? offset).map fun rest => offset + width (rest.takeWhile accept)

end Text

namespace Cursor

variable {cursor : Cursor} {text : Text}

theorem LiesIn.ahead?_eq (inText : cursor.LiesIn text) :
    text.ahead? cursor.offset = some cursor.rest :=
  ahead?_eq_some_iff.mpr inText

theorem LiesIn.skip?_eq (inText : cursor.LiesIn text) (accept : Char -> Bool) :
    text.skip? cursor.offset accept = some (cursor.skipWhile accept).offset := by
  rw [skip?, inText.ahead?_eq]
  rfl

theorem LiesIn.skipWhile (inText : cursor.LiesIn text) (accept : Char -> Bool) :
    (cursor.skipWhile accept).LiesIn text :=
  inText.of_reads (reads_skipWhile cursor accept)

end Cursor
end MarkupDirectives
