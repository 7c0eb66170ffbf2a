import MarkupDirectives.Text.Basic

namespace MarkupDirectives
namespace Text

/-!
# What stands where in a text

A token stands at an offset if the text is what lies before the token, the token
itself and what lies after it.  As every character has some width, an offset
determines the cut.
-/

/-- The token stands in the text at the offset. -/
def HasAt (text : Text) (offset : Nat) (token : Text) : Prop :=
  Exists fun before : Text => Exists fun after : Text =>
    text = before ++ (token ++ after) ∧ offset = width before

/-- The offset lies between two characters, or at an end of the text. -/
def IsBoundary (text : Text) (offset : Nat) : Prop := HasAt text offset []

/-- Two cuts of one text at the same offset are the same cut. -/
theorem cut_unique {before rest other after : Text} (same : before ++ rest = other ++ after)
    (wide : width before = width other) : before = other ∧ rest = after := by
  have first : splitAt? (before ++ rest) (width before) = some (before, rest) :=
    splitAt?_eq_some_iff.mpr ⟨rfl, rfl⟩
  have second : splitAt? (before ++ rest) (width before) = some (other, after) :=
    splitAt?_eq_some_iff.mpr ⟨same, wide⟩
  exact Prod.mk.inj (Option.some.inj (first.symm.trans second))

/-- At the end of a known part of the text stands what the remaining text
begins with. -/
theorem hasAt_width_iff {before rest token : Text} :
    HasAt (before ++ rest) (width before) token ↔ token <+: rest := by
  constructor
  · rintro ⟨other, after, same, wide⟩
    exact ⟨after, (cut_unique same wide).2.symm⟩
  · rintro ⟨after, rfl⟩
    exact ⟨before, after, rfl, rfl⟩

theorem HasAt.isBoundary {text token : Text} {offset : Nat} (stands : text.HasAt offset token) :
    text.IsBoundary offset := by
  rcases stands with ⟨before, after, rfl, rfl⟩
  exact ⟨before, token ++ after, rfl, rfl⟩

theorem HasAt.add_width_le {text token : Text} {offset : Nat} (stands : text.HasAt offset token) :
    offset + width token ≤ width text := by
  rcases stands with ⟨before, after, rfl, rfl⟩
  simp only [width_append]
  omega

/-- At the end of the text nothing stands any more. -/
theorem HasAt.lt_width {text token : Text} {offset : Nat} (stands : text.HasAt offset token)
    (nonempty : token ≠ []) : offset < width text := by
  have positive := Nat.pos_of_ne_zero (mt width_eq_zero_iff.mp nonempty)
  have fits := stands.add_width_le
  omega

/-- At most one character stands at an offset. -/
theorem HasAt.char_unique {text : Text} {offset : Nat} {c d : Char} (stands : text.HasAt offset [c])
    (alsoStands : text.HasAt offset [d]) : c = d := by
  rcases stands with ⟨before, after, rfl, rfl⟩
  rcases alsoStands with ⟨other, rest, same, wide⟩
  exact (List.cons.inj (cut_unique same wide).2).1

/-- No boundary lies inside a character. -/
theorem eq_or_le_of_isBoundary {before rest : Text} {c : Char} {offset : Nat}
    (boundary : IsBoundary (before ++ c :: rest) offset) (beyond : width before ≤ offset) :
    offset = width before ∨ width before + c.utf8Size ≤ offset := by
  rcases boundary with ⟨other, after, same, rfl⟩
  rcases List.append_eq_append_iff.mp same with ⟨passed, rfl, ahead⟩ | ⟨passed, rfl, _⟩
  · cases passed with
    | nil => exact Or.inl (by rw [List.append_nil])
    | cons d passed =>
        cases ahead
        right
        simp only [width_append, width_cons]
        omega
  · rw [width_append] at beyond
    left
    rw [width_append]
    omega

end Text
end MarkupDirectives
