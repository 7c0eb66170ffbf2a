import MarkupDirectives.Locator
import MarkupDirectives.Proofs.Text.Occurrence

namespace MarkupDirectives
namespace Text

/-!
# Slices of joined texts

A slice of joined texts is a slice of one of them, or has a part in each.  A text
is cut at an offset in one way only.
-/

variable {left right inside : Text} {start stop : Nat}

theorem slice?_append_left (fits : stop ≤ width left) :
    (left ++ right).slice? start stop = left.slice? start stop := by
  apply Option.ext
  intro inside
  rw [slice?_eq_some_iff, slice?_eq_some_iff]
  constructor
  · rintro ⟨before, after, whole, rfl, rfl⟩
    rcases List.append_eq_append_iff.mp whole with ⟨beyond, kept, _⟩ | ⟨ahead, kept, _⟩
    · have length := congrArg width kept
      rw [width_append, width_append] at length
      have nothing : beyond = [] := width_eq_zero_iff.mp (by omega)
      subst nothing
      exact ⟨before, [], by simpa using kept.symm, rfl, rfl⟩
    · exact ⟨before, ahead, kept, rfl, rfl⟩
  · rintro ⟨before, after, rfl, rfl, rfl⟩
    exact ⟨before, after ++ right, by rw [List.append_assoc], rfl, rfl⟩

theorem slice?_append_right :
    (left ++ right).slice? (start + width left) (stop + width left) = right.slice? start stop := by
  apply Option.ext
  intro inside
  rw [slice?_eq_some_iff, slice?_eq_some_iff]
  constructor
  · rintro ⟨before, after, whole, wide, length⟩
    rw [List.append_assoc] at whole
    rcases List.append_eq_append_iff.mp whole with ⟨behind, rfl, same⟩ | ⟨missing, same, kept⟩
    · rw [width_append] at wide
      exact ⟨behind, after, by rw [same, List.append_assoc], by omega, by omega⟩
    · have shorter := congrArg width same
      rw [width_append] at shorter
      have nothing : missing = [] := width_eq_zero_iff.mp (by omega)
      subst nothing
      exact ⟨[], after, by simpa using kept.symm, by rw [width_nil]; omega, by omega⟩
  · rintro ⟨before, after, rfl, rfl, rfl⟩
    refine ⟨left ++ before, after, by simp, ?_, by omega⟩
    rw [width_append, Nat.add_comm]

/-- A slice that goes over the joint is put together from the two texts. -/
theorem slice?_across {ending beginning : Text}
    (first : left.slice? start (width left) = some ending)
    (second : right.slice? 0 stop = some beginning) :
    (left ++ right).slice? start (stop + width left) = some (ending ++ beginning) := by
  rcases slice?_eq_some_iff.mp first with ⟨before, nothing, rfl, rfl, length⟩
  rcases slice?_eq_some_iff.mp second with ⟨front, after, rfl, empty, rfl⟩
  have ended : nothing = [] := by
    rw [width_append, width_append] at length
    exact width_eq_zero_iff.mp (by omega)
  have begins : front = [] := width_eq_zero_iff.mp empty.symm
  subst ended begins
  refine slice?_eq_some_iff.mpr ⟨before, after, by simp, rfl, ?_⟩
  simp only [width_append, width_nil]
  omega

end Text

namespace Span

open Text

variable {left right : Text} {span : Span} {start stop : Nat}

/-! ## The text of a span -/

theorem text_eq_nil {markup : Text} (reversed : span.stop ≤ span.start) :
    span.text markup = [] := by
  unfold text
  cases cut : markup.slice? span.start span.stop with
  | none => rfl
  | some inside =>
      rcases slice?_eq_some_iff.mp cut with ⟨_, _, _, _, length⟩
      have empty : width inside = 0 := by omega
      exact width_eq_zero_iff.mp empty

/-- A span within the first of two joined texts covers the same text there. -/
theorem text_append_left (fits : span.stop ≤ width left) :
    span.text (left ++ right) = span.text left := by
  rw [text, text, slice?_append_left fits]

/-- A span behind the first text covers the same text as in the second. -/
theorem text_append_right :
    text ⟨start + width left, stop + width left⟩ (left ++ right) = text ⟨start, stop⟩ right := by
  rw [text, text, slice?_append_right]

theorem text_across (begins : left.IsBoundary start) (ends : right.IsBoundary stop) :
    text ⟨start, stop + width left⟩ (left ++ right) =
      text ⟨start, width left⟩ left ++ text ⟨0, stop⟩ right := by
  rcases begins with ⟨before, ending, rfl, rfl⟩
  rcases ends with ⟨beginning, after, rfl, rfl⟩
  have first :
      (before ++ ([] ++ ending)).slice? (width before) (width (before ++ ([] ++ ending))) =
        some ending :=
    slice?_eq_some_iff.mpr ⟨before, [], by simp, rfl, by simp⟩
  have second : (beginning ++ ([] ++ after)).slice? 0 (width beginning) = some beginning :=
    slice?_eq_some_iff.mpr ⟨[], after, by simp, rfl, by simp⟩
  rw [text, text, text, slice?_across first second, first, second]
  rfl

end Span
end MarkupDirectives
