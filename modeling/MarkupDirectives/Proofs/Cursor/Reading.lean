import MarkupDirectives.Cursor
import MarkupDirectives.Proofs.Text.Occurrence

namespace MarkupDirectives
namespace Cursor

open Text

/-!
# Reading from place to place

Every scanning function goes from a cursor to a later one.  `Reads` says that a
certain text lies between the two.
-/

/-- Reading `passed` leads from the place `earlier` to the place `later`. -/
structure Reads (earlier : Cursor) (passed : Text) (later : Cursor) : Prop where
  ahead : earlier.rest = passed ++ later.rest
  offset : later.offset = earlier.offset + width passed

theorem Reads.refl (cursor : Cursor) : cursor.Reads [] cursor := ⟨rfl, rfl⟩

theorem Reads.trans {first second third : Cursor} {passed further : Text}
    (reads : first.Reads passed second) (goesOn : second.Reads further third) :
    first.Reads (passed ++ further) third where
  ahead := by rw [reads.ahead, goesOn.ahead, List.append_assoc]
  offset := by rw [goesOn.offset, reads.offset, width_append, Nat.add_assoc]

/-- What is read in one go can be read in two. -/
theorem Reads.exists_between {earlier later : Cursor} {passed further : Text}
    (reads : earlier.Reads (passed ++ further) later) :
    Exists fun place : Cursor => earlier.Reads passed place ∧ place.Reads further later := by
  refine ⟨⟨earlier.offset + width passed, further ++ later.rest⟩, ⟨?_, rfl⟩, ⟨rfl, ?_⟩⟩
  · rw [reads.ahead, List.append_assoc]
  · rw [reads.offset, width_append, Nat.add_assoc]

/-- What lies between two places is determined by them. -/
theorem Reads.passed_unique {earlier later : Cursor} {passed other : Text}
    (reads : earlier.Reads passed later) (alsoReads : earlier.Reads other later) : passed = other :=
  List.append_cancel_right (reads.ahead.symm.trans alsoReads.ahead)

theorem Reads.offset_le {earlier later : Cursor} {passed : Text}
    (reads : earlier.Reads passed later) : earlier.offset ≤ later.offset := by
  rw [reads.offset]
  exact Nat.le_add_right _ _

theorem reads_cons (offset : Nat) (c : Char) (rest : Text) :
    Reads ⟨offset, c :: rest⟩ [c] ⟨offset + c.utf8Size, rest⟩ := ⟨rfl, rfl⟩

theorem reads_of_after? {cursor next : Cursor} {token : Text}
    (found : cursor.after? token = some next) : cursor.Reads token next :=
  ⟨(after?_eq_some_iff.mp found).1, (after?_eq_some_iff.mp found).2⟩

theorem after?_eq_none_iff {cursor : Cursor} {token : Text} :
    cursor.after? token = none ↔ ¬ token <+: cursor.rest := by
  constructor
  · rintro none ⟨rest, begins⟩
    have found : cursor.after? token = some ⟨cursor.offset + width token, rest⟩ :=
      after?_eq_some_iff.mpr ⟨begins.symm, rfl⟩
    rw [none] at found
    cases found
  · intro different
    cases found : cursor.after? token with
    | none => rfl
    | some next => exact absurd ⟨next.rest, (reads_of_after? found).ahead.symm⟩ different

theorem reads_skipWhile (cursor : Cursor) (accept : Char -> Bool) :
    cursor.Reads (cursor.rest.takeWhile accept) (cursor.skipWhile accept) :=
  ⟨List.takeWhile_append_dropWhile.symm, rfl⟩

/-- A run of accepted characters that nothing accepted follows is skipped as a
whole. -/
theorem skipWhile_eq_of_reads {cursor next : Cursor} {passed : Text} {accept : Char -> Bool}
    (reads : cursor.Reads passed next) (accepted : forall c, c ∈ passed -> accept c = true)
    (ends : forall c, next.rest.head? = some c -> accept c = false) :
    cursor.skipWhile accept = next := by
  rcases next with ⟨offset, rest⟩
  have nothing : rest.takeWhile accept = [] ∧ rest.dropWhile accept = rest := by
    cases rest with
    | nil => exact ⟨rfl, rfl⟩
    | cons c rest =>
        have rejected : ¬ accept c = true := Bool.eq_false_iff.mp (ends c rfl)
        exact ⟨List.takeWhile_cons_of_neg rejected, List.dropWhile_cons_of_neg rejected⟩
  rw [skipWhile, reads.ahead, List.takeWhile_append_of_pos accepted,
    List.dropWhile_append_of_pos accepted, nothing.1, nothing.2, List.append_nil, ← reads.offset]

/-! ## Places of a given text -/

/-- The cursor is reached from the beginning of the text. -/
def LiesIn (cursor : Cursor) (text : Text) : Prop :=
  Exists fun before : Text => (start text).Reads before cursor

theorem liesIn_start (text : Text) : (start text).LiesIn text := ⟨[], Reads.refl _⟩

theorem LiesIn.of_reads {earlier later : Cursor} {passed text : Text}
    (inside : earlier.LiesIn text) (reads : earlier.Reads passed later) : later.LiesIn text := by
  rcases inside with ⟨before, reached⟩
  exact ⟨before ++ passed, reached.trans reads⟩

/-- The text before a place and its remaining text make up the whole. -/
theorem LiesIn.exists_before {cursor : Cursor} {text : Text} (inside : cursor.LiesIn text) :
    Exists fun before : Text => text = before ++ cursor.rest ∧ cursor.offset = width before := by
  rcases inside with ⟨before, reached⟩
  refine ⟨before, reached.ahead, ?_⟩
  rw [reached.offset]
  exact Nat.zero_add _

theorem liesIn_of_eq {cursor : Cursor} {before text : Text} (whole : text = before ++ cursor.rest)
    (wide : cursor.offset = width before) : cursor.LiesIn text :=
  ⟨before, whole, wide.trans (Nat.zero_add _).symm⟩

/-- A place of a text is determined by its offset. -/
theorem LiesIn.eq_of_offset_eq {cursor other : Cursor} {text : Text} (inside : cursor.LiesIn text)
    (alsoInside : other.LiesIn text) (same : cursor.offset = other.offset) : cursor = other := by
  rcases inside.exists_before with ⟨before, whole, wide⟩
  rcases alsoInside.exists_before with ⟨alsoBefore, alsoWhole, alsoWide⟩
  have rest := (cut_unique (whole.symm.trans alsoWhole) (wide.symm.trans (same.trans alsoWide))).2
  cases cursor
  cases other
  cases same
  cases rest
  rfl

/-- What stands at a place is what its remaining text begins with. -/
theorem LiesIn.hasAt_iff {cursor : Cursor} {text token : Text} (inside : cursor.LiesIn text) :
    text.HasAt cursor.offset token ↔ token <+: cursor.rest := by
  rcases inside.exists_before with ⟨before, rfl, wide⟩
  rw [wide]
  exact hasAt_width_iff

theorem LiesIn.not_hasAt {cursor : Cursor} {text token : Text} (inside : cursor.LiesIn text)
    (absent : cursor.after? token = none) : ¬ text.HasAt cursor.offset token :=
  fun stands => after?_eq_none_iff.mp absent (inside.hasAt_iff.mp stands)

theorem LiesIn.hasAt_of_reads {earlier later : Cursor} {passed text : Text}
    (inside : earlier.LiesIn text) (reads : earlier.Reads passed later) :
    text.HasAt earlier.offset passed :=
  inside.hasAt_iff.mpr ⟨later.rest, reads.ahead.symm⟩

theorem LiesIn.isBoundary {cursor : Cursor} {text : Text} (inside : cursor.LiesIn text) :
    text.IsBoundary cursor.offset :=
  inside.hasAt_iff.mpr List.nil_prefix

theorem LiesIn.offset_add_width {cursor : Cursor} {text : Text} (inside : cursor.LiesIn text) :
    cursor.offset + width cursor.rest = width text := by
  rcases inside.exists_before with ⟨before, rfl, wide⟩
  rw [wide, width_append]

theorem exists_liesIn_of_isBoundary {text : Text} {offset : Nat}
    (boundary : text.IsBoundary offset) :
    Exists fun rest : Text => LiesIn ⟨offset, rest⟩ text := by
  rcases boundary with ⟨before, rest, rfl, wide⟩
  have inText : LiesIn ⟨offset, rest⟩ (before ++ ([] ++ rest)) := liesIn_of_eq rfl wide
  exact ⟨rest, inText⟩

/-- Between two places of a text lies what is read from the one to the
other. -/
theorem LiesIn.slice?_eq {earlier later : Cursor} {passed text : Text}
    (inside : earlier.LiesIn text) (reads : earlier.Reads passed later) :
    text.slice? earlier.offset later.offset = some passed := by
  rcases inside.exists_before with ⟨before, rfl, wide⟩
  refine slice?_eq_some_iff.mpr ⟨before, later.rest, ?_, wide, reads.offset⟩
  rw [reads.ahead, List.append_assoc]

end Cursor
end MarkupDirectives
