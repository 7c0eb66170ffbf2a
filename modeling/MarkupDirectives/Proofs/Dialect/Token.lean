import MarkupDirectives.Dialect
import MarkupDirectives.Proofs.Cursor.Reading

namespace MarkupDirectives
namespace Dialect

open Text Cursor

/-!
# The tokens of a dialect

What the functions find that look for a token ahead of a cursor, in terms of what
stands where in a text.
-/

/-! ## Markers -/

/-- The text is the marker, in a case that the dialect admits. -/
def SpellsMarker (dialect : Dialect) (text : Text) : Prop :=
  if dialect.ignoreCase = true then text.map Char.toLower = dialect.marker.map Char.toLower
  else text = dialect.marker

/-- A marker begins in the text at the offset.  The empty marker begins
nowhere. -/
def MarkerAt (dialect : Dialect) (text : Text) (offset : Nat) : Prop :=
  dialect.marker ≠ [] ∧ Exists fun head : Text => dialect.SpellsMarker head ∧ text.HasAt offset head

theorem isMarker_eq_true_iff {dialect : Dialect} {text : Text} :
    dialect.isMarker text = true ↔ dialect.SpellsMarker text := by
  simp only [isMarker, SpellsMarker, Bool.or_eq_true, Bool.and_eq_true, beq_iff_eq]
  by_cases ignores : dialect.ignoreCase = true
  · simp only [ignores, if_true, true_and]
    constructor
    · rintro (same | same)
      · rw [same]
      · exact same
    · exact Or.inr
  · simp only [ignores, Bool.false_eq_true, false_and, or_false, if_false]

theorem spellsMarker_marker (dialect : Dialect) : dialect.SpellsMarker dialect.marker := by
  unfold SpellsMarker
  split <;> rfl

theorem SpellsMarker.length_eq {dialect : Dialect} {head : Text}
    (spells : dialect.SpellsMarker head) :
    head.length = dialect.marker.length :=
  length_of_isMarker (isMarker_eq_true_iff.mpr spells)

theorem SpellsMarker.width_pos {dialect : Dialect} {head : Text}
    (spells : dialect.SpellsMarker head) (nonempty : dialect.marker ≠ []) : 0 < width head := by
  have positive := List.length_pos_iff.mpr nonempty
  rw [← spells.length_eq] at positive
  exact Nat.pos_of_ne_zero fun zero =>
    absurd (width_eq_zero_iff.mp zero) (List.length_pos_iff.mp positive)

/-- The marker that is read is what the remaining text begins with. -/
theorem afterMarker?_eq_some_iff {dialect : Dialect} {cursor next : Cursor} :
    dialect.afterMarker? cursor = some next ↔
      dialect.marker ≠ [] ∧
        Exists fun head : Text => dialect.SpellsMarker head ∧ cursor.Reads head next := by
  simp only [afterMarker?]
  constructor
  · intro found
    split at found
    · next starts =>
        cases found
        exact ⟨starts.1, _, isMarker_eq_true_iff.mp starts.2, (List.take_append_drop _ _).symm, rfl⟩
    · cases found
  · rintro ⟨nonempty, head, spells, ahead, offset⟩
    have headEq : cursor.rest.take dialect.marker.length = head := by
      rw [ahead, ← spells.length_eq, List.take_left]
    have restEq : cursor.rest.drop dialect.marker.length = next.rest := by
      rw [ahead, ← spells.length_eq, List.drop_left]
    rw [headEq, restEq, if_pos ⟨nonempty, isMarker_eq_true_iff.mpr spells⟩, ← offset]

/-- A marker is read where one is spelled out. -/
theorem afterMarker?_append {dialect : Dialect} {head : Text} (nonempty : dialect.marker ≠ [])
    (spells : dialect.SpellsMarker head) (offset : Nat) (rest : Text) :
    dialect.afterMarker? ⟨offset, head ++ rest⟩ = some ⟨offset + width head, rest⟩ :=
  afterMarker?_eq_some_iff.mpr ⟨nonempty, head, spells, rfl, rfl⟩

/-- At a place of a text a marker begins exactly if one can be read there. -/
theorem markerAt_iff {dialect : Dialect} {cursor : Cursor} {text : Text}
    (inside : cursor.LiesIn text) :
    dialect.MarkerAt text cursor.offset ↔
      Exists fun next : Cursor => dialect.afterMarker? cursor = some next := by
  constructor
  · rintro ⟨nonempty, head, spells, stands⟩
    rcases inside.hasAt_iff.mp stands with ⟨rest, ahead⟩
    exact ⟨⟨cursor.offset + width head, rest⟩,
      afterMarker?_eq_some_iff.mpr ⟨nonempty, head, spells, ahead.symm, rfl⟩⟩
  · rintro ⟨next, found⟩
    rcases afterMarker?_eq_some_iff.mp found with ⟨nonempty, head, spells, reads⟩
    exact ⟨nonempty, head, spells, inside.hasAt_iff.mpr ⟨next.rest, reads.ahead.symm⟩⟩

theorem MarkerAt.isBoundary {dialect : Dialect} {text : Text} {offset : Nat}
    (marker : dialect.MarkerAt text offset) : text.IsBoundary offset := by
  rcases marker with ⟨_, head, _, stands⟩
  exact stands.isBoundary

theorem MarkerAt.lt_width {dialect : Dialect} {text : Text} {offset : Nat}
    (marker : dialect.MarkerAt text offset) : offset < width text := by
  rcases marker with ⟨nonempty, head, spells, stands⟩
  have positive := spells.width_pos nonempty
  have fits := stands.add_width_le
  omega

/-! ## Delimiters -/

/-- Of the delimiters whose opening token stands in the text at the offset this
is the first by priority. -/
def OpensAt (dialect : Dialect) (text : Text) (offset : Nat) (delimiter : Delimiter) : Prop :=
  text.HasAt offset delimiter.opening ∧
    Exists fun preferred : List Delimiter => Exists fun others : List Delimiter =>
      dialect.delimiters = preferred ++ delimiter :: others ∧
        forall other, other ∈ preferred -> ¬ text.HasAt offset other.opening

/-- The delimiter that is found is the first whose opening token lies ahead. -/
theorem opening?_eq_some_iff {dialect : Dialect} {cursor inside : Cursor} {delimiter : Delimiter} :
    dialect.opening? cursor = some (delimiter, inside) ↔
      cursor.after? delimiter.opening = some inside ∧
        Exists fun preferred : List Delimiter => Exists fun others : List Delimiter =>
          dialect.delimiters = preferred ++ delimiter :: others ∧
            forall other, other ∈ preferred -> ¬ other.opening <+: cursor.rest := by
  simp only [opening?, List.findSome?_eq_some_iff, Option.map_eq_some_iff, Option.map_eq_none_iff,
    Prod.mk.injEq, after?_eq_none_iff]
  constructor
  · rintro ⟨preferred, _, others, listed, ⟨_, follows, rfl, rfl⟩, absent⟩
    exact ⟨follows, preferred, others, listed, absent⟩
  · rintro ⟨follows, preferred, others, listed, absent⟩
    exact ⟨preferred, delimiter, others, listed, ⟨inside, follows, rfl, rfl⟩, absent⟩

theorem reads_of_opening? {dialect : Dialect} {cursor inside : Cursor} {delimiter : Delimiter}
    (found : dialect.opening? cursor = some (delimiter, inside)) :
    cursor.Reads delimiter.opening inside :=
  reads_of_after? (opening?_eq_some found).2

theorem opening?_eq_none_iff {dialect : Dialect} {cursor : Cursor} :
    dialect.opening? cursor = none ↔
      forall delimiter, delimiter ∈ dialect.delimiters -> ¬ delimiter.opening <+: cursor.rest := by
  simp only [opening?, List.findSome?_eq_none_iff, Option.map_eq_none_iff, after?_eq_none_iff]

/-- At a place of a text no opening token stands exactly if none is found
there. -/
theorem unopened_iff {dialect : Dialect} {cursor : Cursor} {text : Text}
    (inText : cursor.LiesIn text) :
    (forall delimiter, delimiter ∈ dialect.delimiters ->
      ¬ text.HasAt cursor.offset delimiter.opening) ↔
      dialect.opening? cursor = none := by
  simp only [opening?_eq_none_iff, inText.hasAt_iff]

/-- At a place of a text a delimiter opens exactly if it is the one that is
found there. -/
theorem opensAt_iff {dialect : Dialect} {cursor : Cursor} {text : Text} {delimiter : Delimiter}
    (inText : cursor.LiesIn text) :
    dialect.OpensAt text cursor.offset delimiter ↔
      Exists fun inside : Cursor => dialect.opening? cursor = some (delimiter, inside) := by
  simp only [OpensAt, inText.hasAt_iff, opening?_eq_some_iff]
  constructor
  · rintro ⟨⟨rest, ahead⟩, preferred, others, listed, absent⟩
    exact ⟨⟨cursor.offset + width delimiter.opening, rest⟩,
      after?_eq_some_iff.mpr ⟨ahead.symm, rfl⟩, preferred, others, listed, absent⟩
  · rintro ⟨inside, follows, preferred, others, listed, absent⟩
    exact ⟨⟨inside.rest, (reads_of_after? follows).ahead.symm⟩, preferred, others, listed, absent⟩

theorem OpensAt.mem {dialect : Dialect} {text : Text} {offset : Nat} {delimiter : Delimiter}
    (opens : dialect.OpensAt text offset delimiter) : delimiter ∈ dialect.delimiters := by
  rcases opens with ⟨_, preferred, others, listed, _⟩
  rw [listed]
  exact List.mem_append_right preferred List.mem_cons_self

/-- At most one delimiter opens at an offset. -/
theorem OpensAt.unique {dialect : Dialect} {text : Text} {offset : Nat} {first second : Delimiter}
    (opens : dialect.OpensAt text offset first) (alsoOpens : dialect.OpensAt text offset second) :
    first = second := by
  rcases exists_liesIn_of_isBoundary opens.1.isBoundary with ⟨rest, inText⟩
  rcases (opensAt_iff inText).mp opens with ⟨_, found⟩
  rcases (opensAt_iff inText).mp alsoOpens with ⟨_, alsoFound⟩
  rw [found] at alsoFound
  cases alsoFound
  rfl

/-- Of the closing tokens that stand in the text at the offset this is the first
by priority. -/
def ClosesAt (dialect : Dialect) (text : Text) (offset : Nat) (token : Text) : Prop :=
  text.HasAt offset token ∧
    Exists fun preferred : List Text => Exists fun others : List Text =>
      dialect.delimiters.map Delimiter.closing = preferred ++ token :: others ∧
        forall other, other ∈ preferred -> ¬ text.HasAt offset other

/-- At a place of a text the first closing token is the one that is found
there. -/
theorem closesAt_iff {dialect : Dialect} {cursor : Cursor} {text token : Text}
    (inText : cursor.LiesIn text) :
    dialect.ClosesAt text cursor.offset token ↔ dialect.closing? cursor = some token := by
  simp only [ClosesAt, closing?, List.find?_eq_some_iff_append, inText.hasAt_iff,
    List.isPrefixOf_iff_prefix, Bool.not_eq_true', Bool.eq_false_iff, ne_eq]

theorem ClosesAt.exists_mem {dialect : Dialect} {text token : Text} {offset : Nat}
    (closes : dialect.ClosesAt text offset token) :
    Exists fun delimiter => delimiter ∈ dialect.delimiters ∧ delimiter.closing = token := by
  rcases closes with ⟨_, preferred, others, listed, _⟩
  apply List.mem_map.mp
  rw [listed]
  exact List.mem_append_right preferred List.mem_cons_self

theorem ClosesAt.unique {dialect : Dialect} {text first second : Text} {offset : Nat}
    (closes : dialect.ClosesAt text offset first)
    (alsoCloses : dialect.ClosesAt text offset second) :
    first = second := by
  rcases exists_liesIn_of_isBoundary closes.1.isBoundary with ⟨rest, inText⟩
  have found := (closesAt_iff inText).mp closes
  rw [(closesAt_iff inText).mp alsoCloses] at found
  exact (Option.some.inj found).symm

theorem closing?_eq_none_iff {dialect : Dialect} {cursor : Cursor} :
    dialect.closing? cursor = none ↔
      forall delimiter, delimiter ∈ dialect.delimiters -> ¬ delimiter.closing <+: cursor.rest := by
  simp only [closing?, List.find?_eq_none, List.mem_map, List.isPrefixOf_iff_prefix]
  constructor
  · intro absent delimiter member
    exact absent _ ⟨delimiter, member, rfl⟩
  · rintro absent _ ⟨delimiter, member, rfl⟩
    exact absent delimiter member

/-- At a place of a text no token of a delimiter stands exactly if none is found
there. -/
theorem bare_iff {dialect : Dialect} {cursor : Cursor} {text : Text} (inText : cursor.LiesIn text) :
    (forall delimiter, delimiter ∈ dialect.delimiters ->
        ¬ text.HasAt cursor.offset delimiter.opening ∧
        ¬ text.HasAt cursor.offset delimiter.closing) ↔
      dialect.opening? cursor = none ∧ dialect.closing? cursor = none := by
  simp only [opening?_eq_none_iff, closing?_eq_none_iff, inText.hasAt_iff, imp_and, forall_and]

theorem closing?_eq_some {dialect : Dialect} {cursor : Cursor} {token : Text}
    (found : dialect.closing? cursor = some token) :
    (Exists fun delimiter => delimiter ∈ dialect.delimiters ∧ delimiter.closing = token) ∧
      token <+: cursor.rest := by
  unfold closing? at found
  have begins := List.find?_some found
  exact ⟨List.mem_map.mp (List.mem_of_find?_eq_some found), List.isPrefixOf_iff_prefix.mp begins⟩

end Dialect
end MarkupDirectives
