import Mathlib.Data.List.TakeWhile
import MarkupDirectives.Proofs.Dialect.Token

namespace MarkupDirectives

open Text

/-!
# The same place in a longer text

`Cursor.extend` is a place of a text as a place of a longer one.  Every function
that looks ahead has one equation here, under the hypothesis that what it finds
in the longer text *fits* into the shorter one.
-/

namespace Cursor

variable {cursor earlier later next : Cursor} {passed more token : Text} {accept : Char -> Bool}

/-- The offset at which the text ends. -/
def textEnd (cursor : Cursor) : Nat := cursor.offset + width cursor.rest

theorem offset_le_textEnd (cursor : Cursor) : cursor.offset ≤ cursor.textEnd := Nat.le_add_right _ _

theorem Reads.textEnd_eq (reads : earlier.Reads passed later) :
    later.textEnd = earlier.textEnd := by
  rw [textEnd, textEnd, reads.ahead, reads.offset, width_append, Nat.add_assoc]

/-- From a place, reading a text leads to one place only. -/
theorem Reads.later_unique {other : Cursor} (reads : earlier.Reads passed later)
    (alsoReads : earlier.Reads passed other) : later = other := by
  have offsets := reads.offset.trans alsoReads.offset.symm
  have rests := List.append_cancel_left (reads.ahead.symm.trans alsoReads.ahead)
  cases later
  cases other
  cases offsets
  cases rests
  rfl

/-- The same place in a text that goes on with more. -/
def extend (cursor : Cursor) (more : Text) : Cursor := ⟨cursor.offset, cursor.rest ++ more⟩

@[simp] theorem extend_offset : (cursor.extend more).offset = cursor.offset := rfl

@[simp] theorem extend_rest : (cursor.extend more).rest = cursor.rest ++ more := rfl

theorem Reads.extend (reads : earlier.Reads passed later) (more : Text) :
    (earlier.extend more).Reads passed (later.extend more) where
  ahead := by rw [extend_rest, extend_rest, reads.ahead, List.append_assoc]
  offset := reads.offset

/-- A place of the longer text that does not lie beyond the shorter one is a
place of both. -/
theorem exists_of_reads_extend (reads : (cursor.extend more).Reads passed next)
    (fits : next.offset ≤ cursor.textEnd) :
    Exists fun shorter : Cursor => cursor.Reads passed shorter ∧ next = shorter.extend more := by
  have whole : cursor.rest ++ more = passed ++ next.rest := reads.ahead
  have length : next.offset = cursor.offset + width passed := reads.offset
  rcases next with ⟨offset, rest⟩
  rw [length, textEnd] at fits
  rcases List.append_eq_append_iff.mp whole with ⟨beyond, rfl, ahead⟩ | ⟨left, kept, ahead⟩
  · rw [width_append] at fits
    have nothing : beyond = [] := width_eq_zero_iff.mp (by omega)
    subst nothing
    exact ⟨⟨offset, []⟩, ⟨by simp, length⟩, by simpa [extend] using ahead.symm⟩
  · exact ⟨⟨offset, left⟩, ⟨kept, length⟩, by simpa [extend] using ahead⟩

/-- What can be read in the longer text and is no longer than the shorter one
fits into it. -/
theorem offset_le_textEnd_of_length_le (reads : (cursor.extend more).Reads passed next)
    (short : passed.length ≤ cursor.rest.length) : next.offset ≤ cursor.textEnd := by
  have begins : passed <+: cursor.rest :=
    List.prefix_of_prefix_length_le ⟨next.rest, reads.ahead.symm⟩
      (List.prefix_append cursor.rest more) short
  rcases begins with ⟨rest, whole⟩
  rw [reads.offset, textEnd, ← whole, width_append, extend_offset]
  omega

/-! ## Tokens -/

theorem after?_extend_of_some (found : cursor.after? token = some next) :
    (cursor.extend more).after? token = some (next.extend more) := by
  have reads := (reads_of_after? found).extend more
  exact after?_eq_some_iff.mpr ⟨reads.ahead, reads.offset⟩

theorem after?_extend
    (fits : forall next,
      (cursor.extend more).after? token = some next -> next.offset ≤ cursor.textEnd) :
    (cursor.extend more).after? token = (cursor.after? token).map fun next => next.extend more := by
  cases found : (cursor.extend more).after? token with
  | none =>
      cases short : cursor.after? token with
      | none => rfl
      | some next =>
          rw [after?_extend_of_some short] at found
          cases found
  | some next =>
      rcases exists_of_reads_extend (reads_of_after? found) (fits next found) with
        ⟨shorter, reads, rfl⟩
      rw [after?_eq_some_iff.mpr ⟨reads.ahead, reads.offset⟩]
      rfl

/-! ## Runs of characters -/

theorem skipWhile_extend (fits : ((cursor.extend more).skipWhile accept).offset ≤ cursor.textEnd) :
    (cursor.extend more).skipWhile accept = (cursor.skipWhile accept).extend more := by
  have same : (cursor.rest ++ more).takeWhile accept = cursor.rest.takeWhile accept := by
    change cursor.offset + width ((cursor.rest ++ more).takeWhile accept) ≤
      cursor.offset + width cursor.rest at fits
    rw [List.takeWhile_append] at fits ⊢
    split
    · next all =>
        rw [if_pos all, width_append] at fits
        have nothing : more.takeWhile accept = [] := width_eq_zero_iff.mp (by omega)
        rw [nothing, List.append_nil, (List.takeWhile_prefix accept).eq_of_length all]
    · rfl
  have reads := reads_skipWhile (cursor.extend more) accept
  rw [extend_rest, same] at reads
  exact reads.later_unique ((reads_skipWhile cursor accept).extend more)

/-- A run that ends before the shorter text does is the same in both. -/
theorem skipWhile_extend_of_ne_nil (left : (cursor.skipWhile accept).rest ≠ []) :
    (cursor.extend more).skipWhile accept = (cursor.skipWhile accept).extend more := by
  refine skipWhile_eq_of_reads ((reads_skipWhile cursor accept).extend more)
    (fun _ => List.mem_takeWhile_imp) ?_
  intro c first
  rcases List.exists_cons_of_ne_nil left with ⟨d, rest, ahead⟩
  rw [extend_rest, ahead] at first
  cases first
  have rejected := List.head?_dropWhile_not accept cursor.rest
  have same : cursor.rest.dropWhile accept = c :: rest := ahead
  rw [same] at rejected
  simpa using rejected

/-- A run that goes beyond the shorter text takes all of it. -/
theorem rest_skipWhile_eq_nil
    (beyond : cursor.textEnd < ((cursor.extend more).skipWhile accept).offset) :
    (cursor.skipWhile accept).rest = [] := by
  change cursor.textEnd < cursor.offset + width ((cursor.rest ++ more).takeWhile accept) at beyond
  have whole := List.takeWhile_append_dropWhile (p := accept) (l := cursor.rest)
  rw [List.takeWhile_append] at beyond
  split at beyond
  · next all =>
      rw [(List.takeWhile_prefix accept).eq_of_length all] at whole
      exact List.append_cancel_left (whole.trans (List.append_nil _).symm)
  · have length := congrArg width whole
    rw [width_append] at length
    rw [textEnd] at beyond
    omega

/-- Whether a run begins at a place is the same in both texts. -/
theorem any_head?_extend
    (fits : (cursor.extend more).rest.head?.any accept = true ->
      ((cursor.extend more).skipWhile accept).offset ≤ cursor.textEnd) :
    (cursor.extend more).rest.head?.any accept = cursor.rest.head?.any accept := by
  rw [extend_rest] at fits ⊢
  cases ahead : cursor.rest with
  | cons c rest => rfl
  | nil =>
      cases more with
      | nil => rfl
      | cons c more =>
          cases accepted : accept c with
          | false => simp [accepted]
          | true =>
              rw [ahead] at fits
              have short := fits accepted
              change cursor.offset + width ((cursor.rest ++ c :: more).takeWhile accept) ≤
                cursor.textEnd at short
              rw [textEnd, ahead, List.nil_append, List.takeWhile_cons_of_pos accepted, width_cons,
                width_nil] at short
              have positive := c.utf8Size_pos
              omega

end Cursor

/-! ## The tokens of a dialect -/

namespace Dialect

open Cursor

variable {dialect : Dialect} {cursor : Cursor} {more : Text}

theorem afterMarker?_extend_of_some {marked : Cursor}
    (found : dialect.afterMarker? cursor = some marked) (more : Text) :
    dialect.afterMarker? (cursor.extend more) = some (marked.extend more) := by
  rcases afterMarker?_eq_some_iff.mp found with ⟨nonempty, head, spells, reads⟩
  exact afterMarker?_eq_some_iff.mpr ⟨nonempty, head, spells, reads.extend more⟩

theorem afterMarker?_extend
    (fits : forall marked,
      dialect.afterMarker? (cursor.extend more) = some marked -> marked.offset ≤ cursor.textEnd) :
    dialect.afterMarker? (cursor.extend more) =
      (dialect.afterMarker? cursor).map fun marked => marked.extend more := by
  cases found : dialect.afterMarker? (cursor.extend more) with
  | none =>
      cases short : dialect.afterMarker? cursor with
      | none => rfl
      | some marked =>
          rw [afterMarker?_extend_of_some short] at found
          cases found
  | some marked =>
      rcases afterMarker?_eq_some_iff.mp found with ⟨nonempty, head, spells, reads⟩
      rcases exists_of_reads_extend reads (fits marked found) with ⟨shorter, shortReads, rfl⟩
      rw [afterMarker?_eq_some_iff.mpr ⟨nonempty, head, spells, shortReads⟩]
      rfl

/-- A marker that would begin at the place and is no longer than the shorter text
is the same in both. -/
theorem afterMarker?_extend_of_length_le (short : dialect.marker.length ≤ cursor.rest.length)
    (more : Text) :
    dialect.afterMarker? (cursor.extend more) =
      (dialect.afterMarker? cursor).map fun marked => marked.extend more := by
  apply afterMarker?_extend
  intro marked found
  rcases afterMarker?_eq_some_iff.mp found with ⟨_, head, spells, reads⟩
  exact offset_le_textEnd_of_length_le reads (spells.length_eq ▸ short)

theorem afterAssignment?_extend_of_some {assigned : Cursor}
    (found : dialect.afterAssignment? cursor = some assigned) (more : Text) :
    dialect.afterAssignment? (cursor.extend more) = some (assigned.extend more) := by
  unfold afterAssignment? at found ⊢
  split at found
  · cases found
  · next assigns =>
      rw [if_neg assigns]
      exact after?_extend_of_some found

theorem afterAssignment?_extend
    (fits : forall next,
      dialect.afterAssignment? (cursor.extend more) = some next -> next.offset ≤ cursor.textEnd) :
    dialect.afterAssignment? (cursor.extend more) =
      (dialect.afterAssignment? cursor).map fun next => next.extend more := by
  unfold afterAssignment? at fits ⊢
  split
  · rfl
  · next assigns =>
      rw [if_neg assigns] at fits
      exact after?_extend fits

theorem opening?_extend
    (fits : forall delimiter inside,
      dialect.opening? (cursor.extend more) = some (delimiter, inside) ->
        inside.offset ≤ cursor.textEnd) :
    dialect.opening? (cursor.extend more) =
      (dialect.opening? cursor).map fun found => (found.1, found.2.extend more) := by
  have longer : forall token : Text, token <+: cursor.rest -> token <+: (cursor.extend more).rest :=
    fun _ begins => begins.trans (List.prefix_append _ _)
  cases found : dialect.opening? (cursor.extend more) with
  | none =>
      have absent := opening?_eq_none_iff.mp found
      rw [opening?_eq_none_iff.mpr fun delimiter member begins =>
        absent delimiter member (longer _ begins)]
      rfl
  | some opened =>
      rcases opened with ⟨delimiter, inside⟩
      rcases opening?_eq_some_iff.mp found with ⟨follows, preferred, others, listed, absent⟩
      rcases exists_of_reads_extend (reads_of_after? follows) (fits delimiter inside found) with
        ⟨shorter, reads, rfl⟩
      have alsoFound : dialect.opening? cursor = some (delimiter, shorter) :=
        opening?_eq_some_iff.mpr
          ⟨after?_eq_some_iff.mpr ⟨reads.ahead, reads.offset⟩, preferred, others, listed,
          fun other member begins => absent other member (longer _ begins)⟩
      rw [alsoFound]
      rfl

theorem closing?_extend
    (fits : forall token,
      dialect.closing? (cursor.extend more) = some token ->
        cursor.offset + width token ≤ cursor.textEnd) :
    dialect.closing? (cursor.extend more) = dialect.closing? cursor := by
  have longer : forall token : Text, token <+: cursor.rest -> token <+: (cursor.extend more).rest :=
    fun _ begins => begins.trans (List.prefix_append _ _)
  cases found : dialect.closing? (cursor.extend more) with
  | none =>
      have absent := closing?_eq_none_iff.mp found
      rw [closing?_eq_none_iff.mpr fun delimiter member begins =>
        absent delimiter member (longer _ begins)]
  | some token =>
      have short := fits token found
      unfold closing? at found ⊢
      rcases List.find?_eq_some_iff_append.mp found with ⟨begins, preferred, others, listed, absent⟩
      symm
      refine List.find?_eq_some_iff_append.mpr ⟨?_, preferred, others, listed, ?_⟩
      · rw [List.isPrefixOf_iff_prefix] at begins ⊢
        rcases begins with ⟨behind, whole⟩
        have reads : (cursor.extend more).Reads token ⟨cursor.offset + width token, behind⟩ :=
          ⟨whole.symm, rfl⟩
        rcases exists_of_reads_extend reads short with ⟨shorter, shortReads, _⟩
        exact ⟨shorter.rest, shortReads.ahead.symm⟩
      · intro other member
        have unread := absent other member
        simp only [Bool.not_eq_true', Bool.eq_false_iff, ne_eq,
          List.isPrefixOf_iff_prefix] at unread ⊢
        exact fun begins => unread (longer other begins)

end Dialect
end MarkupDirectives
