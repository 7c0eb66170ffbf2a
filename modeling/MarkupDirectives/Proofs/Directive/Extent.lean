import Mathlib.Data.List.TakeWhile
import MarkupDirectives.Character.Classes
import MarkupDirectives.Directive
import MarkupDirectives.Proofs.Scope.Grammar

namespace MarkupDirectives
namespace Dialect

open Text Cursor Character

/-!
# The extent of a directive

What the scanner reads of a directive whose marker has just been read.  White
space in front of a value is read only together with the value.
-/

variable {dialect : Dialect}

theorem reads_of_afterAssignment? {cursor assigned : Cursor}
    (found : dialect.afterAssignment? cursor = some assigned) :
    cursor.Reads dialect.assignment assigned := by
  unfold afterAssignment? at found
  split at found
  · cases found
  · exact reads_of_after? found

/-- The value that the scanner reads behind an assignment token. -/
inductive ReadsValue (dialect : Dialect) (assigned : Cursor) :
    (value : Text) -> (stop : Cursor) -> Prop where
  /-- There is no value, and the directive ends at the assignment token. -/
  | empty : ReadsValue dialect assigned [] assigned
  /-- The value is the run of identifier characters behind the white space. -/
  | bare {c : Char} {rest : Text} :
      isIdentifier c = true ->
      (assigned.skipWhile isWhitespace).rest = c :: rest ->
      ReadsValue dialect assigned (c :: rest.takeWhile isIdentifier)
        ((assigned.skipWhile isWhitespace).skipWhile isIdentifier)
  /-- The value is the scope that a delimiter opens behind the white space. -/
  | delimited {delimiter : Delimiter} {inside stop : Cursor} {content : Text} :
      dialect.opening? (assigned.skipWhile isWhitespace) = some (delimiter, inside) ->
      dialect.closeScopes [delimiter] inside = .ok stop ->
      inside.Reads (content ++ delimiter.closing) stop ->
      ReadsValue dialect assigned (delimiter.opening ++ (content ++ delimiter.closing)) stop

theorem exists_readsValue {assigned stop : Cursor}
    (scanned : dialect.scanValue assigned = .ok stop) :
    Exists fun value : Text => ReadsValue dialect assigned value stop := by
  simp only [scanValue] at scanned
  split at scanned
  · next delimiter inside opens =>
      rcases exists_reads_of_closeScopes scanned with ⟨content, reads⟩
      exact ⟨_, .delimited opens scanned reads⟩
  · split at scanned
    · cases scanned
    · split at scanned
      · next accepted =>
          cases scanned
          cases ahead : (assigned.skipWhile isWhitespace).rest with
          | nil =>
              rw [ahead] at accepted
              cases accepted
          | cons c rest =>
              rw [ahead] at accepted
              exact ⟨_, .bare accepted ahead⟩
      · cases scanned
        exact ⟨[], .empty⟩

namespace ReadsValue

variable {assigned stop : Cursor} {value : Text}

/-- A value that is not empty is read from behind the white space to the end of
the directive. -/
theorem reads (readsValue : ReadsValue dialect assigned value stop) :
    (value = [] ∧ stop = assigned) ∨ (assigned.skipWhile isWhitespace).Reads value stop := by
  cases readsValue with
  | empty => exact Or.inl ⟨rfl, rfl⟩
  | bare accepted ahead =>
      have run := reads_skipWhile (assigned.skipWhile isWhitespace) isIdentifier
      rw [ahead, List.takeWhile_cons_of_pos accepted] at run
      exact Or.inr run
  | delimited opens _ goesOn => exact Or.inr ((reads_of_opening? opens).trans goesOn)

/-- What is read in front of a value is white space. -/
theorem exists_gap (readsValue : ReadsValue dialect assigned value stop) :
    Exists fun gap : Text =>
      assigned.Reads (gap ++ value) stop ∧ forall c, c ∈ gap -> isWhitespace c = true := by
  rcases readsValue.reads with ⟨rfl, rfl⟩ | reads
  · exact ⟨[], Reads.refl _, nofun⟩
  · exact ⟨_, (reads_skipWhile assigned isWhitespace).trans reads, fun _ => List.mem_takeWhile_imp⟩

theorem head_solid (readsValue : ReadsValue dialect assigned value stop) {c : Char}
    (first : value.head? = some c) : isWhitespace c = false := by
  rcases readsValue.reads with ⟨rfl, rfl⟩ | reads
  · cases first
  · have kept := List.head?_dropWhile_not isWhitespace assigned.rest
    have ahead : assigned.rest.dropWhile isWhitespace = value ++ stop.rest := reads.ahead
    rw [ahead, List.head?_append, first] at kept
    simpa using kept

/-- A value does not end with white space, unless a closing token does. -/
theorem getLast_solid (readsValue : ReadsValue dialect assigned value stop)
    (closingSolid : forall delimiter, delimiter ∈ dialect.delimiters ->
      forall c, delimiter.closing.getLast? = some c -> isWhitespace c = false)
    {c : Char} (last : value.getLast? = some c) : isWhitespace c = false := by
  cases readsValue with
  | empty => cases last
  | @bare d rest accepted ahead =>
      apply isWhitespace_eq_false_of_isIdentifier
      have member := List.mem_of_getLast? last
      cases member with
      | head => exact accepted
      | tail _ member => exact List.mem_takeWhile_imp member
  | @delimited delimiter inside _ content opens _ _ =>
      have closingLast := List.getLast?_eq_some_getLast delimiter.closing_ne_nil
      rw [← List.append_assoc, List.getLast?_append, closingLast, Option.some_or] at last
      exact closingSolid delimiter (opening?_eq_some opens).1 c (closingLast.trans last)

theorem eq_nil_of_offset_eq (readsValue : ReadsValue dialect assigned value stop)
    (same : assigned.offset = stop.offset) : value = [] := by
  rcases readsValue.exists_gap with ⟨gap, reads, _⟩
  have length := reads.offset
  rw [width_append] at length
  have empty : width value = 0 := by omega
  exact width_eq_zero_iff.mp empty

/-- Only the empty value ends at the assignment token. -/
theorem eq_assigned_of_nil (readsValue : ReadsValue dialect assigned [] stop) :
    stop = assigned := by
  generalize none : ([] : Text) = value at readsValue
  cases readsValue with
  | empty => rfl
  | bare => cases none
  | @delimited delimiter =>
      exact absurd (List.append_eq_nil_iff.mp none.symm).1 delimiter.opening_ne_nil

end ReadsValue

/-- A directive ends at its key if no assignment token follows, and otherwise
at the end of its value. -/
theorem scanDirective_eq_ok_cases {marked stop : Cursor}
    (scanned : dialect.scanDirective marked = .ok stop) :
    (dialect.afterAssignment? ((marked.skipWhile isIdentifier).skipWhile isWhitespace) = none ∧
        stop = marked.skipWhile isIdentifier) ∨
      Exists fun assigned : Cursor => Exists fun value : Text =>
        dialect.afterAssignment? ((marked.skipWhile isIdentifier).skipWhile isWhitespace) =
          some assigned ∧
          ReadsValue dialect assigned value stop := by
  simp only [scanDirective] at scanned
  split at scanned
  · next assigned found =>
      rcases exists_readsValue scanned with ⟨value, reads⟩
      exact Or.inr ⟨assigned, value, found, reads⟩
  · next unassigned =>
      cases scanned
      exact Or.inl ⟨unassigned, rfl⟩

/-- The scanner of a directive never goes back, and skips nothing. -/
theorem exists_reads_of_scanDirective {marked stop : Cursor}
    (scanned : dialect.scanDirective marked = .ok stop) :
    Exists fun passed : Text => marked.Reads passed stop := by
  rcases scanDirective_eq_ok_cases scanned with ⟨_, rfl⟩ | ⟨assigned, value, found, readsValue⟩
  · exact ⟨_, reads_skipWhile _ _⟩
  · rcases readsValue.exists_gap with ⟨gap, reads, _⟩
    exact ⟨_, (((reads_skipWhile _ _).trans (reads_skipWhile _ _)).trans
      (reads_of_afterAssignment? found)).trans reads⟩

end Dialect
end MarkupDirectives
