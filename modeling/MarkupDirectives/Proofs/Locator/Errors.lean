import MarkupDirectives.Proofs.Locator.Extents
import MarkupDirectives.Proofs.Text.Positions

namespace MarkupDirectives

open Text Cursor Character Polling

/-!
# What errors say is true

The token of an error is what the innermost open scope was still waiting for, or
the first closing token at a place where nothing opens and no scope waits for it.
-/

/-- What the error says holds of a value that begins at the offset `value`. -/
def SyntaxError.HoldsAt (dialect : Dialect) (text : Text) (value : Nat) : SyntaxError -> Prop
  | outOfRange position expected =>
      position = width text ∧ expected ≠ [] ∧
        Exists fun delimiter : Delimiter =>
          dialect.OpensAt text value delimiter ∧
            Awaits dialect text delimiter.closing
              (value + width delimiter.opening) position expected ∧
              forall other,
                Awaits dialect text delimiter.closing
                  (value + width delimiter.opening) position other ->
                other = expected
  | unexpectedClosing position token =>
      dialect.ClosesAt text position token ∧
        (forall delimiter, delimiter ∈ dialect.delimiters ->
          ¬ text.HasAt position delimiter.opening) ∧
          (position = value ∨
            Exists fun delimiter : Delimiter => Exists fun awaited : Text =>
              dialect.OpensAt text value delimiter ∧
                Awaits dialect text delimiter.closing
                  (value + width delimiter.opening) position awaited ∧
                  ¬ text.HasAt position awaited)

namespace Dialect

variable {dialect : Dialect} {text markup : Text} {marked start : Nat} {error : SyntaxError}

/-- The grammar knows no error that does not hold. -/
theorem Extent.exists_holdsAt (extent : dialect.Extent text marked (.error error)) :
    Exists fun assigned : Nat => Exists fun value : Nat =>
      dialect.ValueAt text marked assigned value ∧ error.HoldsAt dialect text value := by
  cases extent with
  | @unclosed assigned value delimiter _ here opens fails =>
      rcases fails with ⟨awaited, awaits, stuck⟩
      refine ⟨assigned, value, here, ?_⟩
      cases error with
      | outOfRange position expected =>
          rcases stuck with ⟨ended, rfl⟩
          exact ⟨ended, awaits.awaited_ne_nil delimiter.closing_ne_nil, delimiter, opens, awaits,
            fun other alsoAwaits => alsoAwaits.unique awaits⟩
      | unexpectedClosing position token =>
          rcases stuck with ⟨absent, unopened, closes⟩
          exact ⟨closes, unopened, Or.inr ⟨delimiter, awaited, opens, awaits, absent⟩⟩
  | stray here unopened closes => exact ⟨_, _, here, closes, unopened, Or.inl rfl⟩

/-- The offset of an error lies behind the marker of its directive. -/
theorem MalformedAt.le_position (malformed : dialect.MalformedAt markup start error) :
    start + width dialect.marker ≤ error.position ∧ markup.IsBoundary error.position := by
  rcases malformed with ⟨place, marked, inText, rfl, follows, failed⟩
  rcases afterMarker?_eq_some_iff.mp follows with ⟨_, head, _, reads⟩
  have markedInText := inText.of_reads reads
  have bounds := dialect.scanDirective_bounds marked
  rw [failed] at bounds
  rw [← offset_of_afterMarker? follows]
  cases error with
  | outOfRange position expected =>
      have atEnd : position = width markup := bounds.trans markedInText.offset_add_width
      refine ⟨?_, ?_⟩
      · change marked.offset ≤ position
        rw [bounds]
        exact marked.offset_le_textEnd
      · exact ⟨markup, [], (List.append_nil markup).symm, atEnd⟩
  | unexpectedClosing position token =>
      have extent := (extent_iff markedInText).mpr (congrArg (Except.map Cursor.offset) failed)
      rcases extent.exists_holdsAt with ⟨_, _, _, closes, _⟩
      exact ⟨bounds.1, closes.1.isBoundary⟩

/-- What an error says of the directive at the first marker behind the spans is true.
Its offset is a boundary behind that marker, and the message gives its line and
column. -/
theorem locate_error_holds (dialect : Dialect) (markup : Text) (error : SyntaxError)
    (failed : .error error ∈ dialect.locate markup) :
    Exists fun spans : List Span => Exists fun start : Nat => Exists fun assigned : Nat =>
      Exists fun value : Nat => Exists fun before : Text => Exists fun rest : Text =>
        dialect.locate markup = spans.map .ok ++ [.error error] ∧
        IsLeast {offset | Span.endOf 0 spans ≤ offset ∧ dialect.MarkerAt markup offset} start ∧
        markup.splitAt? error.position = some (before, rest) ∧
        start + width dialect.marker ≤ error.position ∧ error.position ≤ width markup ∧
        dialect.ValueAt markup (start + width dialect.marker) assigned value ∧
        error.HoldsAt dialect markup value ∧
        forall path : String, (RenderError.malformed error).messageIn path markup =
          s!"{path}:{(Position.after before).line}:{(Position.after before).column}: {error.message}" := by
  rcases dialect.exists_located markup with ⟨spans, failure, _, items, located⟩
  rw [items, error_mem_outcome_iff] at failed
  subst failed
  rcases located.failed error rfl with ⟨start, least, malformed, _⟩
  rcases malformed.extent.exists_holdsAt with ⟨assigned, value, here, holds⟩
  rcases malformed.le_position with ⟨behind, before, rest, rfl, wide⟩
  refine ⟨spans, start, assigned, value, before, rest, items, least,
    splitAt?_eq_some_iff.mpr ⟨rfl, wide⟩, behind, ?_, here, holds, ?_⟩
  · rw [wide, width_append]
    exact Nat.le_add_right _ _
  · intro path
    have place := Position.ofOffset_width before ([] ++ rest)
    rw [← wide] at place
    rw [RenderError.messageIn, place]
    rfl

theorem locate_error_holds_nested :
    let markup : Text :=
      ['é', '\n', 'b', 'l', 'a', 't', 'e', 'x', ':', 'k', '=', '@', '(', '\x7b', ')']
    (Exists fun value : Nat =>
      (SyntaxError.unexpectedClosing 15 [')']).HoldsAt standard markup value) ∧
      (RenderError.malformed (.unexpectedClosing 15 [')'])).messageIn "page" markup =
        "page:2:13: unexpected closing delimiter \")\" at offset 15" := by
  intro markup
  have failed : .error (.unexpectedClosing 15 [')']) ∈ standard.locate markup := by decide +kernel
  rcases locate_error_holds standard markup _ failed with
    ⟨_, _, _, value, before, rest, _, _, parts, _, _, _, holds, message⟩
  have cut : markup.splitAt? 15 = some (markup.take 14, [')']) := by decide +kernel
  cases cut.symm.trans parts
  exact ⟨⟨value, holds⟩, (message "page").trans (by decide +kernel)⟩

end Dialect
end MarkupDirectives
