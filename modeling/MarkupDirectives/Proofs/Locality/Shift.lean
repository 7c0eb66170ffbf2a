import MarkupDirectives.Proofs.Directive.Bounds
import MarkupDirectives.Proofs.Locator.Search

namespace MarkupDirectives

open Text Cursor Polling

/-!
# Offsets are relative

The same text ahead at another offset gives the same result, with all offsets
moved by the difference.
-/

/-! ## Moved offsets -/

/-- The same text ahead, at an offset that is larger by the distance. -/
def Cursor.shift (distance : Nat) (cursor : Cursor) : Cursor :=
  ⟨cursor.offset + distance, cursor.rest⟩

def Span.shift (distance : Nat) (span : Span) : Span :=
  ⟨span.start + distance, span.stop + distance⟩

def SyntaxError.shift (distance : Nat) : SyntaxError -> SyntaxError
  | outOfRange position expected => outOfRange (position + distance) expected
  | unexpectedClosing position token => unexpectedClosing (position + distance) token

/-- An item with all of its offsets moved. -/
def Finding.shift (distance : Nat) : Finding -> Finding
  | .ok span => .ok (span.shift distance)
  | .error error => .error (error.shift distance)

/-- The result of a scan with all of its offsets moved. -/
def Cursor.shiftResult (distance : Nat) : Except SyntaxError Cursor -> Except SyntaxError Cursor
  | .ok stop => .ok (stop.shift distance)
  | .error error => .error (error.shift distance)

@[simp] theorem Cursor.shift_rest (distance : Nat) (cursor : Cursor) :
    (cursor.shift distance).rest = cursor.rest := rfl

/-- Every place is the first one of the text ahead, moved. -/
theorem Cursor.shift_start (cursor : Cursor) :
    (Cursor.start cursor.rest).shift cursor.offset = cursor := by
  rw [shift, start, Nat.zero_add]

theorem Cursor.shift_advance (distance offset length : Nat) (rest : Text) :
    (⟨offset + distance + length, rest⟩ : Cursor) =
      Cursor.shift distance ⟨offset + length, rest⟩ := by
  rw [shift, Nat.add_right_comm]

theorem Cursor.Reads.shift {earlier later : Cursor} {passed : Text}
    (reads : earlier.Reads passed later)
    (distance : Nat) : (earlier.shift distance).Reads passed (later.shift distance) where
  ahead := reads.ahead
  offset := by rw [Cursor.shift, Cursor.shift, reads.offset, Nat.add_right_comm]

theorem Finding.shift_shift (first second : Nat) (item : Finding) :
    Finding.shift second (Finding.shift first item) = Finding.shift (first + second) item := by
  rcases item with (_ | _) | _ <;>
    simp only [Finding.shift, SyntaxError.shift, Span.shift, Nat.add_assoc]

theorem map_shift_outcome (distance : Nat) (spans : List Span) (failure : Option SyntaxError) :
    (outcome spans failure).map (Finding.shift distance) =
      outcome (spans.map (Span.shift distance)) (failure.map (SyntaxError.shift distance)) := by
  unfold outcome
  cases failure <;> simp [Function.comp_def, Finding.shift]

/-! ## Tokens -/

section Scanning

variable (dialect : Dialect) (distance : Nat)

theorem Cursor.skipWhile_shift (cursor : Cursor) (accept : Char -> Bool) :
    (cursor.shift distance).skipWhile accept = (cursor.skipWhile accept).shift distance :=
  Cursor.shift_advance _ _ _ _

theorem Cursor.after?_shift (cursor : Cursor) (token : Text) :
    (cursor.shift distance).after? token = (cursor.after? token).map (Cursor.shift distance) := by
  unfold after?
  rw [Option.map_map]
  exact congrArg (fun next => (cursor.rest.after? token).map next)
    (funext fun _ => Cursor.shift_advance _ _ _ _)

namespace Dialect

theorem afterMarker?_shift (cursor : Cursor) :
    dialect.afterMarker? (cursor.shift distance) =
      (dialect.afterMarker? cursor).map (Cursor.shift distance) := by
  unfold afterMarker?
  rw [shift_rest, apply_ite (Option.map (Cursor.shift distance))]
  refine ite_congr rfl (fun _ => ?_) fun _ => rfl
  exact congrArg some (Cursor.shift_advance _ _ _ _)

theorem afterAssignment?_shift (cursor : Cursor) :
    dialect.afterAssignment? (cursor.shift distance) =
      (dialect.afterAssignment? cursor).map (Cursor.shift distance) := by
  unfold afterAssignment?
  split
  · rfl
  · exact cursor.after?_shift distance _

theorem opening?_shift (cursor : Cursor) :
    dialect.opening? (cursor.shift distance) =
      (dialect.opening? cursor).map fun found => (found.1, found.2.shift distance) := by
  unfold opening?
  rw [List.map_findSome?]
  congr 1
  funext delimiter
  rw [Function.comp_apply, cursor.after?_shift, Option.map_map, Option.map_map]
  rfl

theorem closing?_shift (cursor : Cursor) :
    dialect.closing? (cursor.shift distance) = dialect.closing? cursor := rfl

/-! ## Scans -/

theorem closeScopes_shift (scopes : List Delimiter) (cursor : Cursor) :
    dialect.closeScopes scopes (cursor.shift distance) =
      shiftResult distance (dialect.closeScopes scopes cursor) := by
  fun_induction dialect.closeScopes scopes cursor with
  | case1 cursor =>
      rw [closeScopes_nil]
      rfl
  | case2 innermost outer cursor next closes inductionHypothesis =>
      rw [closeScopes_cons, after?_shift, closes]
      exact inductionHypothesis
  | case3 innermost outer cursor waits delimiter inside opens inductionHypothesis =>
      rw [closeScopes_cons, after?_shift, waits, opening?_shift, opens]
      exact inductionHypothesis
  | case4 innermost outer cursor waits unopened token stray =>
      rw [closeScopes_cons, after?_shift, waits, opening?_shift, unopened, closing?_shift, stray]
      rfl
  | case5 innermost outer cursor waits unopened unclosed ended =>
      rw [closeScopes_cons, after?_shift, waits, opening?_shift, unopened, closing?_shift, unclosed,
        shift_rest, ended]
      rfl
  | case6 innermost outer cursor waits unopened unclosed c rest ahead inductionHypothesis =>
      rw [closeScopes_cons, after?_shift, waits, opening?_shift, unopened, closing?_shift, unclosed,
        shift_rest, ahead]
      rw [← inductionHypothesis, ← Cursor.shift_advance]
      rfl

theorem scanValue_shift (assigned : Cursor) :
    dialect.scanValue (assigned.shift distance) =
      shiftResult distance (dialect.scanValue assigned) := by
  simp only [scanValue, skipWhile_shift, opening?_shift, closing?_shift, shift_rest]
  cases dialect.opening? (assigned.skipWhile Character.isWhitespace) with
  | some opened => exact dialect.closeScopes_shift distance _ _
  | none =>
      cases dialect.closing? (assigned.skipWhile Character.isWhitespace) with
      | some token => rfl
      | none =>
          simp only [Option.map_none]
          split <;> rfl

theorem scanDirective_shift (marked : Cursor) :
    dialect.scanDirective (marked.shift distance) =
      shiftResult distance (dialect.scanDirective marked) := by
  simp only [scanDirective, skipWhile_shift, afterAssignment?_shift]
  cases dialect.afterAssignment?
      ((marked.skipWhile Character.isIdentifier).skipWhile Character.isWhitespace) with
  | some assigned => exact dialect.scanValue_shift distance assigned
  | none => rfl

/-! ## Searches -/

theorem findMarker?_shift (offset : Nat) (rest : Text) :
    dialect.findMarker? (offset + distance) rest =
      (dialect.findMarker? offset rest).map fun found =>
        (found.1 + distance, found.2.shift distance) := by
  induction rest generalizing offset with
  | nil => rfl
  | cons c rest inductionHypothesis =>
      have marker : dialect.afterMarker? ⟨offset + distance, c :: rest⟩ = _ :=
        dialect.afterMarker?_shift distance ⟨offset, c :: rest⟩
      rw [findMarker?, findMarker?, marker]
      cases dialect.afterMarker? ⟨offset, c :: rest⟩ with
      | some marked => rfl
      | none =>
          rw [← inductionHypothesis, Nat.add_right_comm]
          rfl

theorem Search.shift {cursor : Cursor} {spans : List Span} {failure : Option SyntaxError}
    {dialect : Dialect} (search : dialect.Search cursor spans failure) (distance : Nat) :
    dialect.Search (cursor.shift distance) (spans.map (Span.shift distance))
      (failure.map (SyntaxError.shift distance)) := by
  have moved : forall cursor : Cursor,
      dialect.findMarker? (cursor.shift distance).offset (cursor.shift distance).rest =
        (dialect.findMarker? cursor.offset cursor.rest).map fun found =>
          (found.1 + distance, found.2.shift distance) :=
    fun cursor => dialect.findMarker?_shift distance cursor.offset cursor.rest
  induction search with
  | @ended cursor absent =>
      refine .ended ?_
      rw [moved, absent]
      rfl
  | @malformed cursor marked start error found failed =>
      have alsoFound := moved cursor
      rw [found] at alsoFound
      refine .malformed alsoFound ?_
      rw [scanDirective_shift, failed]
      rfl
  | @located cursor marked stop start spans failure found scanned _ inductionHypothesis =>
      have alsoFound := moved cursor
      have alsoScanned := dialect.scanDirective_shift distance marked
      rw [found] at alsoFound
      rw [scanned] at alsoScanned
      exact .located alsoFound alsoScanned inductionHypothesis

end Dialect
end Scanning

/-- From a place on a locator finds what there is in the text ahead. -/
theorem Locator.items_eq_map_shift (dialect : Dialect) (cursor : Cursor) :
    Locator.items ⟨dialect, cursor, false⟩ =
      (dialect.locate cursor.rest).map (Finding.shift cursor.offset) := by
  rcases dialect.exists_search (Cursor.start cursor.rest) with ⟨spans, failure, search⟩
  have moved := search.shift cursor.offset
  rw [cursor.shift_start] at moved
  have here : dialect.locate cursor.rest = outcome spans failure := items_of_search search
  rw [here, map_shift_outcome, items_of_search moved]

end MarkupDirectives
