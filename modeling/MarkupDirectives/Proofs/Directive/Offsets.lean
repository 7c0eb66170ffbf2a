import Mathlib.Data.Nat.PSub
import MarkupDirectives.Proofs.Locator.Unwrapping
import MarkupDirectives.Proofs.Scope.Loop

namespace MarkupDirectives

open Text Cursor Character

/-!
# Directives by offsets

A directive is scanned, and a value unwrapped, with offsets in the place of
cursors.  A cut that cannot be made gives `none`, and so does a length that cannot
be taken away.
-/

namespace Dialect

/-- The end of a directive whose assignment token ends at the offset. -/
def scanValueAt? (dialect : Dialect) (markup : Text) (assigned : Nat) :
    Option (Except SyntaxError Nat) := do
  let value ← markup.skip? assigned isWhitespace
  let rest ← markup.ahead? value
  match dialect.opening? ⟨value, rest⟩ with
  | some _ => dialect.loop? markup ⟨[], value⟩
  | none =>
      match dialect.closing? ⟨value, rest⟩ with
      | some token => return .error (.unexpectedClosing value token)
      | none =>
          let stop ← markup.skip? value isIdentifier
          return .ok (if stop = value then assigned else stop)

/-- The end of a directive whose marker begins at the offset. -/
def scanDirectiveAt? (dialect : Dialect) (markup : Text) (start : Nat) :
    Option (Except SyntaxError Nat) := do
  let key ← markup.skip? (start + width dialect.marker) isIdentifier
  let gap ← markup.skip? key isWhitespace
  if dialect.assignment = [] then
    return .ok key
  else
    let rest ← markup.ahead? gap
    if dialect.assignment.isPrefixOf rest then
      dialect.scanValueAt? markup (gap + width dialect.assignment)
    else
      return .ok key

/-- The text inside a value's outermost delimiters. -/
def stripDelimiters? (dialect : Dialect) (value : Text) : Option Text :=
  match dialect.opening? (Cursor.start value) with
  | none => some value
  | some (delimiter, _) => do
      match ← dialect.loop? value ⟨[], 0⟩ with
      | .error _ => return value
      | .ok stop =>
          if stop = width value then
            let inner ← Nat.psub stop (width delimiter.closing)
            value.slice? (width delimiter.opening) inner
          else
            return value

variable {dialect : Dialect} {markup : Text} {place marked assigned : Cursor}

theorem scanValueAt?_eq (inText : assigned.LiesIn markup) :
    dialect.scanValueAt? markup assigned.offset =
      some ((dialect.scanValue assigned).map Cursor.offset) := by
  have valueInText := inText.skipWhile isWhitespace
  simp only [scanValueAt?, scanValue, inText.skip?_eq, valueInText.ahead?_eq, Option.bind_eq_bind,
    Option.bind_some]
  generalize assigned.skipWhile isWhitespace = value at valueInText
  cases opens : dialect.opening? value with
  | some opened => exact loop?_of_opening? valueInText opens
  | none =>
      cases stray : dialect.closing? value with
      | some token => rfl
      | none =>
          simp only [valueInText.skip?_eq, Option.bind_some]
          by_cases begins : value.rest.head?.any isIdentifier = true
          · rw [if_neg (Nat.ne_of_gt (any_head?_iff.mp begins)), if_pos begins]
            rfl
          · have stays := Nat.le_of_not_lt (mt any_head?_iff.mpr begins)
            have nothing := Nat.le_antisymm stays (reads_skipWhile _ _).offset_le
            rw [if_pos nothing, if_neg begins]
            rfl

/-- Behind every marker of a text a directive is scanned by offsets as it is with
cursors. -/
theorem scanDirectiveAt?_eq (inText : place.LiesIn markup)
    (marks : dialect.afterMarker? place = some marked) :
    dialect.scanDirectiveAt? markup place.offset =
      some ((dialect.scanDirective marked).map Cursor.offset) := by
  rcases afterMarker?_eq_some_iff.mp marks with ⟨_, head, _, reads⟩
  have markedInText := inText.of_reads reads
  have keyInText := markedInText.skipWhile isIdentifier
  have gapInText := keyInText.skipWhile isWhitespace
  simp only [scanDirectiveAt?, scanDirective, ← offset_of_afterMarker? marks, markedInText.skip?_eq,
    keyInText.skip?_eq, gapInText.ahead?_eq, Option.bind_eq_bind, Option.bind_some,
    afterAssignment?]
  generalize (marked.skipWhile isIdentifier).skipWhile isWhitespace = gap at gapInText
  by_cases empty : dialect.assignment = []
  · rw [if_pos empty, if_pos empty]
    rfl
  · rw [if_neg empty, if_neg empty]
    cases found : gap.after? dialect.assignment with
    | some assigned =>
        have assigns := reads_of_after? found
        rw [if_pos (List.isPrefixOf_iff_prefix.mpr ⟨_, assigns.ahead.symm⟩), ← assigns.offset]
        exact scanValueAt?_eq (gapInText.of_reads assigns)
    | none =>
        rw [if_neg (mt List.isPrefixOf_iff_prefix.mp (after?_eq_none_iff.mp found))]
        rfl

/-- Every value is unwrapped by offsets as it is with cursors.  The token that
ends the loop closes the scope that was opened first, and so its length can be
taken away from the end. -/
theorem stripDelimiters?_eq (dialect : Dialect) (value : Text) :
    dialect.stripDelimiters? value = some (dialect.stripDelimiters value) := by
  have inText := liesIn_start value
  rw [stripDelimiters?]
  cases opens : dialect.opening? (start value) with
  | none => simp only [stripDelimiters, opens]
  | some opened =>
      rcases opened with ⟨delimiter, inside⟩
      have scanned : dialect.loop? value ⟨[], 0⟩ = _ := loop?_of_opening? inText opens
      simp only [scanned, Option.bind_eq_bind, Option.bind_some]
      cases closed : dialect.closeScopes [delimiter] inside with
      | error error =>
          simp only [stripDelimiters, opens, closed]
          rfl
      | ok stop =>
          rcases exists_reads_of_closeScopes closed with ⟨content, goesOn⟩
          have whole :=
            ((inText.of_reads (reads_of_opening? opens)).of_reads goesOn).offset_add_width
          change (if stop.offset = width value then _ else _) = _
          by_cases ended : stop.rest = []
          · have wraps : dialect.Wraps value delimiter :=
              wraps_iff.mpr ⟨inside, stop, opens, closed, ended⟩
            rw [ended, width_nil, Nat.add_zero] at whole
            have parts := congrArg width wraps.eq_append
            rw [width_append, width_append] at parts
            rw [if_pos whole, Nat.psub_eq_sub (by omega), Option.bind_some]
            refine slice?_eq_some_iff.mpr ⟨delimiter.opening, delimiter.closing, ?_, rfl, by omega⟩
            rw [List.append_assoc]
            exact wraps.eq_append
          · have unfinished : stop.offset ≠ width value :=
              fun same => ended (width_eq_zero_iff.mp (by omega))
            rw [if_neg unfinished]
            simp only [stripDelimiters, opens, closed, if_neg ended]
            rfl

end Dialect
end MarkupDirectives
