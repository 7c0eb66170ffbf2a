import MarkupDirectives.Character.Classes
import MarkupDirectives.Scope

namespace MarkupDirectives

/-!
# One directive

A directive is a marker, a key, and possibly an assignment token and a value,
with white space around the token.  `Dialect.scanDirective` finds where it ends,
and `Dialect.split` takes its text apart again.
-/

/-- The end of a directive whose assignment token has just been read. -/
def Dialect.scanValue (dialect : Dialect) (assigned : Cursor) : Except SyntaxError Cursor :=
  let value := assigned.skipWhile Character.isWhitespace
  match dialect.opening? value with
  | some (delimiter, inside) => dialect.closeScopes [delimiter] inside
  | none =>
      match dialect.closing? value with
      | some token => .error (.unexpectedClosing value.offset token)
      | none =>
          if value.rest.head?.any Character.isIdentifier then
            .ok (value.skipWhile Character.isIdentifier)
          else .ok assigned

theorem Dialect.length_le_of_scanValue {dialect : Dialect} {assigned stop : Cursor}
    (scanned : dialect.scanValue assigned = .ok stop) :
    stop.rest.length ≤ assigned.rest.length := by
  have valueLength := assigned.length_skipWhile_le Character.isWhitespace
  simp only [scanValue] at scanned
  split at scanned
  · next opens =>
      have insideLength := length_lt_of_opening? opens
      have stopLength := length_le_of_closeScopes scanned
      omega
  · split at scanned
    · cases scanned
    · split at scanned <;> cases scanned
      · exact Nat.le_trans (Cursor.length_skipWhile_le _ _) valueLength
      · exact Nat.le_refl _

/-- The end of a directive whose marker has just been read. -/
def Dialect.scanDirective (dialect : Dialect) (marked : Cursor) : Except SyntaxError Cursor :=
  let key := marked.skipWhile Character.isIdentifier
  match dialect.afterAssignment? (key.skipWhile Character.isWhitespace) with
  | some assigned => dialect.scanValue assigned
  | none => .ok key

theorem Dialect.length_le_of_scanDirective {dialect : Dialect} {marked stop : Cursor}
    (scanned : dialect.scanDirective marked = .ok stop) :
    stop.rest.length ≤ marked.rest.length := by
  have keyLength := marked.length_skipWhile_le Character.isIdentifier
  have gapLength :=
    (marked.skipWhile Character.isIdentifier).length_skipWhile_le Character.isWhitespace
  simp only [scanDirective] at scanned
  split at scanned
  · next assigned found =>
      have assignedLength := length_lt_of_afterAssignment? found
      have valueLength := length_le_of_scanValue scanned
      omega
  · cases scanned
    exact keyLength

/-- The key and the value of a directive.  A directive without a value has the
empty one. -/
structure Directive where
  key : Text
  value : Text
  deriving DecidableEq

/-- What follows the marker in a text that starts with it. -/
def Dialect.stripMarker? (dialect : Dialect) (text : Text) : Option Text :=
  (dialect.afterMarker? (Cursor.start text)).map (·.rest)

/-- The parts of a directive's text.  The marker is left out if the text starts
with it, and delimiters around the value stay. -/
def Dialect.split (dialect : Dialect) (text : Text) : Directive :=
  let body := (dialect.stripMarker? text).getD text
  let parts := if dialect.assignment = [] then none else body.splitOnce? dialect.assignment
  match parts with
  | some (key, value) => ⟨key.trim, value.trim⟩
  | none => ⟨body.trim, []⟩

end MarkupDirectives
