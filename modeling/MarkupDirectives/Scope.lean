import MarkupDirectives.Dialect
import MarkupDirectives.Text.Forms

namespace MarkupDirectives

/-!
# Scopes of delimited values

A delimited value extends to the token that closes its first delimiter, and
scopes of any delimiters may be nested in it.
-/

/-- What is wrong with the value of a directive.  Offsets count the bytes of
the scanned text. -/
inductive SyntaxError where
  /-- The text ended, at `position`, while the innermost open scope was still
  waiting for `expected`. -/
  | outOfRange (position : Nat) (expected : Text)
  /-- The closing token at `position` belongs to no scope that it could
  close. -/
  | unexpectedClosing (position : Nat) (token : Text)
  deriving DecidableEq

namespace SyntaxError

/-- The offset at which the error was noticed. -/
def position : SyntaxError -> Nat
  | outOfRange position _ => position
  | unexpectedClosing position _ => position

def message : SyntaxError -> String
  | outOfRange position expected =>
      s!"end of string encountered at offset {position}, expected {expected.quoted}"
  | unexpectedClosing position token =>
      s!"unexpected closing delimiter {token.quoted} at offset {position}"

end SyntaxError

/-- The place at which all of the open scopes are closed.  The innermost scope
comes first in the list. -/
def Dialect.closeScopes (dialect : Dialect) :
    (scopes : List Delimiter) -> Cursor -> Except SyntaxError Cursor
  | [], cursor => .ok cursor
  | innermost :: outer, cursor =>
      match _ : cursor.after? innermost.closing with
      | some next => dialect.closeScopes outer next
      | none =>
          match _ : dialect.opening? cursor with
          | some (delimiter, inside) =>
              dialect.closeScopes (delimiter :: innermost :: outer) inside
          | none =>
              match dialect.closing? cursor with
              | some token => .error (.unexpectedClosing cursor.offset token)
              | none =>
                  match _ : cursor.rest with
                  | [] => .error (.outOfRange cursor.offset innermost.closing)
                  | c :: rest =>
                      dialect.closeScopes (innermost :: outer) ⟨cursor.offset + c.utf8Size, rest⟩
termination_by _ cursor => cursor.rest.length
decreasing_by
  · exact Cursor.length_lt_of_after? innermost.closing_ne_nil ‹_›
  · exact Dialect.length_lt_of_opening? ‹_›
  · simp [*]

theorem Dialect.length_le_of_closeScopes {dialect : Dialect} {scopes : List Delimiter}
    {cursor stop : Cursor} (closed : dialect.closeScopes scopes cursor = .ok stop) :
    stop.rest.length ≤ cursor.rest.length := by
  fun_induction dialect.closeScopes scopes cursor with
  | case1 => cases closed; exact Nat.le_refl _
  | case2 innermost outer cursor next closes inductionHypothesis =>
      exact Nat.le_of_lt (Nat.lt_of_le_of_lt (inductionHypothesis closed)
        (Cursor.length_lt_of_after? innermost.closing_ne_nil closes))
  | case3 _ _ _ _ _ _ opens inductionHypothesis =>
      exact Nat.le_of_lt
        (Nat.lt_of_le_of_lt (inductionHypothesis closed) (length_lt_of_opening? opens))
  | case4 => cases closed
  | case5 => cases closed
  | case6 innermost outer cursor _ _ _ c rest ahead inductionHypothesis =>
      have shorter := inductionHypothesis closed
      simp only [ahead, List.length_cons]
      exact Nat.le_succ_of_le shorter

/-- The text inside a value's outermost delimiters.  A value is unwrapped only
if the scope opened at its start ends at its very end. -/
def Dialect.stripDelimiters (dialect : Dialect) (value : Text) : Text :=
  match dialect.opening? (Cursor.start value) with
  | none => value
  | some (delimiter, inside) =>
      match dialect.closeScopes [delimiter] inside with
      | .ok stop =>
          if stop.rest = [] then
            inside.rest.take (inside.rest.length - delimiter.closing.length)
          else value
      | .error _ => value

end MarkupDirectives
