import MarkupDirectives.Proofs.Directive.Extent
import MarkupDirectives.Proofs.Locality.Extension

namespace MarkupDirectives

open Text Cursor

/-!
# What a scan finds lies ahead

A scan that goes on from a place finds an end or an error, and neither lies
behind that place or beyond the text.
-/

/-- The result of a scan from the place lies between the place and the end of
the text. -/
def Cursor.Bounds (cursor : Cursor) : Except SyntaxError Cursor -> Prop
  | .ok stop => Exists fun passed : Text => cursor.Reads passed stop
  | .error (.outOfRange position _) => position = cursor.textEnd
  | .error (.unexpectedClosing position token) =>
      cursor.offset ≤ position ∧ position + width token ≤ cursor.textEnd

theorem Cursor.Bounds.of_reads {earlier later : Cursor} {passed : Text}
    {result : Except SyntaxError Cursor}
    (reads : earlier.Reads passed later) (bounds : later.Bounds result) :
    earlier.Bounds result := by
  match result, bounds with
  | .ok _, ⟨further, goesOn⟩ => exact ⟨passed ++ further, reads.trans goesOn⟩
  | .error (.outOfRange _ _), same => exact same.trans reads.textEnd_eq
  | .error (.unexpectedClosing _ _), ⟨beyond, fits⟩ =>
      exact ⟨Nat.le_trans reads.offset_le beyond, reads.textEnd_eq ▸ fits⟩

theorem Cursor.bounds_self (cursor : Cursor) : cursor.Bounds (.ok cursor) := ⟨[], Reads.refl cursor⟩

namespace Dialect

variable {dialect : Dialect} {innermost : Delimiter} {outer : List Delimiter}
  {cursor assigned : Cursor}

/-! ## The end of the text -/

theorem opening?_of_end (ended : cursor.rest = []) : dialect.opening? cursor = none := by
  apply opening?_eq_none_iff.mpr
  intro delimiter _ begins
  rw [ended, List.prefix_nil] at begins
  exact delimiter.opening_ne_nil begins

theorem closing?_of_end (ended : cursor.rest = []) : dialect.closing? cursor = none := by
  apply closing?_eq_none_iff.mpr
  intro delimiter _ begins
  rw [ended, List.prefix_nil] at begins
  exact delimiter.closing_ne_nil begins

theorem afterAssignment?_of_end (ended : cursor.rest = []) :
    dialect.afterAssignment? cursor = none := by
  cases found : dialect.afterAssignment? cursor with
  | none => rfl
  | some assigned =>
      have shorter := length_lt_of_afterAssignment? found
      rw [ended] at shorter
      exact absurd shorter (Nat.not_lt_zero _)

/-! ## Scopes -/

theorem closeScopes_nil : dialect.closeScopes [] cursor = .ok cursor := by
  rw [closeScopes]

/-- One step of the loop, without the proofs that it goes forward. -/
theorem closeScopes_cons :
    dialect.closeScopes (innermost :: outer) cursor =
      match cursor.after? innermost.closing with
      | some next => dialect.closeScopes outer next
      | none =>
          match dialect.opening? cursor with
          | some (delimiter, inside) => dialect.closeScopes (delimiter :: innermost :: outer) inside
          | none =>
              match dialect.closing? cursor with
              | some token => .error (.unexpectedClosing cursor.offset token)
              | none =>
                  match cursor.rest with
                  | [] => .error (.outOfRange cursor.offset innermost.closing)
                  | c :: rest =>
                      dialect.closeScopes (innermost :: outer)
                        ⟨cursor.offset + c.utf8Size, rest⟩ := by
  rw [closeScopes]
  grind

theorem closing?_fits {token : Text} (found : dialect.closing? cursor = some token) :
    cursor.offset + width token ≤ cursor.textEnd := by
  rcases (closing?_eq_some found).2 with ⟨behind, ahead⟩
  rw [textEnd, ← ahead, width_append]
  omega

theorem closeScopes_bounds (dialect : Dialect) (scopes : List Delimiter) (cursor : Cursor) :
    cursor.Bounds (dialect.closeScopes scopes cursor) := by
  fun_induction dialect.closeScopes scopes cursor with
  | case1 cursor => exact cursor.bounds_self
  | case2 _ _ _ _ closes inductionHypothesis =>
      exact inductionHypothesis.of_reads (reads_of_after? closes)
  | case3 _ _ _ _ _ _ opens inductionHypothesis =>
      exact inductionHypothesis.of_reads (reads_of_opening? opens)
  | case4 _ _ _ _ _ _ stray => exact ⟨Nat.le_refl _, closing?_fits stray⟩
  | case5 _ _ cursor _ _ _ ended =>
      change cursor.offset = cursor.textEnd
      rw [textEnd, ended]
      rfl
  | case6 _ _ cursor _ _ _ c rest ahead inductionHypothesis =>
      have reads : cursor.Reads [c] ⟨cursor.offset + c.utf8Size, rest⟩ := ⟨ahead, rfl⟩
      exact inductionHypothesis.of_reads reads

/-! ## Values and directives -/

/-- Either the result lies behind the white space in front of a value, or there
is no value. -/
theorem bounds_scanValue_or_eq (dialect : Dialect) (assigned : Cursor) :
    (assigned.skipWhile Character.isWhitespace).Bounds (dialect.scanValue assigned) ∨
      dialect.scanValue assigned = .ok assigned := by
  simp only [scanValue]
  split
  · next opens => exact Or.inl ((dialect.closeScopes_bounds _ _).of_reads (reads_of_opening? opens))
  · split
    · next stray => exact Or.inl ⟨Nat.le_refl _, closing?_fits stray⟩
    · split
      · exact Or.inl ⟨_, reads_skipWhile _ _⟩
      · exact Or.inr rfl

theorem scanValue_bounds (dialect : Dialect) (assigned : Cursor) :
    assigned.Bounds (dialect.scanValue assigned) := by
  rcases dialect.bounds_scanValue_or_eq assigned with bounds | same
  · exact bounds.of_reads (reads_skipWhile _ _)
  · rw [same]
    exact assigned.bounds_self

/-- At the end of the text there is no value. -/
theorem scanValue_of_end (ended : (assigned.skipWhile Character.isWhitespace).rest = []) :
    dialect.scanValue assigned = .ok assigned := by
  simp only [scanValue, opening?_of_end ended, closing?_of_end ended, ended, List.head?_nil,
    Option.any_none, Bool.false_eq_true, if_false]

/-- What is found of a directive lies behind its key. -/
theorem bounds_scanDirective_key (dialect : Dialect) (marked : Cursor) :
    (marked.skipWhile Character.isIdentifier).Bounds (dialect.scanDirective marked) := by
  simp only [scanDirective]
  split
  · next found =>
      exact (dialect.scanValue_bounds _).of_reads
        ((reads_skipWhile _ _).trans (reads_of_afterAssignment? found))
  · exact bounds_self _

theorem scanDirective_bounds (dialect : Dialect) (marked : Cursor) :
    marked.Bounds (dialect.scanDirective marked) :=
  (dialect.bounds_scanDirective_key marked).of_reads (reads_skipWhile _ _)

end Dialect
end MarkupDirectives
