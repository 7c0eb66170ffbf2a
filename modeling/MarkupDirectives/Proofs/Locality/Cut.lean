import MarkupDirectives.Proofs.Directive.Bounds

namespace MarkupDirectives

open Text Cursor

/-!
# Scanning the beginning of a text

A scan looks further than it goes.  Nevertheless, if a scan of the longer text
ends within the shorter one, the scan of the shorter text takes the same steps.
-/

/-- No more of the text than its first `limit` bytes was needed for the result.
The end of the text is noticed only if it is there, so that result needs all of
the text. -/
def SettledBy (limit : Nat) : Except SyntaxError Cursor -> Prop
  | .ok stop => stop.offset ≤ limit
  | .error (.outOfRange _ _) => False
  | .error (.unexpectedClosing position token) => position + width token ≤ limit

theorem Cursor.Bounds.offset_le {cursor : Cursor} {limit : Nat} {result : Except SyntaxError Cursor}
    (bounds : cursor.Bounds result) (settled : SettledBy limit result) : cursor.offset ≤ limit := by
  match result, bounds, settled with
  | .ok _, ⟨_, reads⟩, ends => exact Nat.le_trans reads.offset_le ends
  | .error (.unexpectedClosing _ _), ⟨beyond, _⟩, ends =>
      exact Nat.le_trans beyond (Nat.le_trans (Nat.le_add_right _ _) ends)

namespace Dialect

variable {dialect : Dialect} {scopes outer : List Delimiter} {innermost : Delimiter}
  {awaited more : Text} {cursor assigned marked : Cursor}

/-! ## Scopes -/

/-- At a place at which a scope waits for a token, as much is seen of the longer
text as the shorter one contains.  What is looked at later matters only if
nothing is found before. -/
structure SeesSame (dialect : Dialect) (awaited : Text) (cursor : Cursor) (more : Text) : Prop where
  closing : (cursor.extend more).after? awaited =
    (cursor.after? awaited).map fun next => next.extend more
  opening : cursor.after? awaited = none ->
    dialect.opening? (cursor.extend more) =
      (dialect.opening? cursor).map fun found => (found.1, found.2.extend more)
  stray : cursor.after? awaited = none -> dialect.opening? cursor = none ->
    dialect.closing? (cursor.extend more) = dialect.closing? cursor

/-- Then the step of the loop in the longer text is decided by the shorter
one. -/
theorem SeesSame.closeScopes_extend_cons (same : dialect.SeesSame innermost.closing cursor more) :
    dialect.closeScopes (innermost :: outer) (cursor.extend more) =
      match cursor.after? innermost.closing with
      | some next => dialect.closeScopes outer (next.extend more)
      | none =>
          match dialect.opening? cursor with
          | some (delimiter, inside) =>
              dialect.closeScopes (delimiter :: innermost :: outer) (inside.extend more)
          | none =>
              match dialect.closing? cursor with
              | some token => .error (.unexpectedClosing cursor.offset token)
              | none =>
                  match cursor.rest ++ more with
                  | [] => .error (.outOfRange cursor.offset innermost.closing)
                  | c :: rest =>
                      dialect.closeScopes (innermost :: outer)
                        ⟨cursor.offset + c.utf8Size, rest⟩ := by
  rw [closeScopes_cons, same.closing]
  cases waits : cursor.after? innermost.closing with
  | some next => rfl
  | none =>
      rw [same.opening waits]
      cases unopened : dialect.opening? cursor with
      | some opened => rfl
      | none =>
          rw [same.stray waits unopened]
          rfl

theorem seesSame_of_settledBy
    (settled : SettledBy cursor.textEnd
      (dialect.closeScopes (innermost :: outer) (cursor.extend more))) :
    dialect.SeesSame innermost.closing cursor more := by
  rw [closeScopes_cons] at settled
  have closing : (cursor.extend more).after? innermost.closing =
      (cursor.after? innermost.closing).map fun next => next.extend more := by
    refine after?_extend fun next found => ?_
    rw [found] at settled
    exact (dialect.closeScopes_bounds outer next).offset_le settled
  have opening : cursor.after? innermost.closing = none ->
      dialect.opening? (cursor.extend more) =
        (dialect.opening? cursor).map fun found => (found.1, found.2.extend more) := by
    intro waits
    rw [closing, waits] at settled
    refine opening?_extend fun delimiter inside found => ?_
    rw [found] at settled
    exact (dialect.closeScopes_bounds _ inside).offset_le settled
  refine ⟨closing, opening, ?_⟩
  intro waits unopened
  rw [closing, waits, opening waits, unopened] at settled
  refine closing?_extend fun token found => ?_
  rw [found] at settled
  exact settled

theorem closeScopes_extend
    (settled : SettledBy cursor.textEnd (dialect.closeScopes scopes (cursor.extend more))) :
    dialect.closeScopes scopes (cursor.extend more) =
      (dialect.closeScopes scopes cursor).map fun stop => stop.extend more := by
  fun_induction dialect.closeScopes scopes cursor with
  | case1 cursor =>
      rw [closeScopes_nil]
      rfl
  | case2 innermost outer cursor next closes inductionHypothesis =>
      have same := seesSame_of_settledBy settled
      rw [same.closeScopes_extend_cons, closes] at settled ⊢
      rw [← (reads_of_after? closes).textEnd_eq] at settled
      exact inductionHypothesis settled
  | case3 innermost outer cursor waits delimiter inside opens inductionHypothesis =>
      have same := seesSame_of_settledBy settled
      rw [same.closeScopes_extend_cons, waits, opens] at settled ⊢
      rw [← (reads_of_opening? opens).textEnd_eq] at settled
      exact inductionHypothesis settled
  | case4 innermost outer cursor waits unopened token stray =>
      have same := seesSame_of_settledBy settled
      rw [same.closeScopes_extend_cons, waits, unopened, stray]
      rfl
  | case5 innermost outer cursor waits unopened unclosed ended =>
      -- At the end of the shorter text the longer one would have to go on, and settle nothing.
      have same := seesSame_of_settledBy settled
      rw [same.closeScopes_extend_cons, waits, unopened, unclosed, ended] at settled
      cases more with
      | nil => exact settled.elim
      | cons c more =>
          have within : cursor.offset + c.utf8Size ≤ cursor.textEnd :=
            (dialect.closeScopes_bounds _ _).offset_le settled
          have positive := c.utf8Size_pos
          rw [textEnd, ended, width_nil] at within
          omega
  | case6 innermost outer cursor waits unopened unclosed c rest ahead inductionHypothesis =>
      have same := seesSame_of_settledBy settled
      have reads : cursor.Reads [c] ⟨cursor.offset + c.utf8Size, rest⟩ := ⟨ahead, rfl⟩
      rw [same.closeScopes_extend_cons, waits, unopened, unclosed, ahead] at settled ⊢
      rw [← reads.textEnd_eq] at settled
      exact inductionHypothesis settled

/-! ## Values and directives -/

theorem scanValue_extend
    (settled : SettledBy assigned.textEnd (dialect.scanValue (assigned.extend more))) :
    dialect.scanValue (assigned.extend more) =
      (dialect.scanValue assigned).map fun stop => stop.extend more := by
  by_cases within :
      ((assigned.extend more).skipWhile Character.isWhitespace).offset ≤ assigned.textEnd
  · have sameEnd := (reads_skipWhile assigned Character.isWhitespace).textEnd_eq
    simp only [scanValue, skipWhile_extend within] at settled ⊢
    generalize assigned.skipWhile Character.isWhitespace = value at settled sameEnd ⊢
    rw [← sameEnd] at settled
    have opening : dialect.opening? (value.extend more) =
        (dialect.opening? value).map fun found => (found.1, found.2.extend more) := by
      refine opening?_extend fun delimiter inside found => ?_
      rw [found] at settled
      exact (dialect.closeScopes_bounds _ inside).offset_le settled
    rw [opening] at settled ⊢
    cases opens : dialect.opening? value with
    | some opened =>
        rw [opens] at settled
        simp only [Option.map_some] at settled ⊢
        rw [← (reads_of_opening? opens).textEnd_eq] at settled
        exact closeScopes_extend settled
    | none =>
        rw [opens] at settled
        simp only [Option.map_none] at settled ⊢
        have closing : dialect.closing? (value.extend more) = dialect.closing? value := by
          refine closing?_extend fun token found => ?_
          rw [found] at settled
          exact settled
        rw [closing] at settled ⊢
        cases unclosed : dialect.closing? value with
        | some token => rfl
        | none =>
            rw [unclosed] at settled
            have begins : (value.extend more).rest.head?.any Character.isIdentifier =
                value.rest.head?.any Character.isIdentifier := by
              refine any_head?_extend fun begins => ?_
              rw [if_pos begins] at settled
              exact settled
            simp only [begins] at settled ⊢
            split
            · next begins =>
                rw [if_pos begins] at settled
                rw [skipWhile_extend settled]
                rfl
            · rfl
  · -- White space goes on beyond the shorter text, so neither text has a value here.
    rcases dialect.bounds_scanValue_or_eq (assigned.extend more) with bounds | same
    · exact absurd (bounds.offset_le settled) within
    · rw [same, scanValue_of_end (rest_skipWhile_eq_nil (Nat.lt_of_not_le within))]
      rfl

theorem scanDirective_extend
    (settled : SettledBy marked.textEnd (dialect.scanDirective (marked.extend more))) :
    dialect.scanDirective (marked.extend more) =
      (dialect.scanDirective marked).map fun stop => stop.extend more := by
  have keyWithin := (dialect.bounds_scanDirective_key (marked.extend more)).offset_le settled
  have keyEnd := (reads_skipWhile marked Character.isIdentifier).textEnd_eq
  simp only [scanDirective, skipWhile_extend keyWithin] at settled ⊢
  generalize marked.skipWhile Character.isIdentifier = key at settled keyEnd ⊢
  rw [← keyEnd] at settled
  by_cases within : ((key.extend more).skipWhile Character.isWhitespace).offset ≤ key.textEnd
  · have gapEnd := (reads_skipWhile key Character.isWhitespace).textEnd_eq
    rw [skipWhile_extend within] at settled ⊢
    generalize key.skipWhile Character.isWhitespace = gap at settled gapEnd ⊢
    rw [← gapEnd] at settled
    have assignment : dialect.afterAssignment? (gap.extend more) =
        (dialect.afterAssignment? gap).map fun next => next.extend more := by
      refine afterAssignment?_extend fun next found => ?_
      rw [found] at settled
      exact (dialect.scanValue_bounds next).offset_le settled
    rw [assignment] at settled ⊢
    cases found : dialect.afterAssignment? gap with
    | none => rfl
    | some assigned =>
        rw [found] at settled
        rw [← (reads_of_afterAssignment? found).textEnd_eq] at settled
        exact scanValue_extend settled
  · rw [afterAssignment?_of_end (rest_skipWhile_eq_nil (Nat.lt_of_not_le within))]
    cases found : dialect.afterAssignment? ((key.extend more).skipWhile Character.isWhitespace) with
    | none => rfl
    | some assigned =>
        rw [found] at settled
        have bounds :=
          (dialect.scanValue_bounds assigned).of_reads (reads_of_afterAssignment? found)
        exact absurd (bounds.offset_le settled) within

end Dialect
end MarkupDirectives
