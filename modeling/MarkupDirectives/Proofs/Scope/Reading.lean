import MarkupDirectives.Proofs.Directive.Bounds

namespace MarkupDirectives

open Text Cursor

/-!
# Reading with scopes open

`Dialect.ReadsScopes` describes the way of the loop, from a place at which some
scopes are open to another.  The loop may be continued from any place on its way.
-/

namespace Dialect

variable {dialect : Dialect} {scopes left outer : List Delimiter} {innermost : Delimiter}
  {cursor place next : Cursor}

/-- From a place at which the `scopes` are open, reading leads to a place at
which those in `left` are open.  In both lists the innermost scope comes
first. -/
inductive ReadsScopes (dialect : Dialect) :
    (scopes : List Delimiter) -> Cursor -> (left : List Delimiter) -> Cursor -> Prop where
  /-- Nothing is read. -/
  | refl (scopes : List Delimiter) (cursor : Cursor) :
    ReadsScopes dialect scopes cursor scopes cursor
  /-- The token that the innermost scope waits for is read first. -/
  | close {innermost : Delimiter} {outer left : List Delimiter} {cursor next place : Cursor} :
      cursor.after? innermost.closing = some next ->
      ReadsScopes dialect outer next left place ->
      ReadsScopes dialect (innermost :: outer) cursor left place
  /-- An opening token is read first. -/
  | nest {innermost delimiter : Delimiter} {outer left : List Delimiter}
    {cursor inside place : Cursor} :
      cursor.after? innermost.closing = none ->
      dialect.opening? cursor = some (delimiter, inside) ->
      ReadsScopes dialect (delimiter :: innermost :: outer) inside left place ->
      ReadsScopes dialect (innermost :: outer) cursor left place
  /-- A character at which no token stands is read first. -/
  | plain {innermost : Delimiter} {outer left : List Delimiter} {cursor next place : Cursor}
    {c : Char} :
      cursor.after? innermost.closing = none ->
      dialect.opening? cursor = none ->
      dialect.closing? cursor = none ->
      cursor.Reads [c] next ->
      ReadsScopes dialect (innermost :: outer) next left place ->
      ReadsScopes dialect (innermost :: outer) cursor left place

/-! ## The steps of the loop -/

/-- The token that the innermost scope waits for is tried before any other. -/
theorem closeScopes_close (reads : cursor.Reads innermost.closing next) :
    dialect.closeScopes (innermost :: outer) cursor = dialect.closeScopes outer next := by
  have closes : cursor.after? innermost.closing = some next :=
    after?_eq_some_iff.mpr ⟨reads.ahead, reads.offset⟩
  rw [closeScopes_cons, closes]

theorem closeScopes_nest {delimiter : Delimiter} {inside : Cursor}
    (waits : cursor.after? innermost.closing = none)
    (opens : dialect.opening? cursor = some (delimiter, inside)) :
    dialect.closeScopes (innermost :: outer) cursor =
      dialect.closeScopes (delimiter :: innermost :: outer) inside := by
  rw [closeScopes_cons, waits, opens]

theorem closeScopes_plain {c : Char} (waits : cursor.after? innermost.closing = none)
    (unopened : dialect.opening? cursor = none) (unclosed : dialect.closing? cursor = none)
    (reads : cursor.Reads [c] next) :
    dialect.closeScopes (innermost :: outer) cursor =
      dialect.closeScopes (innermost :: outer) next := by
  rcases next with ⟨offset, rest⟩
  have ahead : cursor.rest = c :: rest := reads.ahead
  have wide : offset = cursor.offset + c.utf8Size := reads.offset
  subst wide
  rw [closeScopes_cons, waits, unopened, unclosed, ahead]

theorem closeScopes_stray {token : Text} (waits : cursor.after? innermost.closing = none)
    (unopened : dialect.opening? cursor = none) (stray : dialect.closing? cursor = some token) :
    dialect.closeScopes (innermost :: outer) cursor =
      .error (.unexpectedClosing cursor.offset token) := by
  rw [closeScopes_cons, waits, unopened, stray]

theorem closeScopes_of_end (ended : cursor.rest = []) :
    dialect.closeScopes (innermost :: outer) cursor =
      .error (.outOfRange cursor.offset innermost.closing) := by
  have waits : cursor.after? innermost.closing = none := by
    rw [after?_eq_none_iff, ended, List.prefix_nil]
    exact innermost.closing_ne_nil
  rw [closeScopes_cons, waits, opening?_of_end ended, closing?_of_end ended, ended]

/-- The loop may be continued from any place on its way. -/
theorem ReadsScopes.closeScopes_eq (reads : dialect.ReadsScopes scopes cursor left place) :
    dialect.closeScopes scopes cursor = dialect.closeScopes left place := by
  induction reads with
  | refl => rfl
  | close closes _ inductionHypothesis =>
      rw [closeScopes_close (reads_of_after? closes), inductionHypothesis]
  | nest waits opens _ inductionHypothesis => rw [closeScopes_nest waits opens, inductionHypothesis]
  | plain waits unopened unclosed first _ inductionHypothesis =>
      rw [closeScopes_plain waits unopened unclosed first, inductionHypothesis]

/-- All scopes that are opened on the way are of the dialect. -/
theorem ReadsScopes.listed (reads : dialect.ReadsScopes scopes cursor left place)
    (listed : forall scope, scope ∈ scopes -> scope ∈ dialect.delimiters) :
    forall scope, scope ∈ left -> scope ∈ dialect.delimiters := by
  induction reads with
  | refl => exact listed
  | close _ _ inductionHypothesis =>
      exact inductionHypothesis fun scope member => listed scope (List.mem_cons_of_mem _ member)
  | nest _ opens _ inductionHypothesis =>
      exact inductionHypothesis (List.forall_mem_cons.mpr ⟨(opening?_eq_some opens).1, listed⟩)
  | plain _ _ _ _ _ inductionHypothesis => exact inductionHypothesis listed

/-- Nothing can be read at the end of the text. -/
theorem ReadsScopes.eq_of_end (reads : dialect.ReadsScopes scopes cursor left place)
    (ended : cursor.rest = []) :
    left = scopes ∧ place = cursor := by
  cases reads with
  | refl => exact ⟨rfl, rfl⟩
  | @close innermost _ _ _ _ _ closes _ =>
      have shorter := length_lt_of_after? innermost.closing_ne_nil closes
      rw [ended] at shorter
      exact absurd shorter (Nat.not_lt_zero _)
  | nest _ opens _ =>
      rw [opening?_of_end ended] at opens
      cases opens
  | plain _ _ _ first _ => exact absurd (ended.symm.trans first.ahead) (List.cons_ne_nil _ _).symm

/-- The scopes that are open at the end of the text are determined by where the
reading begins. -/
theorem ReadsScopes.left_unique {others : List Delimiter} {other : Cursor}
    (reads : dialect.ReadsScopes scopes cursor left place) (ended : place.rest = [])
    (alsoReads : dialect.ReadsScopes scopes cursor others other) (alsoEnded : other.rest = []) :
    left = others := by
  induction reads with
  | refl => exact (alsoReads.eq_of_end ended).1.symm
  | @close innermost outer left cursor next place closes further inductionHypothesis =>
      cases alsoReads with
      | refl => exact ((ReadsScopes.close closes further).eq_of_end alsoEnded).1
      | close alsoCloses alsoFurther =>
          cases closes.symm.trans alsoCloses
          exact inductionHypothesis ended alsoFurther
      | nest waits => cases closes.symm.trans waits
      | plain waits => cases closes.symm.trans waits
  | @nest innermost delimiter outer left cursor inside place waits opens further
    inductionHypothesis =>
      cases alsoReads with
      | refl => exact ((ReadsScopes.nest waits opens further).eq_of_end alsoEnded).1
      | close closes => cases closes.symm.trans waits
      | nest _ alsoOpens alsoFurther =>
          cases opens.symm.trans alsoOpens
          exact inductionHypothesis ended alsoFurther
      | plain _ unopened => cases opens.symm.trans unopened
  | @plain innermost outer left cursor next place c waits unopened unclosed first further
    inductionHypothesis =>
      cases alsoReads with
      | refl =>
          exact ((ReadsScopes.plain waits unopened unclosed first further).eq_of_end alsoEnded).1
      | close closes => cases closes.symm.trans waits
      | nest _ opens => cases opens.symm.trans unopened
      | plain _ _ _ alsoFirst alsoFurther =>
          rcases List.cons.inj (first.ahead.symm.trans alsoFirst.ahead) with ⟨rfl, _⟩
          cases first.later_unique alsoFirst
          exact inductionHypothesis ended alsoFurther

/-! ## Where the loop ends -/

/-- With the scopes of the list open at the place, the loop ends there with the
result. -/
inductive EndsScopes (dialect : Dialect) :
    List Delimiter -> Cursor -> Except SyntaxError Cursor -> Prop where
  /-- All scopes are closed. -/
  | closed (place : Cursor) : EndsScopes dialect [] place (.ok place)
  /-- A closing token stands there that the innermost scope does not wait
  for. -/
  | stray {innermost : Delimiter} {outer : List Delimiter} {place : Cursor} {token : Text} :
      place.after? innermost.closing = none ->
      dialect.opening? place = none ->
      dialect.closing? place = some token ->
      EndsScopes dialect (innermost :: outer) place (.error (.unexpectedClosing place.offset token))
  /-- The text ends there. -/
  | unfinished {innermost : Delimiter} {outer : List Delimiter} {place : Cursor} :
      place.rest = [] ->
      EndsScopes dialect (innermost :: outer) place
        (.error (.outOfRange place.offset innermost.closing))

theorem exists_endsScopes (dialect : Dialect) (scopes : List Delimiter) (cursor : Cursor) :
    Exists fun left : List Delimiter => Exists fun place : Cursor =>
      dialect.ReadsScopes scopes cursor left place ∧
        dialect.EndsScopes left place (dialect.closeScopes scopes cursor) := by
  fun_induction dialect.closeScopes scopes cursor with
  | case1 cursor => exact ⟨[], cursor, .refl _ _, .closed cursor⟩
  | case2 _ _ _ _ closes inductionHypothesis =>
      rcases inductionHypothesis with ⟨left, place, reads, ends⟩
      exact ⟨left, place, .close closes reads, ends⟩
  | case3 _ _ _ waits _ _ opens inductionHypothesis =>
      rcases inductionHypothesis with ⟨left, place, reads, ends⟩
      exact ⟨left, place, .nest waits opens reads, ends⟩
  | case4 innermost outer cursor waits unopened _ stray =>
      exact ⟨innermost :: outer, cursor, .refl _ _, .stray waits unopened stray⟩
  | case5 innermost outer cursor _ _ _ ended =>
      exact ⟨innermost :: outer, cursor, .refl _ _, .unfinished ended⟩
  | case6 _ _ cursor waits unopened unclosed c rest ahead inductionHypothesis =>
      rcases inductionHypothesis with ⟨left, place, reads, ends⟩
      have first : cursor.Reads [c] ⟨cursor.offset + c.utf8Size, rest⟩ := ⟨ahead, rfl⟩
      exact ⟨left, place, .plain waits unopened unclosed first reads, ends⟩

/-! ## The scopes that are open -/

/-- Of the open scopes only the tokens that they wait for matter. -/
theorem closeScopes_congr {others : List Delimiter}
    (same : scopes.map Delimiter.closing = others.map Delimiter.closing) :
    dialect.closeScopes scopes cursor = dialect.closeScopes others cursor := by
  fun_induction dialect.closeScopes scopes cursor generalizing others with
  | case1 =>
      cases List.map_eq_nil_iff.mp same.symm
      exact closeScopes_nil.symm
  | case2 innermost outer cursor next closes inductionHypothesis =>
      rcases List.map_eq_cons_iff.mp same.symm with ⟨other, others, rfl, awaited, sameOuter⟩
      have reads : cursor.Reads other.closing next := awaited ▸ reads_of_after? closes
      exact (inductionHypothesis sameOuter.symm).trans (closeScopes_close reads).symm
  | case3 innermost outer cursor waits delimiter inside opens inductionHypothesis =>
      rcases List.map_eq_cons_iff.mp same.symm with ⟨other, others, rfl, awaited, _⟩
      have deeper : (delimiter :: innermost :: outer).map Delimiter.closing =
          (delimiter :: other :: others).map Delimiter.closing :=
        congrArg (delimiter.closing :: ·) same
      exact (inductionHypothesis deeper).trans (closeScopes_nest (awaited ▸ waits) opens).symm
  | case4 innermost outer cursor waits unopened token stray =>
      rcases List.map_eq_cons_iff.mp same.symm with ⟨other, others, rfl, awaited, _⟩
      exact (closeScopes_stray (awaited ▸ waits) unopened stray).symm
  | case5 innermost outer cursor _ _ _ ended =>
      rcases List.map_eq_cons_iff.mp same.symm with ⟨other, others, rfl, awaited, _⟩
      rw [closeScopes_of_end ended, awaited]
  | case6 innermost outer cursor waits unopened unclosed c rest ahead inductionHypothesis =>
      rcases List.map_eq_cons_iff.mp same.symm with ⟨other, others, rfl, awaited, _⟩
      have first : cursor.Reads [c] ⟨cursor.offset + c.utf8Size, rest⟩ := ⟨ahead, rfl⟩
      exact (inductionHypothesis same).trans
        (closeScopes_plain (awaited ▸ waits) unopened unclosed first).symm

/-- The text that closes the scopes, the innermost first. -/
def closings (scopes : List Delimiter) : Text := scopes.flatMap Delimiter.closing

/-- Such a text is read as nothing but closing tokens. -/
theorem closeScopes_closings (reads : cursor.Reads (closings scopes) next) :
    dialect.closeScopes (scopes ++ left) cursor = dialect.closeScopes left next := by
  unfold closings at reads
  induction scopes generalizing cursor with
  | nil =>
      have same : cursor = next := (Reads.refl cursor).later_unique reads
      rw [same, List.nil_append]
  | cons innermost scopes inductionHypothesis =>
      rw [List.flatMap_cons] at reads
      rcases reads.exists_between with ⟨inside, first, further⟩
      rw [List.cons_append, closeScopes_close first]
      exact inductionHypothesis further

end Dialect
end MarkupDirectives
