import MarkupDirectives.Proofs.Dialect.Token
import MarkupDirectives.Scope

namespace MarkupDirectives

open Text Cursor

/-!
# The grammar of scopes

`Scope` says from where to where a scope extends, by recursion over what it
contains.  The loop keeps a stack instead.  Its invariant is `ClosesAll`: what
the grammar says of a whole stack does not change from one step to the next.
-/

/-- From the offset `start` a scope that waits for `closing` extends to the
offset `stop`. -/
inductive Scope (dialect : Dialect) (text : Text) :
    (closing : Text) -> (start stop : Nat) -> Prop where
  /-- The token that is waited for ends the scope. -/
  | close {closing : Text} {start : Nat} :
      text.HasAt start closing -> Scope dialect text closing start (start + width closing)
  /-- An opening token begins an inner scope, after which the outer one goes
  on. -/
  | nest {closing : Text} {start inner stop : Nat} {delimiter : Delimiter} :
      ¬ text.HasAt start closing ->
      dialect.OpensAt text start delimiter ->
      Scope dialect text delimiter.closing (start + width delimiter.opening) inner ->
      Scope dialect text closing inner stop ->
      Scope dialect text closing start stop
  /-- A character at which no token stands is part of the scope. -/
  | plain {closing : Text} {start stop : Nat} {c : Char} :
      text.HasAt start [c] ->
      ¬ text.HasAt start closing ->
      (forall delimiter, delimiter ∈ dialect.delimiters ->
        ¬ text.HasAt start delimiter.opening ∧ ¬ text.HasAt start delimiter.closing) ->
      Scope dialect text closing (start + c.utf8Size) stop ->
      Scope dialect text closing start stop

/-- From `start` to `stop` scopes for all of the delimiters end one after the
other, the innermost first. -/
def ClosesAll (dialect : Dialect) (text : Text) :
    (scopes : List Delimiter) -> (start stop : Nat) -> Prop
  | [], start, stop => start = stop
  | innermost :: outer, start, stop =>
      Exists fun inner : Nat =>
        Scope dialect text innermost.closing start inner ∧ ClosesAll dialect text outer inner stop

namespace Scope

variable {dialect : Dialect} {text closing : Text} {start stop : Nat}

/-! ## One step of the grammar at a time -/

theorem iff_of_hasAt (stands : text.HasAt start closing) :
    Scope dialect text closing start stop ↔ stop = start + width closing := by
  constructor
  · intro scope
    cases scope with
    | close => rfl
    | nest absent => exact absurd stands absent
    | plain _ absent => exact absurd stands absent
  · rintro rfl
    exact close stands

/-- Where a delimiter opens, an inner scope and the rest of the outer one
follow. -/
theorem iff_of_opensAt {delimiter : Delimiter} (absent : ¬ text.HasAt start closing)
    (opens : dialect.OpensAt text start delimiter) :
    Scope dialect text closing start stop ↔
      Exists fun inner : Nat =>
        Scope dialect text delimiter.closing (start + width delimiter.opening) inner ∧
          Scope dialect text closing inner stop := by
  constructor
  · intro scope
    cases scope with
    | close stands => exact absurd stands absent
    | nest _ alsoOpens inside outside =>
        cases opens.unique alsoOpens
        exact ⟨_, inside, outside⟩
    | plain _ _ bare _ =>
        exact absurd opens.1 (bare delimiter opens.mem).1
  · rintro ⟨inner, inside, outside⟩
    exact nest absent opens inside outside

/-- A plain character makes no difference to where the scope ends. -/
theorem iff_of_plain {c : Char} (standing : text.HasAt start [c])
    (absent : ¬ text.HasAt start closing)
    (bare : forall delimiter, delimiter ∈ dialect.delimiters ->
      ¬ text.HasAt start delimiter.opening ∧ ¬ text.HasAt start delimiter.closing) :
    Scope dialect text closing start stop ↔
      Scope dialect text closing (start + c.utf8Size) stop := by
  constructor
  · intro scope
    cases scope with
    | close stands => exact absurd stands absent
    | nest _ opens =>
        exact absurd opens.1 (bare _ opens.mem).1
    | @plain _ _ _ d alsoStanding _ _ scope =>
        cases standing.char_unique alsoStanding
        exact scope
  · exact plain standing absent bare

/-- No scope extends over a place at which nothing can be read: neither the
token that is waited for, nor an opening token, nor a plain character. -/
theorem not_of_stuck (absent : ¬ text.HasAt start closing)
    (unopened : forall delimiter,
      delimiter ∈ dialect.delimiters -> ¬ text.HasAt start delimiter.opening)
    (stray : (Exists fun delimiter =>
      delimiter ∈ dialect.delimiters ∧ text.HasAt start delimiter.closing) ∨
      forall c, ¬ text.HasAt start [c]) :
    ¬ Scope dialect text closing start stop := by
  intro scope
  cases scope with
  | close stands => exact absent stands
  | nest _ opens =>
      exact unopened _ opens.mem opens.1
  | plain standing _ bare _ =>
      rcases stray with ⟨delimiter, member, stands⟩ | ended
      · exact (bare delimiter member).2 stands
      · exact ended _ standing

theorem unique {other : Nat} (scope : Scope dialect text closing start stop)
    (alsoScope : Scope dialect text closing start other) : stop = other := by
  induction scope generalizing other with
  | close stands => exact ((iff_of_hasAt stands).mp alsoScope).symm
  | nest absent opens _ _ insideHypothesis outsideHypothesis =>
      rcases (iff_of_opensAt absent opens).mp alsoScope with ⟨inner, inside, outside⟩
      cases insideHypothesis inside
      exact outsideHypothesis outside
  | plain standing absent bare _ inductionHypothesis =>
      exact inductionHypothesis ((iff_of_plain standing absent bare).mp alsoScope)

end Scope

namespace Dialect

variable {dialect : Dialect} {text : Text} {scopes : List Delimiter} {cursor : Cursor}

/-! ## The loop and the grammar -/

/-- The loop accepts a stack of scopes exactly where the grammar closes them
all. -/
theorem closeScopes_iff_closesAll {stop : Nat} (inText : cursor.LiesIn text) :
    (Exists fun place : Cursor =>
      dialect.closeScopes scopes cursor = .ok place ∧ place.offset = stop) ↔
      ClosesAll dialect text scopes cursor.offset stop := by
  fun_induction dialect.closeScopes scopes cursor with
  | case1 cursor =>
      constructor
      · rintro ⟨_, same, rfl⟩
        cases same
        rfl
      · rintro rfl
        exact ⟨cursor, rfl, rfl⟩
  | case2 innermost outer cursor next closes inductionHypothesis =>
      have reads := reads_of_after? closes
      rw [inductionHypothesis (inText.of_reads reads), reads.offset]
      simp only [ClosesAll, Scope.iff_of_hasAt (inText.hasAt_of_reads reads), exists_eq_left]
  | case3 innermost outer cursor waits delimiter inside opens inductionHypothesis =>
      have reads := reads_of_opening? opens
      have opensHere := (opensAt_iff inText).mpr ⟨inside, opens⟩
      rw [inductionHypothesis (inText.of_reads reads), reads.offset]
      simp only [ClosesAll, Scope.iff_of_opensAt (inText.not_hasAt waits) opensHere]
      constructor
      · rintro ⟨inner, first, middle, second, closed⟩
        exact ⟨middle, ⟨inner, first, second⟩, closed⟩
      · rintro ⟨middle, ⟨inner, first, second⟩, closed⟩
        exact ⟨inner, first, middle, second, closed⟩
  | case4 innermost outer cursor waits unopened token stray =>
      rcases closing?_eq_some stray with ⟨⟨delimiter, member, rfl⟩, begins⟩
      constructor
      · rintro ⟨_, impossible, _⟩
        cases impossible
      · rintro ⟨inner, scope, _⟩
        exact absurd scope (Scope.not_of_stuck (inText.not_hasAt waits)
          ((unopened_iff inText).mpr unopened)
          (Or.inl ⟨delimiter, member, inText.hasAt_iff.mpr begins⟩))
  | case5 innermost outer cursor waits unopened _ ended =>
      have nothing : forall c, ¬ text.HasAt cursor.offset [c] := by
        intro c standing
        have begins := inText.hasAt_iff.mp standing
        rw [ended, List.prefix_nil] at begins
        cases begins
      constructor
      · rintro ⟨_, impossible, _⟩
        cases impossible
      · rintro ⟨inner, scope, _⟩
        exact absurd scope (Scope.not_of_stuck (inText.not_hasAt waits)
          ((unopened_iff inText).mpr unopened) (Or.inr nothing))
  | case6 innermost outer cursor waits unopened unclosed c rest ahead inductionHypothesis =>
      have reads : cursor.Reads [c] ⟨cursor.offset + c.utf8Size, rest⟩ := ⟨ahead, rfl⟩
      have bare := (bare_iff inText).mpr ⟨unopened, unclosed⟩
      rw [inductionHypothesis (inText.of_reads reads)]
      simp only [ClosesAll,
        Scope.iff_of_plain (inText.hasAt_of_reads reads) (inText.not_hasAt waits) bare]

theorem closeScopes_iff_scope {delimiter : Delimiter} {stop : Nat} (inText : cursor.LiesIn text) :
    (Exists fun place : Cursor =>
        dialect.closeScopes [delimiter] cursor = .ok place ∧ place.offset = stop) ↔
      Scope dialect text delimiter.closing cursor.offset stop := by
  rw [closeScopes_iff_closesAll inText]
  simp only [ClosesAll, exists_eq_right]

/-- The loop never goes back and skips nothing, and what it reads ends with the
closing token of the outermost scope. -/
theorem exists_reads_closing {outermost : Delimiter} {stop : Cursor}
    (closed : dialect.closeScopes (scopes ++ [outermost]) cursor = .ok stop) :
    Exists fun passed : Text => cursor.Reads (passed ++ outermost.closing) stop := by
  generalize all : scopes ++ [outermost] = stack at closed
  fun_induction dialect.closeScopes stack cursor generalizing scopes with
  | case1 => exact absurd all (by simp)
  | case2 innermost outer cursor next closes inductionHypothesis =>
      cases scopes with
      | nil =>
          cases all
          rw [closeScopes] at closed
          cases closed
          exact ⟨[], reads_of_after? closes⟩
      | cons _ scopes =>
          cases all
          rcases inductionHypothesis rfl closed with ⟨passed, reads⟩
          have whole := (reads_of_after? closes).trans reads
          rw [← List.append_assoc] at whole
          exact ⟨_, whole⟩
  | case3 innermost outer cursor _ delimiter inside opens inductionHypothesis =>
      have deeper : (delimiter :: scopes) ++ [outermost] = delimiter :: innermost :: outer := by
        rw [List.cons_append, all]
      rcases inductionHypothesis deeper closed with ⟨passed, reads⟩
      have whole := (reads_of_opening? opens).trans reads
      rw [← List.append_assoc] at whole
      exact ⟨_, whole⟩
  | case4 => cases closed
  | case5 => cases closed
  | case6 innermost outer cursor _ _ _ c rest ahead inductionHypothesis =>
      rcases inductionHypothesis all closed with ⟨passed, reads⟩
      have first : cursor.Reads [c] ⟨cursor.offset + c.utf8Size, rest⟩ := ⟨ahead, rfl⟩
      have whole := first.trans reads
      rw [← List.append_assoc] at whole
      exact ⟨_, whole⟩

theorem exists_reads_of_closeScopes {delimiter : Delimiter} {stop : Cursor}
    (closed : dialect.closeScopes [delimiter] cursor = .ok stop) :
    Exists fun passed : Text => cursor.Reads (passed ++ delimiter.closing) stop := by
  have outermost : dialect.closeScopes ([] ++ [delimiter]) cursor = .ok stop := closed
  exact exists_reads_closing outermost

/-- Wherever a delimiter opens in a text, the scanner finds that delimiter and
ends exactly where the grammar ends the scope.  There is at most one such
place, and scanning fails exactly if there is none. -/
theorem scan_delimited_iff_scope (dialect : Dialect) (text : Text) (start : Nat)
    (delimiter : Delimiter) (opens : dialect.OpensAt text start delimiter) :
    Exists fun before : Text => Exists fun rest : Text => Exists fun inside : Cursor =>
      text.splitAt? start = some (before, rest) ∧
      dialect.opening? ⟨start, rest⟩ = some (delimiter, inside) ∧
      (forall stop : Nat,
        (Exists fun place : Cursor =>
            dialect.closeScopes [delimiter] inside = .ok place ∧ place.offset = stop) ↔
          Scope dialect text delimiter.closing (start + width delimiter.opening) stop) ∧
      (forall stop other : Nat,
        Scope dialect text delimiter.closing (start + width delimiter.opening) stop ->
        Scope dialect text delimiter.closing (start + width delimiter.opening) other ->
          stop = other) ∧
      ((Exists fun error : SyntaxError => dialect.closeScopes [delimiter] inside = .error error) ↔
        ¬ Exists fun stop : Nat =>
          Scope dialect text delimiter.closing (start + width delimiter.opening) stop) := by
  rcases exists_liesIn_of_isBoundary opens.1.isBoundary with ⟨rest, inText⟩
  rcases inText.exists_before with ⟨before, whole, wide⟩
  rcases (opensAt_iff inText).mp opens with ⟨inside, found⟩
  have reads := reads_of_opening? found
  have agree : forall stop : Nat,
      (Exists fun place : Cursor =>
          dialect.closeScopes [delimiter] inside = .ok place ∧ place.offset = stop) ↔
        Scope dialect text delimiter.closing (start + width delimiter.opening) stop := by
    intro stop
    rw [closeScopes_iff_scope (inText.of_reads reads), reads.offset]
  refine ⟨before, rest, inside, splitAt?_eq_some_iff.mpr ⟨whole, wide⟩, found, agree,
    fun _ _ scope alsoScope => scope.unique alsoScope, ?_⟩
  constructor
  · rintro ⟨error, failed⟩ ⟨stop, scope⟩
    rcases (agree stop).mpr scope with ⟨place, closed, _⟩
    rw [failed] at closed
    cases closed
  · intro endless
    cases result : dialect.closeScopes [delimiter] inside with
    | error error => exact ⟨error, rfl⟩
    | ok place => exact absurd ⟨place.offset, (agree place.offset).mp ⟨place, result, rfl⟩⟩ endless

/-- Braces and quotes are nested inside the parentheses, behind a character of
two bytes. -/
theorem scan_delimited_nested :
    OpensAt standard ['=', '@', '(', 'é', '\x7b', '\'', 'x', '\'', '\x7d', ')', 'y'] 1
        ⟨['@', '('], [')'], by decide, by decide⟩ ∧
      Scope standard ['=', '@', '(', 'é', '\x7b', '\'', 'x', '\'', '\x7d', ')', 'y']
        [')'] 3 11 := by
  have inText : LiesIn ⟨1, ['@', '(', 'é', '\x7b', '\'', 'x', '\'', '\x7d', ')', 'y']⟩
      ['=', '@', '(', 'é', '\x7b', '\'', 'x', '\'', '\x7d', ')', 'y'] := ⟨['='], rfl, rfl⟩
  have opens : OpensAt standard _ 1 ⟨['@', '('], [')'], by decide, by decide⟩ :=
    (opensAt_iff inText).mpr ⟨_, rfl⟩
  rcases scan_delimited_iff_scope standard _ 1 _ opens with ⟨_, _, _, cut, found, ends, _⟩
  cases cut
  cases found
  exact ⟨opens, (ends 11).mp ⟨⟨11, ['y']⟩, by with_unfolding_all rfl, rfl⟩⟩

end Dialect
end MarkupDirectives
