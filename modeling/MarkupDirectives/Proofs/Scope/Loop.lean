import MarkupDirectives.Proofs.Directive.Bounds
import MarkupDirectives.Proofs.Text.Cuts

namespace MarkupDirectives

open Text Cursor

/-!
# The scan of scopes as a loop

The scan of scopes as a loop that keeps nothing but the open scopes and an offset,
and cuts the text anew in every iteration.  What an iteration can do is said once,
in `exists_reads_of_turn`.
-/

/-- What the loop keeps from one iteration to the next: the open scopes, the
innermost first, and the offset that is reached. -/
structure ScopeState where
  scopes : List Delimiter
  offset : Nat

/-- How an iteration of the loop ends. -/
inductive Turn where
  /-- The loop returns this result. -/
  | returns (result : Except SyntaxError Nat)
  /-- Another iteration follows, from this state. -/
  | continues (state : ScopeState)

/-- Behind something that has been read the loop returns if no scope is open any
more. -/
def Turn.behind : (scopes : List Delimiter) -> (offset : Nat) -> Turn
  | [], offset => returns (.ok offset)
  | innermost :: outer, offset => continues ⟨innermost :: outer, offset⟩

theorem Turn.eq_of_behind {scopes : List Delimiter} {offset : Nat} {next : ScopeState}
    (goesOn : behind scopes offset = continues next) : next = ⟨scopes, offset⟩ := by
  cases scopes with
  | nil => cases goesOn
  | cons innermost outer => exact (Turn.continues.inj goesOn).symm

/-- The scopes that stay open, and the offset behind the token that closes the
innermost one, if that token is ahead. -/
def Cursor.close? (here : Cursor) : (scopes : List Delimiter) -> Option (List Delimiter × Nat)
  | [] => none
  | innermost :: outer =>
      (here.after? innermost.closing).map fun _ => (outer, here.offset + width innermost.closing)

theorem Cursor.close?_eq_none {here : Cursor} {innermost : Delimiter} {outer : List Delimiter}
    (waits : here.after? innermost.closing = none) : here.close? (innermost :: outer) = none := by
  rw [close?, waits, Option.map_none]

namespace Dialect

/-- One iteration at a place.  The end of the text is noticed first.  Then the
token that the innermost scope waits for is tried, then the opening tokens, then
the closing ones, and what is none of these is plain text. -/
def turn (dialect : Dialect) (scopes : List Delimiter) (here : Cursor) : Turn :=
  match here.rest with
  | [] => .returns (.error (.outOfRange here.offset ((scopes.head?.map (·.closing)).getD [])))
  | c :: _ =>
      match here.close? scopes with
      | some (outer, offset) => .behind outer offset
      | none =>
          match dialect.opening? here with
          | some (delimiter, _) =>
              .behind (delimiter :: scopes) (here.offset + width delimiter.opening)
          | none =>
              match dialect.closing? here with
              | some token => .returns (.error (.unexpectedClosing here.offset token))
              | none => .behind scopes (here.offset + c.utf8Size)

/-- One iteration at an offset, if the text can be cut there. -/
def turn? (dialect : Dialect) (text : Text) (state : ScopeState) : Option Turn :=
  (text.ahead? state.offset).map fun rest => dialect.turn state.scopes ⟨state.offset, rest⟩

variable {dialect : Dialect} {text : Text} {scopes : List Delimiter} {here : Cursor}
  {state next : ScopeState} {result : Except SyntaxError Nat} {count : Nat}

/-! ## What an iteration does -/

theorem turn?_of_liesIn (inText : here.LiesIn text) (scopes : List Delimiter) :
    dialect.turn? text ⟨scopes, here.offset⟩ = some (dialect.turn scopes here) := by
  rw [turn?, inText.ahead?_eq, Option.map_some]

theorem turn_close {innermost : Delimiter} {outer : List Delimiter} {place : Cursor}
    (closes : here.after? innermost.closing = some place) :
    dialect.turn (innermost :: outer) here = .behind outer place.offset := by
  have reads := reads_of_after? closes
  cases ahead : here.rest with
  | nil =>
      exact absurd
        (List.append_eq_nil_iff.mp (reads.ahead.symm.trans ahead)).1 innermost.closing_ne_nil
  | cons c rest => simp only [turn, ahead, Cursor.close?, closes, Option.map_some, reads.offset]

theorem turn_open {delimiter : Delimiter} {inside : Cursor} (waits : here.close? scopes = none)
    (opens : dialect.opening? here = some (delimiter, inside)) :
    dialect.turn scopes here = .behind (delimiter :: scopes) inside.offset := by
  have reads := reads_of_opening? opens
  cases ahead : here.rest with
  | nil =>
      exact absurd
        (List.append_eq_nil_iff.mp (reads.ahead.symm.trans ahead)).1 delimiter.opening_ne_nil
  | cons c rest => simp only [turn, ahead, waits, opens, reads.offset]

theorem turn_stray {token : Text} (waits : here.close? scopes = none)
    (unopened : dialect.opening? here = none) (stray : dialect.closing? here = some token) :
    dialect.turn scopes here = .returns (.error (.unexpectedClosing here.offset token)) := by
  cases ahead : here.rest with
  | nil => exact absurd (closing?_of_end ahead) (Option.ne_none_iff_exists'.mpr ⟨token, stray⟩)
  | cons c rest => simp only [turn, ahead, waits, unopened, stray]

theorem turn_plain {c : Char} {rest : Text} (waits : here.close? scopes = none)
    (unopened : dialect.opening? here = none) (unclosed : dialect.closing? here = none)
    (ahead : here.rest = c :: rest) :
    dialect.turn scopes here = .behind scopes (here.offset + c.utf8Size) := by
  simp only [turn, ahead, waits, unopened, unclosed]

theorem turn_end (ended : here.rest = []) :
    dialect.turn scopes here =
      .returns (.error (.outOfRange here.offset ((scopes.head?.map (·.closing)).getD []))) := by
  simp only [turn, ended]

/-- An iteration that is followed by another has read something, and has opened
one scope at the most. -/
theorem exists_reads_of_turn (goesOn : dialect.turn scopes here = .continues next) :
    Exists fun passed : Text => Exists fun place : Cursor =>
      passed ≠ [] ∧ here.Reads passed place ∧ next.offset = place.offset ∧
        next.scopes.length ≤ scopes.length + 1 := by
  cases ahead : here.rest with
  | nil => cases (turn_end ahead).symm.trans goesOn
  | cons c rest =>
      simp only [turn, ahead] at goesOn
      split at goesOn
      · next outer offset closes =>
          cases Turn.eq_of_behind goesOn
          cases scopes with
          | nil => cases closes
          | cons innermost outer =>
              rcases Option.map_eq_some_iff.mp closes with ⟨place, found, same⟩
              cases same
              have reads := reads_of_after? found
              exact ⟨_, place, innermost.closing_ne_nil, reads, reads.offset.symm,
                by simp only [List.length_cons]; omega⟩
      · split at goesOn
        · next delimiter inside opens =>
            cases Turn.eq_of_behind goesOn
            have reads := reads_of_opening? opens
            exact ⟨_, inside, delimiter.opening_ne_nil, reads, reads.offset.symm, Nat.le_refl _⟩
        · split at goesOn
          · cases goesOn
          · cases Turn.eq_of_behind goesOn
            exact ⟨[c], ⟨here.offset + c.utf8Size, rest⟩, List.cons_ne_nil _ _, ⟨ahead, rfl⟩, rfl,
              Nat.le_succ _⟩

/-- An iteration that is followed by another goes from one boundary to a later
one, over at least as many bytes as scopes are added. -/
theorem progress_of_turn? (goesOn : dialect.turn? text state = some (.continues next)) :
    text.IsBoundary state.offset ∧ text.IsBoundary next.offset ∧ state.offset < next.offset ∧
      next.scopes.length ≤ state.scopes.length + 1 := by
  rcases Option.map_eq_some_iff.mp goesOn with ⟨rest, cut, turned⟩
  have inText := ahead?_eq_some_iff.mp cut
  rcases exists_reads_of_turn turned with ⟨passed, place, nonempty, reads, same, grows⟩
  have positive := Nat.pos_of_ne_zero (mt width_eq_zero_iff.mp nonempty)
  have offset := reads.offset
  refine ⟨inText.isBoundary, same ▸ (inText.of_reads reads).isBoundary, ?_, grows⟩
  rw [same, offset]
  exact Nat.lt_add_of_pos_right positive

/-! ## The loop as a whole -/

/-- The result of the loop from a state on, if the text can be cut in every
iteration. -/
def loop? (dialect : Dialect) (text : Text) (state : ScopeState) :
    Option (Except SyntaxError Nat) :=
  match _ : dialect.turn? text state with
  | none => none
  | some (.returns result) => some result
  | some (.continues next) => dialect.loop? text next
termination_by width text - state.offset
decreasing_by
  have goesOn : dialect.turn? text state = some (.continues next) := by assumption
  have further := progress_of_turn? goesOn
  have inside := further.2.1.le_width
  omega

/-- What the loop has come to after a number of iterations, or when it has
returned. -/
def turns? (dialect : Dialect) (text : Text) : (count : Nat) -> (state : ScopeState) -> Option Turn
  | 0, state => some (.continues state)
  | count + 1, state =>
      match dialect.turn? text state with
      | some (.continues next) => dialect.turns? text count next
      | other => other

theorem loop?_of_returns (returned : dialect.turn? text state = some (.returns result)) :
    dialect.loop? text state = some result := by
  rw [loop?]
  split
  · next uncut => cases uncut.symm.trans returned
  · next taken =>
      cases taken.symm.trans returned
      rfl
  · next taken => cases taken.symm.trans returned

theorem loop?_of_continues (goesOn : dialect.turn? text state = some (.continues next)) :
    dialect.loop? text state = dialect.loop? text next := by
  rw [loop?]
  split
  · next uncut => cases uncut.symm.trans goesOn
  · next taken => cases taken.symm.trans goesOn
  · next taken =>
      cases taken.symm.trans goesOn
      rfl

/-- Every cut of the loop can be made, since the offset is always a boundary. -/
theorem exists_turn?_of_isBoundary (dialect : Dialect) (boundary : text.IsBoundary state.offset) :
    Exists fun turn : Turn => dialect.turn? text state = some turn := by
  rcases exists_liesIn_of_isBoundary boundary with ⟨rest, inText⟩
  exact ⟨_, turn?_of_liesIn inText state.scopes⟩

/-- As many iterations as there are bytes ahead, and one more, are enough for the
loop to return. -/
theorem exists_turns?_eq_returns (dialect : Dialect) (boundary : text.IsBoundary state.offset)
    (enough : width text - state.offset < count) :
    Exists fun result : Except SyntaxError Nat =>
      dialect.turns? text count state = some (.returns result) ∧
      dialect.loop? text state = some result := by
  induction count generalizing state with
  | zero => exact absurd enough (Nat.not_lt_zero _)
  | succ count inductionHypothesis =>
      rcases exists_turn?_of_isBoundary dialect boundary with ⟨turned, taken⟩
      cases turned with
      | returns result =>
          refine ⟨result, ?_, loop?_of_returns taken⟩
          rw [turns?, taken]
      | continues next =>
          rcases progress_of_turn? taken with ⟨_, alsoBoundary, further, _⟩
          have inside := alsoBoundary.le_width
          rw [turns?, taken, loop?_of_continues taken]
          exact inductionHypothesis alsoBoundary (by omega)

/-- From every boundary on the loop has a result, whatever scopes are open. -/
theorem exists_loop? (dialect : Dialect) (inText : here.LiesIn text) (scopes : List Delimiter) :
    Exists fun result : Except SyntaxError Nat =>
      dialect.loop? text ⟨scopes, here.offset⟩ = some result := by
  have boundary : text.IsBoundary (ScopeState.mk scopes here.offset).offset := inText.isBoundary
  rcases exists_turns?_eq_returns dialect boundary (Nat.lt_succ_self _) with ⟨result, _, looped⟩
  exact ⟨result, looped⟩

/-- Each iteration that the loop has survived has read a byte, and for each scope
that is open a byte has been read. -/
theorem progress_of_turns? (boundary : text.IsBoundary state.offset)
    (goesOn : dialect.turns? text count state = some (.continues next)) :
    text.IsBoundary next.offset ∧ state.offset + count ≤ next.offset ∧
      next.scopes.length + state.offset ≤ state.scopes.length + next.offset := by
  induction count generalizing state with
  | zero =>
      cases goesOn
      exact ⟨boundary, Nat.le_refl _, Nat.le_refl _⟩
  | succ count inductionHypothesis =>
      rw [turns?] at goesOn
      split at goesOn
      · next between taken =>
          rcases progress_of_turn? taken with ⟨_, alsoBoundary, further, grows⟩
          rcases inductionHypothesis alsoBoundary goesOn with ⟨stays, counted, filled⟩
          exact ⟨stays, by omega, by omega⟩
      · next unfinished => exact absurd goesOn (unfinished next)

/-! ## The loop and the scopes -/

/-- If an iteration reads what the scan of scopes reads, and the other iterations
find what the rest of that scan finds, then the loop finds what the scan does. -/
theorem loop?_of_behind {place : Cursor}
    (turned : dialect.turn? text state = some (.behind scopes place.offset)) (rest : scopes ≠ [] ->
      dialect.loop? text ⟨scopes, place.offset⟩ =
        some ((dialect.closeScopes scopes place).map Cursor.offset)) :
    dialect.loop? text state = some ((dialect.closeScopes scopes place).map Cursor.offset) := by
  cases scopes with
  | nil =>
      rw [closeScopes_nil]
      exact loop?_of_returns turned
  | cons innermost outer =>
      rw [← rest (List.cons_ne_nil _ _)]
      exact loop?_of_continues turned

/-- With open scopes the loop finds what `closeScopes` finds. -/
theorem loop?_eq_closeScopes (inText : here.LiesIn text) (nonempty : scopes ≠ []) :
    dialect.loop? text ⟨scopes, here.offset⟩ =
      some ((dialect.closeScopes scopes here).map Cursor.offset) := by
  fun_induction dialect.closeScopes scopes here with
  | case1 => exact absurd rfl nonempty
  | case2 innermost outer here next closes inductionHypothesis =>
      refine loop?_of_behind ?_ (inductionHypothesis (inText.of_reads (reads_of_after? closes)))
      rw [turn?_of_liesIn inText, turn_close closes]
  | case3 innermost outer here waits delimiter inside opens inductionHypothesis =>
      refine loop?_of_behind ?_ (inductionHypothesis (inText.of_reads (reads_of_opening? opens)))
      rw [turn?_of_liesIn inText, turn_open (Cursor.close?_eq_none waits) opens]
  | case4 innermost outer here waits unopened token stray =>
      apply loop?_of_returns
      rw [turn?_of_liesIn inText, turn_stray (Cursor.close?_eq_none waits) unopened stray]
      rfl
  | case5 innermost outer here waits unopened unclosed ended =>
      apply loop?_of_returns
      rw [turn?_of_liesIn inText, turn_end ended]
      rfl
  | case6 innermost outer here waits unopened unclosed c rest ahead inductionHypothesis =>
      have reads : here.Reads [c] ⟨here.offset + c.utf8Size, rest⟩ := ⟨ahead, rfl⟩
      refine loop?_of_behind ?_ (inductionHypothesis (inText.of_reads reads))
      rw [turn?_of_liesIn inText, turn_plain (Cursor.close?_eq_none waits) unopened unclosed ahead]

/-- From an opening token on the loop finds where the scope ends that it opens. -/
theorem loop?_of_opening? {delimiter : Delimiter} {inside : Cursor} (inText : here.LiesIn text)
    (opens : dialect.opening? here = some (delimiter, inside)) :
    dialect.loop? text ⟨[], here.offset⟩ =
      some ((dialect.closeScopes [delimiter] inside).map Cursor.offset) := by
  refine loop?_of_behind ?_ (loop?_eq_closeScopes (inText.of_reads (reads_of_opening? opens)))
  rw [turn?_of_liesIn inText, turn_open rfl opens]

end Dialect
end MarkupDirectives
