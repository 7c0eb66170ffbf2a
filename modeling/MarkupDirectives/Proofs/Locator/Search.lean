import Mathlib.Order.Bounds.Defs
import MarkupDirectives.Locator
import MarkupDirectives.Proofs.Directive.Extent
import MarkupDirectives.Proofs.Polling

namespace MarkupDirectives

open Text Cursor

/-!
# Searches

`Search` follows the directives of a text and knows nothing of the locator's
states.  One induction over it settles what holds of all items.
-/

/-! ## The next marker -/

namespace Dialect

variable {dialect : Dialect} {markup : Text}

/-- If no marker is found, none begins anywhere ahead. -/
theorem le_of_findMarker?_eq_none {cursor : Cursor} {offset : Nat} (inText : cursor.LiesIn markup)
    (absent : dialect.findMarker? cursor.offset cursor.rest = none)
    (marker : dialect.MarkerAt markup offset) : offset < cursor.offset := by
  rcases cursor with ⟨start, rest⟩
  induction rest generalizing start with
  | nil =>
      have whole : start = width markup := inText.offset_add_width
      exact whole ▸ marker.lt_width
  | cons c rest inductionHypothesis =>
      rw [findMarker?] at absent
      split at absent
      · cases absent
      · next unmarked =>
          have before :=
            inductionHypothesis (start + c.utf8Size)
              (inText.of_reads (reads_cons start c rest)) absent
          by_contra beyond
          rcases inText.exists_before with ⟨passed, rfl, rfl⟩
          rcases eq_or_le_of_isBoundary marker.isBoundary (Nat.le_of_not_lt beyond) with
            rfl | further
          · rcases (markerAt_iff inText).mp marker with ⟨next, found⟩
            rw [unmarked] at found
            cases found
          · exact absurd before (Nat.not_lt_of_ge further)

/-- The marker that is found is the first one ahead. -/
theorem isLeast_of_findMarker? {cursor marked : Cursor} {start : Nat}
    (inText : cursor.LiesIn markup)
    (found : dialect.findMarker? cursor.offset cursor.rest = some (start, marked)) :
    IsLeast {offset | cursor.offset ≤ offset ∧ dialect.MarkerAt markup offset} start := by
  rcases cursor with ⟨place, rest⟩
  induction rest generalizing place with
  | nil => cases found
  | cons c rest inductionHypothesis =>
      rw [findMarker?] at found
      split at found
      · next follows =>
          cases found
          exact ⟨⟨Nat.le_refl _, (markerAt_iff inText).mpr ⟨_, follows⟩⟩,
            fun _ candidate => candidate.1⟩
      · next unmarked =>
          have least :=
            inductionHypothesis (place + c.utf8Size)
              (inText.of_reads (reads_cons place c rest)) found
          refine ⟨⟨Nat.le_trans (Nat.le_add_right _ _) least.1.1, least.1.2⟩, ?_⟩
          rintro offset ⟨beyond, marker⟩
          rcases inText.exists_before with ⟨passed, rfl, rfl⟩
          rcases eq_or_le_of_isBoundary marker.isBoundary beyond with rfl | further
          · rcases (markerAt_iff inText).mp marker with ⟨next, follows⟩
            rw [unmarked] at follows
            cases follows
          · exact least.2 ⟨further, marker⟩

/-- The marker that is found is read at a place ahead. -/
theorem exists_place_of_findMarker? {cursor marked : Cursor} {start : Nat}
    (found : dialect.findMarker? cursor.offset cursor.rest = some (start, marked)) :
    Exists fun skipped : Text => Exists fun place : Cursor =>
      cursor.Reads skipped place ∧ place.offset = start ∧
      dialect.afterMarker? place = some marked := by
  rcases cursor with ⟨offset, rest⟩
  induction rest generalizing offset with
  | nil => cases found
  | cons c rest inductionHypothesis =>
      rw [findMarker?] at found
      split at found
      · next follows =>
          cases found
          exact ⟨[], _, Reads.refl _, rfl, follows⟩
      · rcases inductionHypothesis _ found with ⟨skipped, place, reads, same, follows⟩
        exact ⟨[c] ++ skipped, place, (reads_cons offset c rest).trans reads, same, follows⟩

theorem exists_reads_of_findMarker? {cursor marked : Cursor} {start : Nat}
    (found : dialect.findMarker? cursor.offset cursor.rest = some (start, marked)) :
    Exists fun passed : Text => cursor.Reads passed marked ∧ cursor.offset < marked.offset := by
  rcases exists_place_of_findMarker? found with ⟨skipped, place, reads, _, follows⟩
  rcases afterMarker?_eq_some_iff.mp follows with ⟨nonempty, head, spells, goesOn⟩
  refine ⟨_, reads.trans goesOn, ?_⟩
  have positive := spells.width_pos nonempty
  have begins := reads.offset_le
  rw [goesOn.offset]
  omega

/-- From one directive to the end of the next one nothing is skipped. -/
theorem exists_reads_of_step {cursor marked stop : Cursor} {start : Nat}
    (found : dialect.findMarker? cursor.offset cursor.rest = some (start, marked))
    (scanned : dialect.scanDirective marked = .ok stop) :
    Exists fun passed : Text => cursor.Reads passed stop := by
  rcases exists_reads_of_findMarker? found with ⟨_, reads, _⟩
  rcases exists_reads_of_scanDirective scanned with ⟨_, goesOn⟩
  exact ⟨_, reads.trans goesOn⟩

/-! ## What a search finds -/

/-- From the place on, the spans are found one after the other, and then the
error, if there is one. -/
inductive Search (dialect : Dialect) : Cursor -> List Span -> Option SyntaxError -> Prop where
  /-- No marker is ahead. -/
  | ended {cursor : Cursor} :
      dialect.findMarker? cursor.offset cursor.rest = none -> Search dialect cursor [] none
  /-- The directive at the next marker is malformed. -/
  | malformed {cursor marked : Cursor} {start : Nat} {error : SyntaxError} :
      dialect.findMarker? cursor.offset cursor.rest = some (start, marked) ->
      dialect.scanDirective marked = .error error ->
      Search dialect cursor [] (some error)
  /-- The directive at the next marker ends somewhere, and the search goes on
  there. -/
  | located {cursor marked stop : Cursor} {start : Nat} {spans : List Span}
    {failure : Option SyntaxError} :
      dialect.findMarker? cursor.offset cursor.rest = some (start, marked) ->
      dialect.scanDirective marked = .ok stop ->
      Search dialect stop spans failure ->
      Search dialect cursor (⟨start, stop.offset⟩ :: spans) failure

end Dialect

namespace Locator

open Dialect Polling

/-- The list of items follows the polls. -/
theorem items_of_next_none {locator : Locator} (ended : locator.next.1 = none) :
    locator.items = [] := by
  rw [items]
  split
  · rfl
  · next taken =>
      rw [taken] at ended
      cases ended

theorem items_of_next_some {locator : Locator} {item : Finding}
    (taken : locator.next.1 = some item) :
    locator.items = item :: locator.next.2.items := by
  rw [items]
  split
  · next ended =>
      rw [ended] at taken
      cases taken
  · next sameTaken =>
      rw [sameTaken] at taken
      cases taken
      rw [sameTaken]

theorem next_of_next_none {locator : Locator} (ended : locator.next.1 = none) :
    locator.next.2.next.1 = none := by
  unfold next at ended
  split at ended
  · next finished => simp [next, finished]
  · next running =>
      split at ended
      · next absent => simp [next, running, absent]
      · split at ended <;> cases ended

theorem answer_eq_items_getElem? (locator : Locator) (count : Nat) :
    answer Locator.next count locator = locator.items[count]? :=
  answer_eq_getElem? (fun _ => items_of_next_none) (fun _ _ => items_of_next_some)
    (fun _ => next_of_next_none) count locator

/-! ## The three steps of a locator -/

theorem next_of_ended {dialect : Dialect} {cursor : Cursor}
    (absent : dialect.findMarker? cursor.offset cursor.rest = none) :
    next ⟨dialect, cursor, false⟩ = (none, ⟨dialect, cursor, true⟩) := by
  simp only [next, Bool.false_eq_true, if_false, absent]

theorem next_of_malformed {dialect : Dialect} {cursor marked : Cursor} {start : Nat}
    {error : SyntaxError}
    (found : dialect.findMarker? cursor.offset cursor.rest = some (start, marked))
    (failed : dialect.scanDirective marked = .error error) :
    next ⟨dialect, cursor, false⟩ = (some (.error error), ⟨dialect, cursor, true⟩) := by
  simp only [next, Bool.false_eq_true, if_false, found, failed]

theorem next_of_located {dialect : Dialect} {cursor marked stop : Cursor} {start : Nat}
    (found : dialect.findMarker? cursor.offset cursor.rest = some (start, marked))
    (scanned : dialect.scanDirective marked = .ok stop) :
    next ⟨dialect, cursor, false⟩ = (some (.ok ⟨start, stop.offset⟩), ⟨dialect, stop, false⟩) := by
  simp only [next, Bool.false_eq_true, if_false, found, scanned]

/-- The items of a locator are what a search from its place finds. -/
theorem items_of_search {dialect : Dialect} {cursor : Cursor} {spans : List Span}
    {failure : Option SyntaxError} (search : dialect.Search cursor spans failure) :
    items ⟨dialect, cursor, false⟩ = outcome spans failure := by
  induction search with
  | ended absent =>
      have taken := next_of_ended absent
      exact items_of_next_none (congrArg Prod.fst taken)
  | malformed found failed =>
      have taken := next_of_malformed found failed
      rw [items_of_next_some (congrArg Prod.fst taken), taken, items_of_next_none rfl]
      rfl
  | located found scanned _ inductionHypothesis =>
      have taken := next_of_located found scanned
      rw [items_of_next_some (congrArg Prod.fst taken), taken, inductionHypothesis, outcome_cons]

end Locator

/-- From every place on there is a search, because each of its steps goes
forward. -/
theorem Dialect.exists_search (dialect : Dialect) (cursor : Cursor) :
    Exists fun spans : List Span => Exists fun failure : Option SyntaxError =>
      dialect.Search cursor spans failure := by
  induction size : cursor.rest.length using Nat.strong_induction_on generalizing cursor with
  | _ size inductionHypothesis =>
      subst size
      cases found : dialect.findMarker? cursor.offset cursor.rest with
      | none => exact ⟨[], none, .ended found⟩
      | some marker =>
          rcases marker with ⟨start, marked⟩
          cases scanned : dialect.scanDirective marked with
          | error error => exact ⟨[], some error, .malformed found scanned⟩
          | ok stop =>
              have shorter : stop.rest.length < cursor.rest.length :=
                Nat.lt_of_le_of_lt (length_le_of_scanDirective scanned)
                  (length_lt_of_findMarker? found)
              rcases inductionHypothesis _ shorter stop rfl with ⟨spans, failure, search⟩
              exact ⟨_, failure, .located found scanned search⟩

end MarkupDirectives
