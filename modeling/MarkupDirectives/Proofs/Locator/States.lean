import MarkupDirectives.Proofs.Directive.Offsets
import MarkupDirectives.Proofs.Locator.Contract

namespace MarkupDirectives

open Text Cursor Polling

/-!
# The states of a locator

`Locator.Reached` says in what state a locator is after any number of polls.  In
each such state, everything a poll does with offsets can be done.
-/

/-- The spans that `locate` gives. -/
def Dialect.spans (dialect : Dialect) (markup : Text) : List Span :=
  (dialect.locate markup).filterMap Except.toOption

theorem Dialect.exists_search_spans (dialect : Dialect) (markup : Text) :
    Exists fun failure : Option SyntaxError =>
      dialect.Search (Cursor.start markup) (dialect.spans markup) failure := by
  rcases dialect.exists_located markup with ⟨spans, failure, search, items, _⟩
  refine ⟨failure, ?_⟩
  rwa [Dialect.spans, items, filterMap_toOption_outcome]

/-- The search goes on where the last of the spans ends. -/
theorem Span.endOf_concat (origin : Nat) (spans : List Span) (span : Span) :
    endOf origin (spans ++ [span]) = span.stop := by
  induction spans generalizing origin with
  | nil => rfl
  | cons first spans inductionHypothesis => exact inductionHypothesis first.stop

namespace Locator

variable {dialect : Dialect} {markup : Text} {spans : List Span} {failure : Option SyntaxError}
  {count : Nat} {locator : Locator} {span : Span}

/-- The state of a locator of the text after a number of polls, if a search from
the beginning finds the spans. -/
inductive Reached (dialect : Dialect) (markup : Text) (spans : List Span)
    (failure : Option SyntaxError) :
    Nat -> Locator -> Prop where
  /-- The locator is at the end of the span that it has given last, and finds the
  others from there. -/
  | searching {count : Nat} {cursor : Cursor} :
      cursor.LiesIn markup -> cursor.offset = Span.endOf 0 (spans.take count) ->
      dialect.Search cursor (spans.drop count) failure ->
      Reached dialect markup spans failure count ⟨dialect, cursor, false⟩
  /-- All spans have been given, and the locator has stayed at the end of the last
  one. -/
  | atRest {count : Nat} {cursor : Cursor} :
      cursor.LiesIn markup -> cursor.offset = Span.endOf 0 (spans.take count) ->
        spans.length ≤ count ->
      Reached dialect markup spans failure count ⟨dialect, cursor, true⟩

theorem take_add_one_of_drop {later : List Span} (ahead : spans.drop count = span :: later) :
    spans.take (count + 1) = spans.take count ++ [span] ∧ spans.drop (count + 1) = later := by
  have here : spans[count]? = some span := by rw [← List.head?_drop, ahead, List.head?_cons]
  exact ⟨by rw [List.take_add_one, here, Option.toList_some],
    by rw [← List.tail_drop, ahead, List.tail_cons]⟩

/-- Once all spans have been given, another poll leaves the locator where it
is. -/
theorem reached_atRest {cursor : Cursor} (inText : cursor.LiesIn markup)
    (offset : cursor.offset = Span.endOf 0 (spans.take count)) (given : spans.length ≤ count) :
    Reached dialect markup spans failure (count + 1) ⟨dialect, cursor, true⟩ := by
  refine .atRest inText ?_ (Nat.le_succ_of_le given)
  rw [offset, List.take_of_length_le given, List.take_of_length_le (Nat.le_succ_of_le given)]

/-- A poll leads from one of these states to another. -/
theorem Reached.next (reached : Reached dialect markup spans failure count locator) :
    Reached dialect markup spans failure (count + 1) locator.next.2 := by
  cases reached with
  | atRest inText offset given => exact reached_atRest inText offset given
  | searching inText offset search =>
      generalize ahead : spans.drop count = later at search
      cases search with
      | ended absent =>
          rw [next_of_ended absent]
          exact reached_atRest inText offset (List.drop_eq_nil_iff.mp ahead)
      | malformed found failed =>
          rw [next_of_malformed found failed]
          exact reached_atRest inText offset (List.drop_eq_nil_iff.mp ahead)
      | located found scanned further =>
          rcases take_add_one_of_drop ahead with ⟨taken, rest⟩
          rcases Dialect.exists_reads_of_step found scanned with ⟨_, reads⟩
          rw [next_of_located found scanned]
          refine .searching (inText.of_reads reads) ?_ (rest.symm ▸ further)
          rw [taken, Span.endOf_concat]

/-- However often a locator of the text is polled, it is in one of these
states. -/
theorem reached_stateAfter (search : dialect.Search (Cursor.start markup) spans failure)
    (count : Nat) :
    Reached dialect markup spans failure count
      (stateAfter Locator.next count (Locator.start dialect markup)) :=
  stateAfter_induction (Reached dialect markup spans failure)
    (.searching (liesIn_start markup) rfl search) (fun _ _ => Reached.next) count

namespace Reached

variable (reached : Reached dialect markup spans failure count locator)
include reached

theorem inText : locator.cursor.LiesIn markup := by
  cases reached with
  | searching inText => exact inText
  | atRest inText => exact inText

theorem offset_eq : locator.cursor.offset = Span.endOf 0 (spans.take count) := by
  cases reached with
  | searching _ offset => exact offset
  | atRest _ offset => exact offset

/-- The span that is given next is that of a directive ahead. -/
theorem directiveAt_of_next (given : locator.next.1 = some (.ok span)) :
    Exists fun skipped : Text => Exists fun place : Cursor => Exists fun marked : Cursor =>
      Exists fun stop : Cursor =>
        locator.cursor.Reads skipped place ∧ dialect.DirectiveAt markup span place marked stop := by
  cases reached with
  | atRest => cases given
  | searching inText _ search =>
      generalize spans.drop count = later at search
      cases search with
      | ended absent =>
          rw [next_of_ended absent] at given
          cases given
      | malformed found failed =>
          rw [next_of_malformed found failed] at given
          cases given
      | located found scanned =>
          rw [next_of_located found scanned] at given
          cases given
          rcases Dialect.Search.directiveAt_of_step inText found scanned with
            ⟨skipped, place, reads, directive⟩
          exact ⟨skipped, place, _, _, reads, directive⟩

end Reached

/-- A poll of the locator can make every cut that it needs. -/
structure CutsFit (locator : Locator) (markup : Text) : Prop where
  /-- The text ahead of the cursor can be cut off, to be searched. -/
  ahead : markup.ahead? locator.cursor.offset = some locator.cursor.rest
  /-- The directive at the next marker can be scanned by offsets. -/
  scan : forall start marked,
    locator.dialect.findMarker? locator.cursor.offset locator.cursor.rest = some (start, marked) ->
      locator.dialect.scanDirectiveAt? markup start =
        some ((locator.dialect.scanDirective marked).map Cursor.offset)
  /-- The span that is given has a length. -/
  length : forall span, locator.next.1 = some (.ok span) -> span.length?.isSome

theorem Reached.cutsFit (reached : Reached dialect markup spans failure count locator) :
    locator.CutsFit markup where
  ahead := reached.inText.ahead?_eq
  scan := by
    intro start marked found
    rcases Dialect.exists_place_of_findMarker? found with ⟨_, place, reads, rfl, marks⟩
    exact Dialect.scanDirectiveAt?_eq (reached.inText.of_reads reads) marks
  length := by
    intro span given
    rcases reached.directiveAt_of_next given with ⟨_, place, marked, stop, _, directive⟩
    rw [Span.length?, if_pos (Nat.le_of_lt directive.start_lt_stop)]
    rfl

end Locator
end MarkupDirectives
