import MarkupDirectives.Proofs.Locator.States
import MarkupDirectives.Proofs.Render.Division
import MarkupDirectives.Proofs.Text.PositionCuts

namespace MarkupDirectives

open Text Cursor Polling

variable {F : Type}

/-!
# No cut fails

A division cuts the text at an offset of its own, which need not fit the span
that its locator gives next.  But the two move together: each poll of the division
polls its locator at most once, and both go on to the end of what it gives.
-/

namespace Locator

/-- The offset that an answer leads to: the end of the span, if it is one. -/
def offsetBehind : (answer : Option Finding) -> (origin : Nat) -> Nat
  | some (.ok span), _ => span.stop
  | _, origin => origin

theorem offset_next (locator : Locator) :
    locator.next.2.cursor.offset = offsetBehind locator.next.1 locator.cursor.offset := by
  unfold next
  split
  · rfl
  · split
    · rfl
    · split <;> rfl

end Locator

namespace Segments

variable {renderer : Renderer F} {markup : Text} {segments : Segments F}

/-- A poll of a division either leaves its locator alone and stays where it is, or
polls the locator once and goes where the answer leads. -/
theorem cases_of_next (segments : Segments F) :
    segments.next.2.markup = segments.markup ∧
      ((segments.next.2.locator = segments.locator ∧ segments.next.2.cursor = segments.cursor) ∨
        (segments.next.2.locator = segments.locator.next.2 ∧
          segments.next.2.cursor =
            Locator.offsetBehind segments.locator.next.1 segments.cursor)) := by
  rcases segments with ⟨renderer, markup, locator, origin, _ | segment, _ | _⟩
  · rcases located : locator.next with ⟨_ | failure | span, later⟩
    · rw [next_of_ended located]
      exact ⟨rfl, Or.inr ⟨rfl, rfl⟩⟩
    · rw [next_of_malformed located]
      exact ⟨rfl, Or.inr ⟨rfl, rfl⟩⟩
    · cases outcome : renderer.substitute (span.text markup) with
      | error error =>
          rw [next_of_unhandled located outcome]
          exact ⟨rfl, Or.inr ⟨rfl, rfl⟩⟩
      | ok fragment =>
          rw [next_of_substituted located outcome]
          split <;> exact ⟨rfl, Or.inr ⟨rfl, rfl⟩⟩
  · exact ⟨rfl, Or.inl ⟨rfl, rfl⟩⟩
  · exact ⟨rfl, Or.inl ⟨rfl, rfl⟩⟩
  · exact ⟨rfl, Or.inl ⟨rfl, rfl⟩⟩

/-- The division is at the offset that its locator has reached, and this locator
has been polled from the beginning of the text on. -/
structure InStep (renderer : Renderer F) (markup : Text) (segments : Segments F) : Prop where
  sameMarkup : segments.markup = markup
  sameOffset : segments.cursor = segments.locator.cursor.offset
  polled : Exists fun count : Nat =>
    segments.locator = stateAfter Locator.next count (Locator.start renderer.dialect markup)

/-- A poll keeps the two in step. -/
theorem InStep.next (inStep : InStep renderer markup segments) :
    InStep renderer markup segments.next.2 := by
  rcases segments.cases_of_next with
    ⟨sameMarkup, ⟨sameLocator, sameCursor⟩ | ⟨polledLocator, further⟩⟩
  · exact ⟨sameMarkup.trans inStep.sameMarkup, by rw [sameCursor, sameLocator, inStep.sameOffset],
      sameLocator ▸ inStep.polled⟩
  · refine ⟨sameMarkup.trans inStep.sameMarkup, ?_, ?_⟩
    · rw [further, polledLocator, Locator.offset_next, inStep.sameOffset]
    · rcases inStep.polled with ⟨count, same⟩
      refine ⟨count + 1, ?_⟩
      rw [polledLocator, same, stateAfter_succ]

/-- However often a division is polled, the two are in step. -/
theorem inStep_stateAfter (renderer : Renderer F) (markup : Text) (count : Nat) :
    InStep renderer markup (stateAfter Segments.next count (Segments.start renderer markup)) :=
  stateAfter_induction (fun _ => InStep renderer markup) ⟨rfl, rfl, 0, rfl⟩
    (fun _ _ => InStep.next) count

/-- The division is at the end of the last span that its locator has given, or at
the beginning of the text as long as there is none. -/
def AtLastSpan (renderer : Renderer F) (markup : Text) (segments : Segments F) : Prop :=
  Exists fun polls : Nat =>
    segments.locator = stateAfter Locator.next polls (Locator.start renderer.dialect markup) ∧
      segments.cursor = Span.endOf 0 ((renderer.dialect.spans markup).take polls)

theorem InStep.exists_reached (inStep : InStep renderer markup segments) :
    Exists fun failure : Option SyntaxError => Exists fun polls : Nat =>
      segments.locator = stateAfter Locator.next polls (Locator.start renderer.dialect markup) ∧
        Locator.Reached renderer.dialect markup
          (renderer.dialect.spans markup) failure polls segments.locator := by
  rcases renderer.dialect.exists_search_spans markup with ⟨failure, search⟩
  rcases inStep.polled with ⟨polls, same⟩
  exact ⟨failure, polls, same, same ▸ Locator.reached_stateAfter search polls⟩

theorem InStep.atLastSpan (inStep : InStep renderer markup segments) :
    segments.AtLastSpan renderer markup := by
  rcases inStep.exists_reached with ⟨_, polls, same, reached⟩
  exact ⟨polls, same, inStep.sameOffset.trans reached.offset_eq⟩

/-- A poll of the division can make every cut that it needs, and so the literals
that it gives are what has been cut out. -/
structure CutsFit (segments : Segments F) (markup : Text) : Prop where
  /-- The text in front of the next directive. -/
  gap : forall span, segments.locator.next.1 = some (.ok span) ->
    markup.slice? segments.cursor span.start = some (segments.literalUpTo span.start)
  /-- The text of that directive. -/
  directive : forall span, segments.locator.next.1 = some (.ok span) ->
    markup.slice? span.start span.stop = some (span.text markup)
  /-- The text behind the last directive. -/
  tail : markup.ahead? segments.cursor = some (segments.literalUpTo (width markup))

theorem InStep.cutsFit (inStep : InStep renderer markup segments) : segments.CutsFit markup := by
  rcases inStep.exists_reached with ⟨_, _, _, reached⟩
  -- What has been cut out is not the empty text that stands for a cut that cannot be made.
  have cutOut :
      forall (stop : Nat) (inside : Text),
        markup.slice? segments.locator.cursor.offset stop = some inside ->
      markup.slice? segments.cursor stop = some (segments.literalUpTo stop) := by
    intro stop inside cut
    rw [literalUpTo, Span.text, inStep.sameMarkup, inStep.sameOffset, cut]
    rfl
  refine ⟨?_, ?_, ?_⟩
  · intro span given
    rcases reached.directiveAt_of_next given with ⟨skipped, place, _, _, reads, directive⟩
    exact cutOut _ _ (directive.starts ▸ reached.inText.slice?_eq reads)
  · intro span given
    rcases reached.directiveAt_of_next given with ⟨_, place, _, _, _, directive⟩
    have cut := directive.inText.slice?_eq directive.reads_text
    rwa [directive.starts, directive.stops] at cut
  · exact cutOut _ _ reached.inText.ahead?_eq

end Segments

/-- No cut at an offset fails, and no length is taken away from a lesser one: not in
any poll of a locator, in scanning scopes at a boundary, in unwrapping a value, in
looking for a line and column, or in any poll of a division into segments, which
is always at the end of the last span that its locator has given. -/
theorem Renderer.cuts_never_fail (renderer : Renderer F) (text : Text) :
    (forall start stop : Nat, (text.slice? start stop).isSome ↔
      start ≤ stop ∧ stop ≤ width text ∧ text.IsBoundary start ∧ text.IsBoundary stop) ∧
    (forall count : Nat,
      (stateAfter Locator.next count (Locator.start renderer.dialect text)).CutsFit text) ∧
    (forall here : Cursor, here.LiesIn text ->
      (renderer.dialect.loop? text ⟨[], here.offset⟩).isSome ∧
      forall (delimiter : Delimiter) (inside : Cursor),
        renderer.dialect.opening? here = some (delimiter, inside) ->
        renderer.dialect.loop? text ⟨[], here.offset⟩ =
          some ((renderer.dialect.closeScopes [delimiter] inside).map Cursor.offset)) ∧
    renderer.dialect.stripDelimiters? text = some (renderer.dialect.stripDelimiters text) ∧
    (forall offset : Nat, Position.ofCuts? text offset = some (Position.ofOffset text offset)) ∧
    forall count : Nat,
      (stateAfter Segments.next count (Segments.start renderer text)).AtLastSpan renderer text ∧
      (stateAfter Segments.next count (Segments.start renderer text)).CutsFit text := by
  rcases renderer.dialect.exists_search_spans text with ⟨failure, search⟩
  have reached := Locator.reached_stateAfter search
  refine ⟨fun _ _ => isSome_slice?_iff, fun count => (reached count).cutsFit, ?_, ?_,
    Position.ofCuts?_eq text, ?_⟩
  · intro here inText
    have looped := Dialect.exists_loop? renderer.dialect inText []
    exact ⟨Option.isSome_iff_exists.mpr looped, fun _ _ => Dialect.loop?_of_opening? inText⟩
  · exact renderer.dialect.stripDelimiters?_eq text
  · intro count
    have inStep := Segments.inStep_stateAfter renderer text count
    exact ⟨inStep.atLastSpan, inStep.cutsFit⟩

end MarkupDirectives
