import MarkupDirectives.Proofs.Locator.Contract
import MarkupDirectives.Render.Segment

namespace MarkupDirectives

open Text Polling

variable {F : Type}

/-!
# Divisions

`Division` follows the spans that the locator finds.  A division that holds no
fragment back is known from the place that its locator has reached.
-/

namespace Segment

/-- A segment as a text, where `write` says how a fragment is written. -/
def written (write : Span -> F -> Text) : Segment F -> Text
  | literal text => text
  | fragment span value => write span value

/-- Where the directive is for which the segment stands, if it is a
fragment. -/
def span? : Segment F -> Option Span
  | literal _ => none
  | fragment span _ => some span

/-- The text between two offsets as segments: one literal, or nothing if there
is no text between them. -/
def between (markup : Text) (start stop : Nat) : List (Segment F) :=
  match Span.text ⟨start, stop⟩ markup with
  | [] => []
  | text => [.literal text]

theorem between_cases (markup : Text) (start stop : Nat) :
    (Span.text ⟨start, stop⟩ markup = [] ∧ between markup start stop = ([] : List (Segment F))) ∨
      (Span.text ⟨start, stop⟩ markup ≠ [] ∧
        between markup start stop = [(.literal (Span.text ⟨start, stop⟩ markup) : Segment F)]) := by
  unfold between
  split
  · next empty => exact Or.inl ⟨empty, rfl⟩
  · next solid => exact Or.inr ⟨solid, rfl⟩

end Segment

/-- From the offset on, where the locator finds the spans and then perhaps
fails, the division gives the pieces and then the error, if there is one. -/
inductive Renderer.Division (renderer : Renderer F) (markup : Text) :
    Nat -> List Span -> Option SyntaxError -> List (Segment F) -> Option RenderError -> Prop where
  /-- There is no directive ahead, and all of the text ahead is literal. -/
  | ended {origin : Nat} :
      Division renderer markup origin [] none (Segment.between markup origin (width markup)) none
  /-- The next directive is malformed. -/
  | malformed {origin : Nat} {failure : SyntaxError} :
      Division renderer markup origin [] (some failure) [] (some (.malformed failure))
  /-- The next directive cannot be substituted.  The text before it is not given
  either. -/
  | unhandled {origin : Nat} {span : Span} {spans : List Span} {failure : Option SyntaxError}
      {error : RenderError} :
      renderer.substitute (span.text markup) = .error error ->
      Division renderer markup origin (span :: spans) failure [] (some error)
  /-- The next directive is substituted, and the division goes on at its
  end. -/
  | substituted {origin : Nat} {span : Span} {spans : List Span} {failure : Option SyntaxError}
      {fragment : F} {pieces : List (Segment F)} {error : Option RenderError} :
      renderer.substitute (span.text markup) = .ok fragment ->
      Division renderer markup span.stop spans failure pieces error ->
      Division renderer markup origin (span :: spans) failure
        (Segment.between markup origin span.start ++ .fragment span fragment :: pieces) error

theorem Renderer.exists_division (renderer : Renderer F) (markup : Text) (origin : Nat)
    (spans : List Span) (failure : Option SyntaxError) :
    Exists fun pieces : List (Segment F) => Exists fun error : Option RenderError =>
      renderer.Division markup origin spans failure pieces error := by
  induction spans generalizing origin with
  | nil =>
      cases failure with
      | none => exact ⟨_, none, .ended⟩
      | some failure => exact ⟨[], _, .malformed⟩
  | cons span spans inductionHypothesis =>
      cases outcome : renderer.substitute (span.text markup) with
      | error error => exact ⟨[], some error, .unhandled outcome⟩
      | ok fragment =>
          rcases inductionHypothesis span.stop with ⟨pieces, error, division⟩
          exact ⟨_, error, .substituted outcome division⟩

namespace Segments

/-! ## The list of items follows the polls -/

theorem items_of_next_none {segments : Segments F} (ended : segments.next.1 = none) :
    segments.items = [] := by
  rw [items]
  split
  · rfl
  · next taken =>
      rw [taken] at ended
      cases ended

theorem items_of_next_some {segments : Segments F} {item : Except RenderError (Segment F)}
    (taken : segments.next.1 = some item) : segments.items = item :: segments.next.2.items := by
  rw [items]
  split
  · next ended =>
      rw [ended] at taken
      cases taken
  · next sameTaken =>
      rw [sameTaken] at taken
      cases taken
      rw [sameTaken]

/-! ## The steps of a division -/

variable {renderer : Renderer F} {markup : Text} {locator later : Locator} {origin : Nat}

theorem next_of_pending {segment : Segment F} {finished : Bool} :
    next ⟨renderer, markup, locator, origin, some segment, finished⟩ =
      (some (.ok segment), ⟨renderer, markup, locator, origin, none, finished⟩) := rfl

theorem next_of_finished :
    next ⟨renderer, markup, locator, origin, none, true⟩ =
      (none, ⟨renderer, markup, locator, origin, none, true⟩) := rfl

/-- Behind the last directive the rest of the text is given. -/
theorem next_of_ended (located : locator.next = (none, later)) :
    next ⟨renderer, markup, locator, origin, none, false⟩ =
      ((Segment.between markup origin (width markup)).head?.map .ok,
        ⟨renderer, markup, later, origin, none, true⟩) := by
  simp only [next, located, literalUpTo, Bool.false_eq_true, if_false]
  rcases Segment.between_cases markup origin (width markup) with ⟨empty, nothing⟩ | ⟨solid, literal⟩
  · rw [empty, nothing]
    rfl
  · rw [literal]
    split
    · next empty => exact absurd empty solid
    · rfl

theorem next_of_malformed {failure : SyntaxError}
    (located : locator.next = (some (.error failure), later)) :
    next ⟨renderer, markup, locator, origin, none, false⟩ =
      (some (.error (.malformed failure)), ⟨renderer, markup, later, origin, none, true⟩) := by
  simp only [next, located, Bool.false_eq_true, if_false]

theorem next_of_unhandled {span : Span} {error : RenderError}
    (located : locator.next = (some (.ok span), later))
    (outcome : renderer.substitute (span.text markup) = .error error) :
    next ⟨renderer, markup, locator, origin, none, false⟩ =
      (some (.error error), ⟨renderer, markup, later, span.stop, none, true⟩) := by
  simp only [next, located, outcome, Bool.false_eq_true, if_false]

/-- A fragment is given at once, or held back while the text before it is
given. -/
theorem next_of_substituted {span : Span} {fragment : F}
    (located : locator.next = (some (.ok span), later))
    (outcome : renderer.substitute (span.text markup) = .ok fragment) :
    next ⟨renderer, markup, locator, origin, none, false⟩ =
      match Segment.between markup origin span.start with
      | [] =>
          (some (.ok (.fragment span fragment)), ⟨renderer, markup, later, span.stop, none, false⟩)
      | literal :: _ =>
          (some (.ok literal),
          ⟨renderer, markup, later, span.stop, some (.fragment span fragment), false⟩) := by
  simp only [next, located, outcome, literalUpTo, Bool.false_eq_true, if_false]
  rcases Segment.between_cases markup origin span.start with ⟨empty, nothing⟩ | ⟨solid, literal⟩
  · rw [empty, nothing]
  · rw [literal]
    split
    · next empty => exact absurd empty solid
    · rfl

theorem next_of_next_none {segments : Segments F} (ended : segments.next.1 = none) :
    segments.next.2.next.1 = none := by
  rcases segments with ⟨renderer, markup, locator, origin, _ | segment, _ | _⟩
  · rcases located : locator.next with ⟨_ | failure | span, later⟩
    · rw [next_of_ended located, next_of_finished]
    · rw [next_of_malformed located] at ended
      cases ended
    · cases outcome : renderer.substitute (span.text markup) with
      | error error =>
          rw [next_of_unhandled located outcome] at ended
          cases ended
      | ok fragment =>
          rw [next_of_substituted located outcome] at ended
          split at ended <;> cases ended
  · rw [next_of_finished, next_of_finished]
  · rw [next_of_pending] at ended
    cases ended
  · rw [next_of_pending] at ended
    cases ended

theorem answer_eq_items_getElem? (segments : Segments F) (count : Nat) :
    answer Segments.next count segments = segments.items[count]? :=
  answer_eq_getElem? (fun _ => items_of_next_none) (fun _ _ => items_of_next_some)
    (fun _ => next_of_next_none)
    count segments

/-! ## All that is still to come -/

theorem items_of_finished : items ⟨renderer, markup, locator, origin, none, true⟩ = [] :=
  items_of_next_none (congrArg Prod.fst next_of_finished)

theorem items_of_error {error : RenderError} {stop : Nat}
    (taken : next ⟨renderer, markup, locator, origin, none, false⟩ =
      (some (.error error), ⟨renderer, markup, later, stop, none, true⟩)) :
    items ⟨renderer, markup, locator, origin, none, false⟩ = [.error error] := by
  rw [items_of_next_some (congrArg Prod.fst taken), taken, items_of_finished]

theorem items_of_ended (located : locator.next = (none, later)) :
    items ⟨renderer, markup, locator, origin, none, false⟩ =
      (Segment.between markup origin (width markup)).map .ok := by
  have taken : next ⟨renderer, markup, locator, origin, none, false⟩ = _ := next_of_ended located
  rcases Segment.between_cases markup origin (width markup) with ⟨_, nothing⟩ | ⟨_, literal⟩
  · rw [nothing] at taken ⊢
    exact items_of_next_none (congrArg Prod.fst taken)
  · rw [literal] at taken ⊢
    rw [items_of_next_some (congrArg Prod.fst taken), taken, items_of_finished]
    rfl

/-- A substituted directive gives its fragment behind the text before it, and
then all that comes from its end on. -/
theorem items_of_substituted {span : Span} {fragment : F}
    (located : locator.next = (some (.ok span), later))
    (outcome : renderer.substitute (span.text markup) = .ok fragment) :
    items ⟨renderer, markup, locator, origin, none, false⟩ =
      (Segment.between markup origin span.start).map .ok ++
        .ok (.fragment span fragment) :: items
          ⟨renderer, markup, later, span.stop, none, false⟩ := by
  have taken : next ⟨renderer, markup, locator, origin, none, false⟩ = _ :=
    next_of_substituted located outcome
  rcases Segment.between_cases markup origin span.start with ⟨_, nothing⟩ | ⟨_, literal⟩
  · rw [nothing] at taken ⊢
    rw [items_of_next_some (congrArg Prod.fst taken), taken]
    rfl
  · rw [literal] at taken ⊢
    rw [items_of_next_some (congrArg Prod.fst taken), taken,
      items_of_next_some (congrArg Prod.fst next_of_pending), next_of_pending]
    rfl

/-- The segments from some place on are those of the `Division` for the spans
that the locator finds from there. -/
theorem items_of_division {place : Cursor} {spans : List Span} {failure : Option SyntaxError}
    {pieces : List (Segment F)} {error : Option RenderError}
    (search : renderer.dialect.Search place spans failure)
    (division : renderer.Division markup place.offset spans failure pieces error) :
    items ⟨renderer, markup, ⟨renderer.dialect, place, false⟩, place.offset, none, false⟩ =
      outcome pieces error := by
  induction search generalizing pieces error with
  | ended absent =>
      cases division
      rw [items_of_ended (Locator.next_of_ended absent)]
      exact (List.append_nil _).symm
  | malformed found failed =>
      cases division
      exact items_of_error (next_of_malformed (Locator.next_of_malformed found failed))
  | located found scanned _ inductionHypothesis =>
      have located := Locator.next_of_located found scanned
      cases division with
      | unhandled outcome => exact items_of_error (next_of_unhandled located outcome)
      | substituted made further =>
          have rest := inductionHypothesis further
          rw [items_of_substituted located made, rest, outcome, outcome, List.map_append,
            List.map_cons, List.append_assoc, List.cons_append]

end Segments

/-- What `segments` gives is the division of the text by the spans that `locate`
finds. -/
theorem Renderer.exists_segments_eq (renderer : Renderer F) (markup : Text) :
    Exists fun spans : List Span => Exists fun failure : Option SyntaxError =>
      Exists fun pieces : List (Segment F) => Exists fun error : Option RenderError =>
        renderer.dialect.Search (Cursor.start markup) spans failure ∧
          renderer.Division markup 0 spans failure pieces error ∧
          renderer.segments markup = outcome pieces error := by
  rcases renderer.dialect.exists_search (Cursor.start markup) with ⟨spans, failure, search⟩
  rcases renderer.exists_division markup 0 spans failure with ⟨pieces, error, division⟩
  exact ⟨spans, failure, pieces, error, search, division,
    Segments.items_of_division search division⟩

end MarkupDirectives
