import Mathlib.Data.List.Chain
import MarkupDirectives.Proofs.Render.Division
import MarkupDirectives.Render.Segment

namespace MarkupDirectives

open Text Cursor Polling

variable {F State : Type}

/-!
# What rendering promises

Nothing of a text is lost or moved when it is divided into segments, and two
literals never follow each other.  A sink is given exactly these segments.
-/

/-! ## Text between directives -/

namespace Segment

theorem flatMap_written_between (write : Span -> F -> Text) (markup : Text) (start stop : Nat) :
    (between markup start stop).flatMap (written write) = Span.text ⟨start, stop⟩ markup := by
  rcases between_cases (F := F) markup start stop with ⟨empty, nothing⟩ | ⟨_, literal⟩
  · rw [nothing, empty]
    rfl
  · rw [literal]
    exact List.append_nil _

theorem filterMap_span?_between (markup : Text) (start stop : Nat) :
    (between markup start stop : List (Segment F)).filterMap span? = [] := by
  rcases between_cases (F := F) markup start stop with ⟨_, nothing⟩ | ⟨_, literal⟩
  · rw [nothing]
    rfl
  · rw [literal]
    rfl

theorem eq_literal_of_mem_between {markup : Text} {start stop : Nat} {piece : Segment F}
    (member : piece ∈ between markup start stop) :
    Exists fun text : Text => text ≠ [] ∧ piece = .literal text := by
  rcases between_cases (F := F) markup start stop with ⟨_, nothing⟩ | ⟨solid, literal⟩
  · rw [nothing] at member
    cases member
  · rw [literal] at member
    exact ⟨_, solid, List.mem_singleton.mp member⟩

/-- Two segments can follow each other if one of them is a fragment. -/
def Apart (earlier later : Segment F) : Prop := earlier.span?.isSome ∨ later.span?.isSome

theorem isChain_between (markup : Text) (start stop : Nat) :
    (between markup start stop : List (Segment F)).IsChain Apart := by
  rcases between_cases (F := F) markup start stop with ⟨_, nothing⟩ | ⟨_, literal⟩
  · rw [nothing]
    exact .nil
  · rw [literal]
    exact .singleton _

end Segment

/-- What is promised of the segments of a text if no error ends them. -/
structure Renderer.Divided (renderer : Renderer F) (markup : Text) (pieces : List (Segment F)) :
    Prop where
  lossless : pieces.flatMap (Segment.written fun span _ => span.text markup) = markup
  located : renderer.dialect.locate markup = (pieces.filterMap Segment.span?).map .ok
  substituted : forall span fragment, .fragment span fragment ∈ pieces ->
    renderer.substitute (span.text markup) = .ok fragment
  solid : forall text, .literal text ∈ pieces -> text ≠ []
  apart : pieces.IsChain Segment.Apart

namespace Renderer.Division

variable {renderer : Renderer F} {markup : Text} {origin : Nat} {place : Cursor} {spans : List Span}
  {failure : Option SyntaxError} {pieces : List (Segment F)} {error : Option RenderError}

/-- The text from some place on is written again. -/
theorem flatMap_written (division : renderer.Division markup place.offset spans failure pieces none)
    (search : renderer.dialect.Search place spans failure) (inText : place.LiesIn markup) :
    pieces.flatMap (Segment.written fun span _ => span.text markup) = place.rest := by
  induction search generalizing pieces with
  | @ended place absent =>
      cases division
      rw [Segment.flatMap_written_between, Span.text_to_end inText]
  | malformed => cases division
  | @located place marked stop start spans failure found scanned _ inductionHypothesis =>
      rcases Dialect.Search.directiveAt_of_step inText found scanned with
        ⟨skipped, begun, reads, directive⟩
      have begins : begun.offset = start := directive.starts
      have before : Span.text ⟨place.offset, start⟩ markup = skipped := by
        rw [← begins]
        exact Span.text_of_reads inText reads
      cases division with
      | @substituted _ _ _ _ fragment pieces _ _ further =>
          have rest : pieces.flatMap (Segment.written fun span _ => span.text markup) = stop.rest :=
            inductionHypothesis further directive.stop_liesIn
          rw [List.flatMap_append, List.flatMap_cons, Segment.flatMap_written_between, before, rest,
            reads.ahead, directive.reads_text.ahead]
          rfl

/-- The fragments stand for the directives that the locator finds. -/
theorem filterMap_span? (division : renderer.Division markup origin spans failure pieces none) :
    failure = none ∧ pieces.filterMap Segment.span? = spans := by
  generalize unfailed : (none : Option RenderError) = error at division
  induction division with
  | ended => exact ⟨rfl, Segment.filterMap_span?_between _ _ _⟩
  | malformed => cases unfailed
  | unhandled => cases unfailed
  | substituted _ _ inductionHypothesis =>
      rcases inductionHypothesis unfailed with ⟨noFailure, rest⟩
      refine ⟨noFailure, ?_⟩
      rw [List.filterMap_append, Segment.filterMap_span?_between, List.nil_append,
        List.filterMap_cons_some (by rfl), rest]

/-- A segment is a literal with some text, or the fragment of a directive that
was substituted. -/
theorem cases_of_mem (division : renderer.Division markup origin spans failure pieces error)
    {piece : Segment F} (member : piece ∈ pieces) :
    (Exists fun text : Text => text ≠ [] ∧ piece = .literal text) ∨
      Exists fun span : Span => Exists fun fragment : F =>
        renderer.substitute (span.text markup) = .ok fragment ∧
        piece = .fragment span fragment := by
  induction division with
  | ended => exact Or.inl (Segment.eq_literal_of_mem_between member)
  | malformed => cases member
  | unhandled => cases member
  | @substituted _ span _ _ fragment _ _ made _ inductionHypothesis =>
      rcases List.mem_append.mp member with before | behind
      · exact Or.inl (Segment.eq_literal_of_mem_between before)
      · rcases List.mem_cons.mp behind with same | further
        · exact Or.inr ⟨span, fragment, made, same⟩
        · exact inductionHypothesis further

theorem isChain_apart (division : renderer.Division markup origin spans failure pieces error) :
    pieces.IsChain Segment.Apart := by
  induction division with
  | ended => exact Segment.isChain_between _ _ _
  | malformed => exact .nil
  | unhandled => exact .nil
  | @substituted _ span _ _ fragment pieces _ _ _ inductionHypothesis =>
      have behind : (Segment.fragment span fragment :: pieces).IsChain Segment.Apart :=
        List.isChain_cons.mpr ⟨fun _ _ => Or.inl rfl, inductionHypothesis⟩
      refine (Segment.isChain_between _ _ _).append behind ?_
      rintro earlier _ _ ⟨⟩
      exact Or.inr rfl

theorem divided (division : renderer.Division markup 0 spans failure pieces none)
    (search : renderer.dialect.Search (Cursor.start markup) spans failure) :
    renderer.Divided markup pieces where
  lossless := division.flatMap_written search (liesIn_start markup)
  located := by
    rcases division.filterMap_span? with ⟨rfl, same⟩
    rw [same]
    exact (Locator.items_of_search search).trans (List.append_nil _)
  substituted := by
    intro span fragment member
    rcases division.cases_of_mem member with ⟨_, _, impossible⟩ | ⟨_, _, made, same⟩
    · cases impossible
    · cases same
      exact made
  solid := by
    intro text member
    rcases division.cases_of_mem member with ⟨_, solid, same⟩ | ⟨_, _, _, impossible⟩
    · cases same
      exact solid
    · cases impossible
  apart := division.isChain_apart

end Renderer.Division

/-! ## What a sink is given -/

/-- What becomes of a sink that is given one segment. -/
def Sink.receive (sink : Sink F State) (state : State) : Segment F -> State
  | .literal text => sink.literal state text
  | .fragment _ fragment => sink.fragment state fragment

/-- A sink is given the segments before the error, from the first to the last,
and their fragments are counted if there is no error. -/
theorem Sink.feed_outcome (sink : Sink F State) (pieces : List (Segment F))
    (error : Option RenderError) (state : State) (count : Nat) :
    sink.feed (outcome pieces error) state count =
      (pieces.foldl sink.receive state,
        error.elim (.ok (count + (pieces.filterMap Segment.span?).length)) .error) := by
  induction pieces generalizing state count with
  | nil => cases error <;> rfl
  | cons piece pieces inductionHypothesis =>
      rw [outcome_cons]
      cases piece with
      | literal text =>
          rw [feed, inductionHypothesis]
          rfl
      | fragment span fragment =>
          rw [feed, inductionHypothesis, List.filterMap_cons_some (by rfl), List.length_cons,
            Nat.add_assoc, Nat.add_comm 1]
          rfl

/-- A text that is written into grows by all that is written. -/
theorem Sink.foldl_receive_text (display : F -> Text) (pieces : List (Segment F)) (written : Text) :
    pieces.foldl (Sink.text display).receive written =
      written ++ pieces.flatMap (Segment.written fun _ fragment => display fragment) := by
  induction pieces generalizing written with
  | nil => exact (List.append_nil _).symm
  | cons piece pieces inductionHypothesis =>
      rw [List.foldl_cons, inductionHypothesis, List.flatMap_cons, ← List.append_assoc]
      cases piece <;> rfl

theorem Renderer.render_eq {renderer : Renderer F} {markup : Text} {pieces : List (Segment F)}
    {error : Option RenderError} (items : renderer.segments markup = outcome pieces error)
    (sink : Sink F State) (state : State) :
    renderer.render sink markup state =
      (pieces.foldl sink.receive state,
      error.elim (.ok (pieces.filterMap Segment.span?).length) .error) := by
  rw [render, items, sink.feed_outcome, Nat.zero_add]

/-- Without any marker there is nothing to divide, and the text is rendered to
itself. -/
theorem Renderer.render_text_of_forall_not_markerAt {renderer : Renderer F} {markup : Text}
    (unmarked : forall offset, ¬ renderer.dialect.MarkerAt markup offset) (display : F -> Text)
    (written : Text) :
    renderer.render (Sink.text display) markup written = (written ++ markup, .ok 0) := by
  rcases renderer.exists_segments_eq markup with
    ⟨spans, failure, pieces, error, search, division, items⟩
  rcases search.eq_nil_of_forall_not_markerAt (liesIn_start markup) unmarked with ⟨rfl, rfl⟩
  cases division
  have whole : Span.text ⟨0, width markup⟩ markup = markup := Span.text_to_end (liesIn_start markup)
  rw [render_eq items, Sink.foldl_receive_text, Segment.flatMap_written_between,
    Segment.filterMap_span?_between, whole]
  rfl

/-- There are finitely many segments and then at most one error, and polling gives
these items and nothing afterwards.  Without an error the segments keep the
promise.  A sink is given exactly the segments, and a text without markers is
rendered to itself. -/
theorem Renderer.segments_keep_contract (renderer : Renderer F) (markup : Text) :
    Exists fun pieces : List (Segment F) => Exists fun error : Option RenderError =>
      renderer.segments markup = pieces.map .ok ++ error.toList.map .error ∧
      (forall count : Nat,
        answer Segments.next count (Segments.start renderer markup) =
          (renderer.segments markup)[count]?) ∧
      (forall count later : Nat, count < later ->
        (answer Segments.next count (Segments.start renderer markup) = none ∨
          Exists fun failure : RenderError =>
            answer Segments.next count (Segments.start renderer markup) = some (.error failure)) ->
        answer Segments.next later (Segments.start renderer markup) = none) ∧
      (error = none -> renderer.Divided markup pieces) ∧
      (forall (State : Type) (sink : Sink F State) (state : State),
        renderer.render sink markup state =
          (pieces.foldl sink.receive state,
          error.elim (.ok (pieces.filterMap Segment.span?).length) .error)) ∧
      (forall (display : F -> Text) (written : Text),
        (renderer.render (Sink.text display) markup written).1 =
          written ++ pieces.flatMap (Segment.written fun _ fragment => display fragment)) ∧
      ((forall offset, ¬ renderer.dialect.MarkerAt markup offset) ->
        forall (display : F -> Text) (written : Text),
          renderer.render (Sink.text display) markup written = (written ++ markup, .ok 0) ∧
          renderer.renderText display markup = .ok markup) := by
  rcases renderer.exists_segments_eq markup with
    ⟨spans, failure, pieces, error, search, division, items⟩
  have answers := Segments.answer_eq_items_getElem? (Segments.start renderer markup)
  refine ⟨pieces, error, items, answers, ?_, ?_, fun _ => render_eq items, ?_, ?_⟩
  · have listed : forall count : Nat,
        answer Segments.next count (Segments.start renderer markup) =
          (outcome pieces error)[count]? :=
      fun count => items ▸ answers count
    exact fun _ _ => answer_eq_none listed
  · rintro rfl
    exact division.divided search
  · intro display written
    rw [render_eq items, Sink.foldl_receive_text]
  · intro unmarked display written
    have unchanged := render_text_of_forall_not_markerAt unmarked display
    refine ⟨unchanged written, ?_⟩
    rw [renderText, unchanged]
    rfl

/-- Two directives that touch have no literal between them. -/
example :
    Renderer.renderText
      ⟨.standard, .ofList [(['a'], .ofValue id), (['b'], .constant ['<', '>'])]⟩ id
      "é blatex:b(blatex:a=(x)blatex:B=y".toList = .ok "é <>((x)<>".toList := by
  decide +kernel

end MarkupDirectives
