import MarkupDirectives.Proofs.Locality.Shift
import MarkupDirectives.Proofs.Render.Contract
import MarkupDirectives.Proofs.Text.Slice

namespace MarkupDirectives

open Text Cursor Polling

variable {F State : Type}

/-!
# Rendering as rewriting

Of a text that is rendered into another text it does not matter how it was
divided.  `Span.rewrite` is the result as a function of the spans.
-/

namespace Span

/-- The text from the offset on, with what `write` makes of each span's text in
place of the span. -/
def rewrite (write : Text -> Text) (markup : Text) : (origin : Nat) -> List Span -> Text
  | origin, [] => text ⟨origin, width markup⟩ markup
  | origin, span :: spans =>
      text ⟨origin, span.start⟩ markup ++
      (write (span.text markup) ++ rewrite write markup span.stop spans)

variable {write : Text -> Text} {left right : Text} {origin : Nat} {spans others : List Span}

theorem rewrite_append_right :
    rewrite write (left ++ right) (origin + width left) (others.map (Span.shift (width left))) =
      rewrite write right origin others := by
  induction others generalizing origin with
  | nil =>
      rw [List.map_nil, rewrite, rewrite, width_append, Nat.add_comm (width left),
        text_append_right]
  | cons span others inductionHypothesis =>
      rw [List.map_cons, rewrite, rewrite, shift, text_append_right, text_append_right,
        inductionHypothesis]

theorem rewrite_across (begins : left.IsBoundary origin)
    (inRight : forall span, span ∈ others -> right.IsBoundary span.start) :
    rewrite write (left ++ right) origin (others.map (Span.shift (width left))) =
      text ⟨origin, width left⟩ left ++ rewrite write right 0 others := by
  cases others with
  | nil =>
      have ends : right.IsBoundary (width right) := ⟨right, [], by simp, rfl⟩
      rw [List.map_nil, rewrite, rewrite, width_append, Nat.add_comm (width left),
        text_across begins ends]
  | cons span others =>
      have ends := inRight span List.mem_cons_self
      rw [List.map_cons, rewrite, rewrite, shift, text_across begins ends, text_append_right,
        rewrite_append_right, List.append_assoc]

/-- Two texts that are joined are rewritten each for itself. -/
theorem rewrite_append (begins : left.IsBoundary origin)
    (inLeft : forall span,
      span ∈ spans -> span.start ≤ span.stop ∧ span.stop ≤ width left ∧ left.IsBoundary span.stop)
    (inRight : forall span, span ∈ others -> right.IsBoundary span.start) :
    rewrite write (left ++ right) origin (spans ++ others.map (Span.shift (width left))) =
      rewrite write left origin spans ++ rewrite write right 0 others := by
  induction spans generalizing origin with
  | nil => exact rewrite_across begins inRight
  | cons span spans inductionHypothesis =>
      rcases inLeft span List.mem_cons_self with ⟨ordered, fits, ends⟩
      have gapFits : (Span.mk origin span.start).stop ≤ width left := Nat.le_trans ordered fits
      have rest :=
        inductionHypothesis ends fun other member => inLeft other (List.mem_cons_of_mem span member)
      rw [List.cons_append, rewrite, rewrite, rest, text_append_left gapFits, text_append_left fits]
      simp only [List.append_assoc]

/-- A character between two texts is kept. -/
theorem rewrite_splice {c : Char}
    (inLeft : forall span,
      span ∈ spans -> span.start ≤ span.stop ∧ span.stop ≤ width left ∧ left.IsBoundary span.stop)
    (inRight : forall span, span ∈ others -> right.IsBoundary span.start) :
    rewrite write (left ++ c :: right) 0 (spans ++ others.map (Span.shift (width (left ++ [c])))) =
      rewrite write left 0 spans ++ c :: rewrite write right 0 others := by
  have begins : forall text : Text, text.IsBoundary 0 := fun text => ⟨[], text, rfl, rfl⟩
  have joined : left ++ c :: right = (left ++ [c]) ++ right := by simp
  have withCharacter : rewrite write (left ++ [c]) 0 (spans ++ [].map (Span.shift (width left))) =
      rewrite write left 0 spans ++ rewrite write [c] 0 [] :=
    rewrite_append (begins left) inLeft nofun
  have characterKept : rewrite write [c] 0 [] = [c] := text_to_end (liesIn_start [c])
  have inLonger : forall span, span ∈ spans ->
      span.start ≤ span.stop ∧ span.stop ≤ width (left ++ [c]) ∧
      (left ++ [c]).IsBoundary span.stop := by
    intro span member
    rcases inLeft span member with ⟨ordered, fits, before, after, whole, wide⟩
    refine ⟨ordered, ?_, before, after ++ [c], by rw [whole]; simp, wide⟩
    rw [width_append]
    exact Nat.le_add_right_of_le fits
  rw [List.map_nil, List.append_nil, characterKept] at withCharacter
  rw [joined, rewrite_append (begins (left ++ [c])) inLonger inRight, withCharacter,
    List.append_assoc]
  rfl

end Span

/-! ## What is rendered -/

namespace Renderer

variable {renderer : Renderer F} {markup : Text} {spans : List Span}

/-- The directive with this text can be substituted. -/
def Handles (renderer : Renderer F) (text : Text) : Prop :=
  Exists fun fragment : F => renderer.substitute text = .ok fragment

/-- What is written for the text of a directive, or nothing if the directive
cannot be substituted. -/
def displayed (renderer : Renderer F) (display : F -> Text) (text : Text) : Text :=
  match renderer.substitute text with
  | .ok fragment => display fragment
  | .error _ => []

theorem displayed_of_substitute {text : Text} {fragment : F}
    (made : renderer.substitute text = .ok fragment)
    (display : F -> Text) : renderer.displayed display text = display fragment := by
  rw [displayed, made]

theorem Division.flatMap_written_displayed {origin : Nat} {failure : Option SyntaxError}
    {pieces : List (Segment F)}
    (division : renderer.Division markup origin spans failure pieces none) (display : F -> Text) :
    pieces.flatMap (Segment.written fun _ fragment => display fragment) =
        Span.rewrite (renderer.displayed display) markup origin spans ∧
      forall span, span ∈ spans -> renderer.Handles (span.text markup) := by
  generalize unfailed : (none : Option RenderError) = error at division
  induction division with
  | ended => exact ⟨Segment.flatMap_written_between _ _ _ _, nofun⟩
  | malformed => cases unfailed
  | unhandled => cases unfailed
  | @substituted origin span spans failure fragment pieces _ made _ inductionHypothesis =>
      rcases inductionHypothesis unfailed with ⟨written, handled⟩
      constructor
      · rw [List.flatMap_append, List.flatMap_cons, Segment.flatMap_written_between, written,
          Span.rewrite, displayed_of_substitute made]
        rfl
      · intro other member
        rcases List.mem_cons.mp member with rfl | further
        · exact ⟨fragment, made⟩
        · exact handled other further

/-- Directives that can be substituted are passed, and the division goes on at
their end. -/
theorem exists_division_append {origin : Nat} {done left : List Span} {failure : Option SyntaxError}
    {pieces : List (Segment F)} {error : Option RenderError}
    (handled : forall span, span ∈ done -> renderer.Handles (span.text markup))
    (division : renderer.Division markup (Span.endOf origin done) left failure pieces error) :
    Exists fun more : List (Segment F) =>
      renderer.Division markup origin (done ++ left) failure more error := by
  induction done generalizing origin with
  | nil => exact ⟨pieces, division⟩
  | cons span done inductionHypothesis =>
      rcases handled span List.mem_cons_self with ⟨fragment, made⟩
      rcases inductionHypothesis
          (fun other member => handled other (List.mem_cons_of_mem span member)) division with
        ⟨more, further⟩
      exact ⟨_, .substituted made further⟩

/-- If every directive can be substituted, then nothing ends the division before
the text does. -/
theorem exists_division_of_handles (origin : Nat)
    (handled : forall span, span ∈ spans -> renderer.Handles (span.text markup)) :
    Exists fun pieces : List (Segment F) =>
      renderer.Division markup origin spans none pieces none := by
  have atEnd : renderer.Division markup (Span.endOf origin spans) [] none _ none := .ended
  rcases exists_division_append handled atEnd with ⟨pieces, division⟩
  rw [List.append_nil] at division
  exact ⟨pieces, division⟩

/-- The error that ends the division is the reason why the text is not
rendered. -/
theorem renderText_of_division {failure : Option SyntaxError} {pieces : List (Segment F)}
    {error : RenderError} (located : renderer.dialect.locate markup = outcome spans failure)
    (division : renderer.Division markup 0 spans failure pieces (some error))
    (display : F -> Text) :
    renderer.renderText display markup = .error error := by
  have items : renderer.segments markup = outcome pieces (some error) :=
    Segments.items_of_division (Dialect.search_of_locate located) division
  rw [renderText, render_eq items]
  rfl

/-- If the locator finds spans and no error, and all of them can be substituted,
then the text is rendered, and is written anew at these spans. -/
theorem render_text_of_locate (located : renderer.dialect.locate markup = outcome spans none)
    (handled : forall span, span ∈ spans -> renderer.Handles (span.text markup))
    (display : F -> Text) (written : Text) :
    renderer.render (Sink.text display) markup written =
      (written ++ Span.rewrite (renderer.displayed display) markup 0 spans, .ok spans.length) := by
  rcases exists_division_of_handles 0 handled with ⟨pieces, division⟩
  have items : renderer.segments markup = outcome pieces none :=
    Segments.items_of_division (Dialect.search_of_locate located) division
  rw [render_eq items, Sink.foldl_receive_text, (division.flatMap_written_displayed display).1,
    division.filterMap_span?.2]
  rfl

/-- A text is rendered exactly if the locator finds spans and no error in it, and
all of the spans can be substituted.  The count is that of the spans, whatever
sink the text is rendered into. -/
theorem render_snd_eq_ok_iff {sink : Sink F State} {state : State} {count : Nat} :
    (renderer.render sink markup state).2 = .ok count ↔
      Exists fun spans : List Span =>
        renderer.dialect.locate markup = outcome spans none ∧
          (forall span, span ∈ spans -> renderer.Handles (span.text markup)) ∧
            count = spans.length := by
  constructor
  · intro rendered
    rcases renderer.exists_segments_eq markup with
      ⟨spans, failure, pieces, error, search, division, items⟩
    rw [render_eq items] at rendered
    cases error with
    | some error => cases rendered
    | none =>
        cases rendered
        rcases division.filterMap_span? with ⟨rfl, fragments⟩
        have handled := (division.flatMap_written_displayed fun _ => []).2
        exact ⟨spans, Locator.items_of_search search, handled, congrArg List.length fragments⟩
  · rintro ⟨spans, located, handled, rfl⟩
    rcases exists_division_of_handles 0 handled with ⟨pieces, division⟩
    have items : renderer.segments markup = outcome pieces none :=
      Segments.items_of_division (Dialect.search_of_locate located) division
    rw [render_eq items, division.filterMap_span?.2]
    rfl

/-- Then the rendered text is the text that is written anew at these spans. -/
theorem renderText_eq_ok_iff {display : F -> Text} {html : Text} :
    renderer.renderText display markup = .ok html ↔
      Exists fun spans : List Span =>
        renderer.dialect.locate markup = outcome spans none ∧
          (forall span, span ∈ spans -> renderer.Handles (span.text markup)) ∧
            html = Span.rewrite (renderer.displayed display) markup 0 spans := by
  constructor
  · intro rendered
    rw [renderText] at rendered
    split at rendered
    · next written count result =>
        cases rendered
        rcases render_snd_eq_ok_iff.mp (congrArg Prod.snd result) with ⟨spans, located, handled, _⟩
        have whole := render_text_of_locate located handled display []
        rw [result] at whole
        exact ⟨spans, located, handled, congrArg Prod.fst whole⟩
    · cases rendered
  · rintro ⟨spans, located, handled, rfl⟩
    rw [renderText, render_text_of_locate located handled]
    rfl

/-- A text that is one directive is rendered to what it is substituted by. -/
theorem renderText_of_locate_whole
    (located : renderer.dialect.locate markup = outcome [⟨0, width markup⟩] none)
    (display : F -> Text) :
    renderer.renderText display markup = (renderer.substitute markup).map display := by
  have whole : Span.text ⟨0, width markup⟩ markup = markup := Span.text_to_end (liesIn_start markup)
  cases made : renderer.substitute markup with
  | ok fragment =>
      have before : Span.text ⟨0, 0⟩ markup = [] := Span.text_eq_nil (Nat.le_refl 0)
      have behind : Span.text ⟨width markup, width markup⟩ markup = [] :=
        Span.text_eq_nil (Nat.le_refl _)
      refine renderText_eq_ok_iff.mpr ⟨_, located, ?_, ?_⟩
      · intro span member
        cases List.mem_singleton.mp member
        exact ⟨fragment, whole.symm ▸ made⟩
      · rw [Span.rewrite, Span.rewrite, whole, before, behind, displayed_of_substitute made]
        exact (List.append_nil _).symm
  | error error =>
      have failing : renderer.substitute (Span.text ⟨0, width markup⟩ markup) = .error error :=
        whole.symm ▸ made
      exact renderText_of_division located (.unhandled failing) display

end Renderer
end MarkupDirectives
