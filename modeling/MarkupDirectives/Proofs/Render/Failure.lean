import MarkupDirectives.Proofs.Locator.Locality
import MarkupDirectives.Proofs.Render.Contract
import MarkupDirectives.Proofs.Text.Slice

namespace MarkupDirectives

open Text Cursor Polling

variable {F State : Type}

/-!
# Rendering that fails

A directive that cannot be rendered ends the rendering.  What a sink has been
given by then is what it would have been given for the text up to the end of the
last directive that was substituted.
-/

/-- What the locator has found cannot be rendered, for the given reason. -/
def Renderer.FailsAt (renderer : Renderer F) (markup : Text) (error : RenderError) : Finding -> Prop
  | .ok span => renderer.substitute (span.text markup) = .error error
  | .error reason => error = .malformed reason

theorem Segment.between_append_left {kept dropped : Text} {start stop : Nat}
    (fits : stop ≤ width kept) :
    (between (kept ++ dropped) start stop : List (Segment F)) = between kept start stop := by
  rw [between, between, Span.text_append_left fits]

/-- Nothing stands between two offsets that are not in order. -/
theorem Segment.between_eq_nil {markup : Text} {start stop : Nat} (reversed : stop ≤ start) :
    (between markup start stop : List (Segment F)) = [] := by
  rw [between, Span.text_eq_nil reversed]

namespace Renderer.Division

variable {renderer : Renderer F} {markup : Text} {origin : Nat} {spans : List Span}
  {failure : Option SyntaxError} {pieces : List (Segment F)} {error : RenderError}

/-- There are no segments at the end of a text. -/
theorem of_eq_width (renderer : Renderer F) {kept : Text} {origin : Nat}
    (ended : origin = width kept) :
    renderer.Division kept origin [] none [] none := by
  subst ended
  have nothing : (Segment.between kept (width kept) (width kept) : List (Segment F)) = [] :=
    Segment.between_eq_nil (Nat.le_refl _)
  have division :
      renderer.Division kept (width kept) [] none
        (Segment.between kept (width kept) (width kept)) none :=
    .ended
  rwa [nothing] at division

/-- A division that ends with an error has substituted the directives in front of
the one that fails.  Its segments are all there are in the text that is cut at
the end of those directives. -/
theorem exists_failing
    (division : renderer.Division markup origin spans failure pieces (some error)) :
    Exists fun done : List Span => Exists fun left : List Span =>
      spans = done ++ left ∧
      (Exists fun item : Finding => Exists fun later : List Finding =>
        outcome left failure = item :: later ∧ renderer.FailsAt markup error item) ∧
      (forall span, span ∈ done ->
        Exists fun fragment : F => renderer.substitute (span.text markup) = .ok fragment) ∧
      forall kept dropped : Text, markup = kept ++ dropped ->
        (forall span, span ∈ done -> span.start < span.stop ∧ span.stop ≤ width kept) ->
        Span.endOf origin done = width kept ->
          renderer.Division kept origin done none pieces none := by
  generalize failed : some error = result at division
  induction division with
  | ended => cases failed
  | malformed =>
      cases failed
      exact ⟨[], [], rfl, ⟨_, [], rfl, rfl⟩, nofun, fun _ _ _ _ => of_eq_width renderer⟩
  | unhandled outcome =>
      cases failed
      exact ⟨[], _, rfl, ⟨_, _, rfl, outcome⟩, nofun, fun _ _ _ _ => of_eq_width renderer⟩
  | @substituted origin span spans failure fragment pieces _ made _ inductionHypothesis =>
      rcases inductionHypothesis failed with ⟨done, left, rfl, failing, allMade, shorter⟩
      refine ⟨span :: done, left, rfl, failing, ?_, ?_⟩
      · intro other member
        rcases List.mem_cons.mp member with rfl | further
        · exact ⟨fragment, made⟩
        · exact allMade other further
      · -- The literal and the directive lie in the part that is kept, with the same text.
        rintro kept dropped rfl bounded ends
        have fits := bounded span List.mem_cons_self
        have ordered : span.start ≤ width kept := by omega
        rw [Segment.between_append_left ordered]
        rw [Span.text_append_left fits.2] at made
        apply Division.substituted made
        exact shorter kept dropped rfl
          (fun other member => bounded other (List.mem_cons_of_mem span member)) ends

end Renderer.Division

/-- If rendering fails at a directive, the sink has been given exactly the segments of
the text up to the end of the last directive that was substituted, and that text
is rendered without an error. -/
theorem Renderer.render_fails_cleanly (renderer : Renderer F) (markup : Text) (error : RenderError)
    (sink : Sink F State) (state : State)
    (fails : (renderer.render sink markup state).2 = .error error) :
    Exists fun spans : List Span => Exists fun item : Finding => Exists fun later : List Finding =>
      Exists fun kept : Text => Exists fun dropped : Text =>
        renderer.dialect.locate markup = spans.map .ok ++ item :: later ∧
        (forall span, span ∈ spans ->
          Exists fun fragment : F => renderer.substitute (span.text markup) = .ok fragment) ∧
        renderer.FailsAt markup error item ∧
        markup.splitAt? (Span.endOf 0 spans) = some (kept, dropped) ∧
        renderer.segments markup = renderer.segments kept ++ [.error error] ∧
        (forall span fragment, .ok (.fragment span fragment) ∈ renderer.segments markup ->
          span ∈ spans ∧ renderer.substitute (span.text markup) = .ok fragment) ∧
        renderer.render sink kept state =
          ((renderer.render sink markup state).1, .ok spans.length) ∧
        forall (display : F -> Text) (written : Text),
          written <+: (renderer.render (Sink.text display) markup written).1 := by
  rcases renderer.exists_segments_eq markup with
    ⟨all, failure, pieces, failed, search, division, items⟩
  rw [render_eq items] at fails ⊢
  cases failed with
  | none => cases fails
  | some alsoError =>
      cases fails
      rcases division.exists_failing with
        ⟨spans, left, rfl, ⟨item, later, rest, failing⟩, made, shorter⟩
      rcases search.exists_beginning with ⟨kept, dropped, whole, length, keptSearch⟩
      have keptDivision : renderer.Division kept 0 spans none pieces none :=
        shorter kept dropped whole (keptSearch.keeps_promise (liesIn_start kept)).bounded length
      have keptItems : renderer.segments kept = outcome pieces none :=
        Segments.items_of_division keptSearch keptDivision
      have fragments : pieces.filterMap Segment.span? = spans := keptDivision.filterMap_span?.2
      have located : renderer.dialect.locate markup = outcome (spans ++ left) failure :=
        Locator.items_of_search search
      refine ⟨spans, item, later, kept, dropped, ?_, made, failing,
        splitAt?_eq_some_iff.mpr ⟨whole, length⟩, ?_, ?_, ?_, ?_⟩
      · rw [located, ← rest, outcome, List.map_append, List.append_assoc]
        rfl
      · rw [items, keptItems, outcome, outcome, Option.toList_none, List.map_nil, List.append_nil]
        rfl
      · intro span fragment member
        rw [items, mem_outcome_iff] at member
        constructor
        · rw [← fragments]
          exact List.mem_filterMap.mpr ⟨_, member, rfl⟩
        · rcases division.cases_of_mem member with ⟨_, _, impossible⟩ | ⟨_, _, substituted, same⟩
          · cases impossible
          · cases same
            exact substituted
      · rw [render_eq keptItems, fragments]
        rfl
      · intro display written
        rw [render_eq items, Sink.foldl_receive_text]
        exact List.prefix_append _ _

/-- The scope of the last value is not closed, so neither that directive nor the
text in front of it reaches the text that is written into. -/
theorem Renderer.render_fails_cleanly_unclosed :
    (Renderer.render ⟨.standard, .ofList [(['a'], .ofValue id)]⟩ (Sink.text id)
        "é blatex:a=(x), blatex:A=(y".toList ['>']).2 = .error (.malformed (.outOfRange 28 [')'])) ∧
    Exists fun spans : List Span => Exists fun kept : Text => Exists fun dropped : Text =>
      Text.splitAt? "é blatex:a=(x), blatex:A=(y".toList (Span.endOf 0 spans) =
        some (kept, dropped) ∧
      Renderer.render ⟨.standard, .ofList [(['a'], .ofValue id)]⟩ (Sink.text id) kept ['>'] =
        (">é (x)".toList, .ok spans.length) := by
  have fails : (Renderer.render ⟨.standard, .ofList [(['a'], .ofValue id)]⟩ (Sink.text id)
      "é blatex:a=(x), blatex:A=(y".toList ['>']).2 =
        .error (.malformed (.outOfRange 28 [')'])) := by
    decide +kernel
  have written : (Renderer.render ⟨.standard, .ofList [(['a'], .ofValue id)]⟩ (Sink.text id)
      "é blatex:a=(x), blatex:A=(y".toList ['>']).1 = ">é (x)".toList := by
    decide +kernel
  rcases Renderer.render_fails_cleanly _ _ _ _ _ fails with
    ⟨spans, _, _, kept, dropped, _, _, _, cut, _, _, shorter, _⟩
  rw [written] at shorter
  exact ⟨fails, spans, kept, dropped, cut, shorter⟩

end MarkupDirectives
