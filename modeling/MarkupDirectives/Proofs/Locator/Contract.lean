import MarkupDirectives.Proofs.Locator.Search

namespace MarkupDirectives

open Text Cursor Polling

/-!
# What a locator promises

The spans lie in the text one behind the other, each at the first marker behind
the span before it.  All of this is stated for a search from any offset on, since
the search behind a span is again of this kind.
-/

/-- The directive at the span is read from its first to its last character. -/
structure Dialect.DirectiveAt (dialect : Dialect) (markup : Text) (span : Span)
    (place marked stop : Cursor) : Prop where
  inText : place.LiesIn markup
  starts : place.offset = span.start
  marks : dialect.afterMarker? place = some marked
  scans : dialect.scanDirective marked = .ok stop
  stops : stop.offset = span.stop

/-- A directive begins at the offset that is malformed in the given way. -/
def Dialect.MalformedAt (dialect : Dialect) (markup : Text) (start : Nat) (error : SyntaxError) :
    Prop :=
  Exists fun place : Cursor => Exists fun marked : Cursor =>
    place.LiesIn markup ∧ place.offset = start ∧ dialect.afterMarker? place = some marked ∧
      dialect.scanDirective marked = .error error

/-- Between two places of a text a span covers what is read from the one to the
other. -/
theorem Span.text_of_reads {markup passed : Text} {place later : Cursor}
    (inText : place.LiesIn markup) (reads : place.Reads passed later) :
    Span.text ⟨place.offset, later.offset⟩ markup = passed := by
  rw [Span.text, inText.slice?_eq reads]
  rfl

/-- From a place on to the end of the text a span covers all that remains. -/
theorem Span.text_to_end {markup : Text} {place : Cursor} (inText : place.LiesIn markup) :
    Span.text ⟨place.offset, width markup⟩ markup = place.rest := by
  have reads : place.Reads place.rest ⟨width markup, []⟩ :=
    ⟨(List.append_nil _).symm, inText.offset_add_width.symm⟩
  exact Span.text_of_reads inText reads

namespace Dialect.DirectiveAt

variable {dialect : Dialect} {markup : Text} {span : Span} {place marked stop : Cursor}

/-- The text of a directive is its marker and what the scanner reads behind
it. -/
theorem exists_text (directive : dialect.DirectiveAt markup span place marked stop) :
    Exists fun head : Text => Exists fun body : Text =>
      dialect.marker ≠ [] ∧ dialect.SpellsMarker head ∧ place.Reads head marked ∧
        marked.Reads body stop ∧ span.text markup = head ++ body := by
  rcases afterMarker?_eq_some_iff.mp directive.marks with ⟨nonempty, head, spells, reads⟩
  rcases exists_reads_of_scanDirective directive.scans with ⟨body, goesOn⟩
  refine ⟨head, body, nonempty, spells, reads, goesOn, ?_⟩
  have whole : Span.text ⟨place.offset, stop.offset⟩ markup = head ++ body :=
    Span.text_of_reads directive.inText (reads.trans goesOn)
  rw [directive.starts, directive.stops] at whole
  exact whole

theorem reads_text (directive : dialect.DirectiveAt markup span place marked stop) :
    place.Reads (span.text markup) stop := by
  rcases directive.exists_text with ⟨head, body, _, _, reads, goesOn, same⟩
  rw [same]
  exact reads.trans goesOn

theorem stop_liesIn (directive : dialect.DirectiveAt markup span place marked stop) :
    stop.LiesIn markup :=
  directive.inText.of_reads directive.reads_text

theorem start_lt_stop (directive : dialect.DirectiveAt markup span place marked stop) :
    span.start < span.stop := by
  rcases directive.exists_text with ⟨head, body, nonempty, spells, reads, goesOn, _⟩
  have positive := spells.width_pos nonempty
  have headEnd := reads.offset
  have bodyEnd := goesOn.offset_le
  rw [← directive.starts, ← directive.stops]
  omega

theorem stop_le_width (directive : dialect.DirectiveAt markup span place marked stop) :
    span.stop ≤ width markup := by
  rw [← directive.stops, ← directive.stop_liesIn.offset_add_width]
  exact Nat.le_add_right _ _

theorem isBoundary (directive : dialect.DirectiveAt markup span place marked stop) :
    markup.IsBoundary span.start ∧ markup.IsBoundary span.stop :=
  ⟨directive.starts ▸ directive.inText.isBoundary,
    directive.stops ▸ directive.stop_liesIn.isBoundary⟩

theorem markerAt (directive : dialect.DirectiveAt markup span place marked stop) :
    dialect.MarkerAt (span.text markup) 0 := by
  rcases directive.exists_text with ⟨head, body, nonempty, spells, _, _, same⟩
  exact ⟨nonempty, head, spells, [], body, same, rfl⟩

end Dialect.DirectiveAt

/-- Where a search goes on that began at `origin` and has found the spans. -/
def Span.endOf (origin : Nat) : List Span -> Nat
  | [] => origin
  | span :: spans => endOf span.stop spans

/-- What is promised of a search from the offset `origin` on that finds the
spans and then fails, if there is an error. -/
structure Dialect.Located (dialect : Dialect) (markup : Text) (origin : Nat) (spans : List Span)
    (failure : Option SyntaxError) : Prop where
  bounded : forall span, span ∈ spans -> span.start < span.stop ∧ span.stop ≤ width markup
  boundaries :
    forall span, span ∈ spans -> markup.IsBoundary span.start ∧ markup.IsBoundary span.stop
  marked : forall span, span ∈ spans -> dialect.MarkerAt (span.text markup) 0
  ordered : spans.Pairwise fun earlier later => earlier.stop ≤ later.start
  least : forall earlier span later, spans = earlier ++ span :: later ->
    IsLeast {offset | Span.endOf origin earlier ≤ offset ∧ dialect.MarkerAt markup offset}
      span.start
  complete : failure = none -> forall offset, origin ≤ offset -> dialect.MarkerAt markup offset ->
    offset < Span.endOf origin spans ∧
      Exists fun span => span ∈ spans ∧ span.start ≤ offset ∧ offset < span.stop
  failed : forall error, failure = some error ->
    Exists fun start : Nat =>
      IsLeast {offset | Span.endOf origin spans ≤ offset ∧ dialect.MarkerAt markup offset} start ∧
        dialect.MalformedAt markup start error ∧
        forall offset, origin ≤ offset -> dialect.MarkerAt markup offset ->
          (Exists fun span => span ∈ spans ∧ span.start ≤ offset ∧ offset < span.stop) ∨
            start ≤ offset

namespace Dialect.Search

variable {dialect : Dialect} {markup : Text} {cursor : Cursor} {spans : List Span}
  {failure : Option SyntaxError}

/-- One step of a search passes some text and reads one directive behind
it. -/
theorem directiveAt_of_step {marked stop : Cursor} {start : Nat} (inText : cursor.LiesIn markup)
    (found : dialect.findMarker? cursor.offset cursor.rest = some (start, marked))
    (scanned : dialect.scanDirective marked = .ok stop) :
    Exists fun skipped : Text => Exists fun place : Cursor =>
      cursor.Reads skipped place ∧
      dialect.DirectiveAt markup ⟨start, stop.offset⟩ place marked stop := by
  rcases exists_place_of_findMarker? found with ⟨skipped, place, reads, same, follows⟩
  exact ⟨skipped, place, reads, inText.of_reads reads, same, follows, scanned, rfl⟩

/-- Every span that a search finds is that of a directive, and begins where the
search began or later. -/
theorem directiveAt_of_mem (search : dialect.Search cursor spans failure)
    (inText : cursor.LiesIn markup) {span : Span} (member : span ∈ spans) :
    cursor.offset ≤ span.start ∧
      Exists fun place : Cursor => Exists fun marked : Cursor => Exists fun stop : Cursor =>
        dialect.DirectiveAt markup span place marked stop := by
  induction search with
  | ended => cases member
  | malformed => cases member
  | @located cursor marked stop start spans failure found scanned _ inductionHypothesis =>
      have least := isLeast_of_findMarker? inText found
      rcases directiveAt_of_step inText found scanned with ⟨_, place, _, directive⟩
      cases member with
      | head => exact ⟨least.1.1, place, marked, stop, directive⟩
      | tail _ later =>
          rcases inductionHypothesis directive.stop_liesIn later with ⟨beyond, rest⟩
          have ordered : start < stop.offset := directive.start_lt_stop
          have first : cursor.offset ≤ start := least.1.1
          exact ⟨by omega, rest⟩

theorem eq_nil_of_forall_not_markerAt (search : dialect.Search cursor spans failure)
    (inText : cursor.LiesIn markup)
    (unmarked : forall offset, ¬ dialect.MarkerAt markup offset) : spans = [] ∧ failure = none := by
  cases search with
  | ended => exact ⟨rfl, rfl⟩
  | malformed found => exact absurd (isLeast_of_findMarker? inText found).1.2 (unmarked _)
  | located found => exact absurd (isLeast_of_findMarker? inText found).1.2 (unmarked _)

/-- The spans lie one behind the other. -/
theorem pairwise_le (search : dialect.Search cursor spans failure) (inText : cursor.LiesIn markup) :
    spans.Pairwise fun earlier later => earlier.stop ≤ later.start := by
  induction search with
  | ended => exact .nil
  | malformed => exact .nil
  | located found scanned search inductionHypothesis =>
      rcases directiveAt_of_step inText found scanned with ⟨_, place, _, directive⟩
      apply List.pairwise_cons.mpr
      refine ⟨?_, inductionHypothesis directive.stop_liesIn⟩
      intro later member
      exact (search.directiveAt_of_mem directive.stop_liesIn member).1

/-- Every span begins at the first marker behind the spans before it. -/
theorem isLeast_start (search : dialect.Search cursor spans failure) (inText : cursor.LiesIn markup)
    {earlier later : List Span} {span : Span} (division : spans = earlier ++ span :: later) :
    IsLeast {offset | Span.endOf cursor.offset earlier ≤ offset ∧ dialect.MarkerAt markup offset}
      span.start := by
  induction search generalizing earlier with
  | ended => cases earlier <;> cases division
  | malformed => cases earlier <;> cases division
  | located found scanned _ inductionHypothesis =>
      rcases directiveAt_of_step inText found scanned with ⟨_, place, _, directive⟩
      cases earlier with
      | nil =>
          cases division
          exact isLeast_of_findMarker? inText found
      | cons first earlier =>
          cases division
          exact inductionHypothesis directive.stop_liesIn rfl

/-- A marker ahead lies in a span, or behind all of them. -/
theorem inside_or_endOf_le (search : dialect.Search cursor spans failure)
    (inText : cursor.LiesIn markup)
    {offset : Nat} (beyond : cursor.offset ≤ offset) (marker : dialect.MarkerAt markup offset) :
    (Exists fun span => span ∈ spans ∧ span.start ≤ offset ∧ offset < span.stop) ∨
      Span.endOf cursor.offset spans ≤ offset := by
  induction search with
  | ended => exact Or.inr beyond
  | malformed => exact Or.inr beyond
  | @located cursor marked stop start spans failure found scanned _ inductionHypothesis =>
      rcases directiveAt_of_step inText found scanned with ⟨_, place, _, directive⟩
      have begun : start ≤ offset := (isLeast_of_findMarker? inText found).2 ⟨beyond, marker⟩
      by_cases inFirst : offset < stop.offset
      · exact Or.inl ⟨_, List.mem_cons_self, begun, inFirst⟩
      · rcases inductionHypothesis directive.stop_liesIn (Nat.le_of_not_lt inFirst) with
          ⟨span, member, inside⟩ | behind
        · exact Or.inl ⟨span, List.mem_cons_of_mem _ member, inside⟩
        · exact Or.inr behind

/-- A search without an error leaves no marker behind. -/
theorem lt_endOf (search : dialect.Search cursor spans none) (inText : cursor.LiesIn markup)
    {offset : Nat} (marker : dialect.MarkerAt markup offset) :
    offset < Span.endOf cursor.offset spans := by
  generalize unfailed : (none : Option SyntaxError) = failure at search
  induction search with
  | ended absent => exact le_of_findMarker?_eq_none inText absent marker
  | malformed => cases unfailed
  | located found scanned _ inductionHypothesis =>
      rcases directiveAt_of_step inText found scanned with ⟨_, place, _, directive⟩
      exact inductionHypothesis directive.stop_liesIn unfailed

/-- A search fails at the first marker behind its spans. -/
theorem exists_malformedAt {error : SyntaxError} (search : dialect.Search cursor spans (some error))
    (inText : cursor.LiesIn markup) :
    Exists fun start : Nat =>
      IsLeast {offset | Span.endOf cursor.offset spans ≤ offset ∧ dialect.MarkerAt markup offset}
        start ∧
      dialect.MalformedAt markup start error := by
  generalize failed : some error = failure at search
  induction search with
  | ended => cases failed
  | @malformed cursor marked start _ found scanned =>
      cases failed
      rcases exists_place_of_findMarker? found with ⟨skipped, place, reads, same, follows⟩
      exact ⟨start, isLeast_of_findMarker? inText found, place, marked, inText.of_reads reads, same,
        follows, scanned⟩
  | located found scanned _ inductionHypothesis =>
      rcases directiveAt_of_step inText found scanned with ⟨_, place, _, directive⟩
      exact inductionHypothesis directive.stop_liesIn failed

theorem keeps_promise (search : dialect.Search cursor spans failure)
    (inText : cursor.LiesIn markup) :
    dialect.Located markup cursor.offset spans failure where
  bounded := by
    intro span member
    rcases search.directiveAt_of_mem inText member with ⟨_, place, marked, stop, directive⟩
    exact ⟨directive.start_lt_stop, directive.stop_le_width⟩
  boundaries := by
    intro span member
    rcases search.directiveAt_of_mem inText member with ⟨_, place, marked, stop, directive⟩
    exact directive.isBoundary
  marked := by
    intro span member
    rcases search.directiveAt_of_mem inText member with ⟨_, place, marked, stop, directive⟩
    exact directive.markerAt
  ordered := search.pairwise_le inText
  least := fun _ _ _ => search.isLeast_start inText
  complete := by
    rintro rfl offset beyond marker
    have before := search.lt_endOf inText marker
    rcases search.inside_or_endOf_le inText beyond marker with inside | behind
    · exact ⟨before, inside⟩
    · exact absurd before (Nat.not_lt_of_ge behind)
  failed := by
    rintro error rfl
    rcases search.exists_malformedAt inText with ⟨start, least, malformed⟩
    refine ⟨start, least, malformed, ?_⟩
    intro offset beyond marker
    rcases search.inside_or_endOf_le inText beyond marker with inside | behind
    · exact Or.inl inside
    · exact Or.inr (least.2 ⟨behind, marker⟩)

end Dialect.Search

/-- The search from the beginning of a text finds what `locate` gives. -/
theorem Dialect.exists_located (dialect : Dialect) (markup : Text) :
    Exists fun spans : List Span => Exists fun failure : Option SyntaxError =>
      dialect.Search (Cursor.start markup) spans failure ∧
      dialect.locate markup = outcome spans failure ∧
        dialect.Located markup 0 spans failure := by
  rcases dialect.exists_search (Cursor.start markup) with ⟨spans, failure, search⟩
  exact ⟨spans, failure, search, Locator.items_of_search search,
    search.keeps_promise (liesIn_start markup)⟩

/-- What `locate` gives determines the search from the beginning. -/
theorem Dialect.search_of_locate {dialect : Dialect} {markup : Text} {spans : List Span}
    {failure : Option SyntaxError} (located : dialect.locate markup = outcome spans failure) :
    dialect.Search (Cursor.start markup) spans failure := by
  rcases dialect.exists_search (Cursor.start markup) with ⟨found, failed, search⟩
  have same : outcome found failed = outcome spans failure :=
    (Locator.items_of_search search).symm.trans located
  rcases outcome_inj same with ⟨rfl, rfl⟩
  exact search

/-- For every dialect and every text, `locate` gives finitely many spans and
then at most one error, and polling a locator gives these items and nothing
afterwards, however often it is polled.  The spans keep the promise. -/
theorem Dialect.locate_keeps_contract (dialect : Dialect) (markup : Text) :
    Exists fun spans : List Span => Exists fun failure : Option SyntaxError =>
      dialect.locate markup = spans.map .ok ++ failure.toList.map .error ∧
      (forall count : Nat,
        answer Locator.next count (Locator.start dialect markup) =
          (dialect.locate markup)[count]?) ∧
      (forall count later : Nat, count < later ->
        (answer Locator.next count (Locator.start dialect markup) = none ∨
          Exists fun error : SyntaxError =>
            answer Locator.next count (Locator.start dialect markup) = some (.error error)) ->
        answer Locator.next later (Locator.start dialect markup) = none) ∧
      dialect.Located markup 0 spans failure := by
  rcases dialect.exists_located markup with ⟨spans, failure, _, items, located⟩
  have answers := Locator.answer_eq_items_getElem? (Locator.start dialect markup)
  refine ⟨spans, failure, items, answers, ?_, located⟩
  have listed : forall count : Nat,
      answer Locator.next count (Locator.start dialect markup) = (outcome spans failure)[count]? :=
    fun count => items ▸ answers count
  exact fun _ _ => answer_eq_none listed

end MarkupDirectives
