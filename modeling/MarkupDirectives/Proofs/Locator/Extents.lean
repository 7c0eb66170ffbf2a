import MarkupDirectives.Proofs.Directive.Grammar
import MarkupDirectives.Proofs.Locator.Contract
import MarkupDirectives.Proofs.Locator.Folding

namespace MarkupDirectives

open Text Cursor Character Polling

/-!
# Spans are directives of the grammar

The grammar of directives decides where a directive ends.  Two consequences speak
of the ends of spans alone.
-/

namespace Dialect

variable {dialect : Dialect} {markup : Text} {span : Span} {place marked stop : Cursor}
  {start : Nat} {error : SyntaxError}

/-! ## The end of a marker -/

theorem offset_of_afterMarker? (found : dialect.afterMarker? place = some marked) :
    marked.offset = place.offset + width dialect.marker := by
  rcases afterMarker?_eq_some_iff.mp found with ⟨_, head, spells, reads⟩
  rw [reads.offset, spells.width_eq]

/-- Behind every marker the scanner finds what the grammar says. -/
theorem extent_iff_of_afterMarker? {result : Except SyntaxError Nat} (inText : place.LiesIn markup)
    (found : dialect.afterMarker? place = some marked) :
    (dialect.scanDirective marked).map Cursor.offset = result ↔
      dialect.Extent markup (place.offset + width dialect.marker) result := by
  rcases afterMarker?_eq_some_iff.mp found with ⟨_, head, _, reads⟩
  rw [← offset_of_afterMarker? found, extent_iff (inText.of_reads reads)]

theorem DirectiveAt.extent (directive : dialect.DirectiveAt markup span place marked stop) :
    dialect.Extent markup (span.start + width dialect.marker) (.ok span.stop) := by
  rw [← directive.starts, ← directive.stops,
    ← extent_iff_of_afterMarker? directive.inText directive.marks, directive.scans]
  rfl

theorem MalformedAt.extent (malformed : dialect.MalformedAt markup start error) :
    dialect.Extent markup (start + width dialect.marker) (.error error) := by
  rcases malformed with ⟨place, marked, inText, rfl, follows, failed⟩
  rw [← extent_iff_of_afterMarker? inText follows, failed]
  rfl

/-! ## The last character of a span -/

/-- Neither the marker nor the assignment token nor any closing token ends with
white space. -/
structure TokensSolid (dialect : Dialect) : Prop where
  marker : forall c, dialect.marker.getLast? = some c -> isWhitespace c = false
  assignment : forall c, dialect.assignment.getLast? = some c -> isWhitespace c = false
  closing : forall delimiter, delimiter ∈ dialect.delimiters ->
    forall c, delimiter.closing.getLast? = some c -> isWhitespace c = false

theorem SpellsMarker.getLast_solid {head : Text} {c : Char} (spells : dialect.SpellsMarker head)
    (solid : dialect.TokensSolid) (last : head.getLast? = some c) : isWhitespace c = false := by
  unfold SpellsMarker at spells
  split at spells
  · have lowered := congrArg List.getLast? spells
    rw [List.getLast?_map, List.getLast?_map, last] at lowered
    rcases Option.map_eq_some_iff.mp lowered.symm with ⟨d, markerLast, same⟩
    rw [← isWhitespace_toLower, ← same, isWhitespace_toLower]
    exact solid.marker d markerLast
  · exact solid.marker c (spells ▸ last)

/-- What is read behind a marker does not end with white space. -/
theorem getLast_solid_of_scanDirective {body : Text} {c : Char} (solid : dialect.TokensSolid)
    (scanned : dialect.scanDirective marked = .ok stop) (reads : marked.Reads body stop)
    (last : body.getLast? = some c) : isWhitespace c = false := by
  have keyRead := reads_skipWhile marked isIdentifier
  rcases scanDirective_eq_ok_cases scanned with ⟨_, rfl⟩ | ⟨assigned, value, found, readsValue⟩
  · rw [reads.passed_unique keyRead] at last
    exact isWhitespace_eq_false_of_isIdentifier (List.mem_takeWhile_imp (List.mem_of_getLast? last))
  · have assignedRead :=
      (keyRead.trans (reads_skipWhile _ isWhitespace)).trans (reads_of_afterAssignment? found)
    by_cases empty : value = []
    · subst empty
      cases readsValue.eq_assigned_of_nil
      have tokenLast := List.getLast?_eq_some_getLast (afterAssignment?_eq_some_iff.mp found).1
      rw [reads.passed_unique assignedRead, List.getLast?_append, tokenLast, Option.some_or] at last
      exact solid.assignment c (tokenLast.trans last)
    · rcases readsValue.exists_gap with ⟨gap, valueRead, _⟩
      have valueLast := List.getLast?_eq_some_getLast empty
      rw [reads.passed_unique (assignedRead.trans valueRead), ← List.append_assoc,
        List.getLast?_append, valueLast, Option.some_or] at last
      exact readsValue.getLast_solid solid.closing (valueLast.trans last)

theorem DirectiveAt.getLast_solid {c : Char}
    (directive : dialect.DirectiveAt markup span place marked stop)
    (solid : dialect.TokensSolid) (last : (span.text markup).getLast? = some c) :
    isWhitespace c = false := by
  rcases directive.exists_text with ⟨head, body, _, spells, _, reads, text⟩
  rw [text, List.getLast?_append] at last
  cases bodyLast : body.getLast? with
  | some d =>
      rw [bodyLast] at last
      cases last
      exact getLast_solid_of_scanDirective solid directive.scans reads bodyLast
  | none =>
      rw [bodyLast] at last
      exact spells.getLast_solid solid last

/-! ## Spans and the grammar -/

/-- The key behind the marker of a directive is taken as far as it goes. -/
theorem DirectiveAt.exists_key (directive : dialect.DirectiveAt markup span place marked stop) :
    Exists fun key : Nat =>
      markup.RunsTo isIdentifier (span.start + width dialect.marker) key ∧ key ≤ span.stop := by
  rcases directive.exists_text with ⟨_, _, _, _, reads, _, _⟩
  have inText := directive.inText.of_reads reads
  refine ⟨(marked.skipWhile isIdentifier).offset, ?_, ?_⟩
  · rw [← directive.starts, ← offset_of_afterMarker? directive.marks]
    exact inText.runsTo_iff.mpr rfl
  · have bounds := dialect.bounds_scanDirective_key marked
    rw [directive.scans] at bounds
    rcases bounds with ⟨_, further⟩
    exact directive.stops ▸ further.offset_le

/-- Behind every marker the scanner finds what the grammar says.  A scope that is
opened either ends or fails.  Behind a span an identifier character may follow
only if its value is delimited, and no span ends with white space unless a token
does. -/
theorem locate_follows_grammar (dialect : Dialect) (markup : Text) :
    (forall start, dialect.MarkerAt markup start ->
      Exists fun place : Cursor => Exists fun marked : Cursor =>
        place.LiesIn markup ∧ place.offset = start ∧ dialect.afterMarker? place = some marked ∧
          forall result, (dialect.scanDirective marked).map Cursor.offset = result ↔
            dialect.Extent markup (start + width dialect.marker) result) ∧
    (forall offset delimiter, dialect.OpensAt markup offset delimiter ->
      ((Exists fun error : SyntaxError =>
          ScopeFails dialect markup delimiter.closing (offset + width delimiter.opening) error) ↔
        ¬ Exists fun stop : Nat =>
          Scope dialect markup delimiter.closing (offset + width delimiter.opening) stop)) ∧
    (forall error, .error error ∈ dialect.locate markup ->
      Exists fun start : Nat =>
        dialect.MarkerAt markup start ∧
        dialect.Extent markup (start + width dialect.marker) (.error error)) ∧
    (forall span, .ok span ∈ dialect.locate markup ->
      dialect.MarkerAt markup span.start ∧
      dialect.Extent markup (span.start + width dialect.marker) (.ok span.stop) ∧
      (Exists fun key : Nat =>
        markup.RunsTo isIdentifier (span.start + width dialect.marker) key ∧ key ≤ span.stop) ∧
      (forall c, markup.HasAt span.stop [c] -> isIdentifier c = true ->
        Exists fun assigned : Nat => Exists fun value : Nat => Exists fun delimiter : Delimiter =>
          dialect.ValueAt markup (span.start + width dialect.marker) assigned value ∧
            dialect.OpensAt markup value delimiter) ∧
      (dialect.TokensSolid ->
        forall c, (span.text markup).getLast? = some c -> isWhitespace c = false)) := by
  rcases dialect.exists_located markup with ⟨spans, failure, search, items, located⟩
  rw [items]
  refine ⟨?_, ?_, ?_, ?_⟩
  · intro start marker
    rcases exists_liesIn_of_isBoundary marker.isBoundary with ⟨rest, inText⟩
    rcases (markerAt_iff inText).mp marker with ⟨marked, found⟩
    exact ⟨_, marked, inText, rfl, found, fun _ => extent_iff_of_afterMarker? inText found⟩
  · intro offset delimiter opens
    rcases exists_liesIn_of_isBoundary opens.1.isBoundary with ⟨rest, inText⟩
    rcases (opensAt_iff inText).mp opens with ⟨inside, found⟩
    have reads := reads_of_opening? found
    have either := dialect.exists_scopeFails_iff (inText.of_reads reads) delimiter
    rwa [reads.offset] at either
  · intro error member
    rcases located.failed error (error_mem_outcome_iff.mp member) with ⟨start, least, malformed, _⟩
    exact ⟨start, least.1.2, malformed.extent⟩
  · intro span member
    rw [mem_outcome_iff] at member
    rcases search.directiveAt_of_mem (liesIn_start markup) member with
      ⟨_, place, marked, stop, directive⟩
    have marker : dialect.MarkerAt markup span.start := by
      rw [← directive.starts]
      exact (markerAt_iff directive.inText).mpr ⟨marked, directive.marks⟩
    exact ⟨marker, directive.extent, directive.exists_key, fun _ => directive.extent.exists_opensAt,
      fun solid _ => directive.getLast_solid solid⟩

end Dialect
end MarkupDirectives
