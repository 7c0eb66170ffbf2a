import Mathlib.Logic.Function.Iterate
import MarkupDirectives.Proofs.Directive.Agreement
import MarkupDirectives.Proofs.Locality.Cut
import MarkupDirectives.Proofs.Locality.Shift
import MarkupDirectives.Proofs.Locator.Extents

namespace MarkupDirectives

open Text Cursor Character Polling

/-!
# Unwrapping values

The value of a directive is scanned once more when it is unwrapped, apart from
the text in which it was found.  The second scan takes the steps of the first.
-/

namespace Dialect

variable {dialect : Dialect} {scopes : List Delimiter} {delimiter : Delimiter}
  {value markup passed : Text} {cursor stop : Cursor}

/-! ## One scope as a whole -/

/-- A delimiter opens at the beginning of the value, and its scope ends at the
end of the value. -/
structure Wraps (dialect : Dialect) (value : Text) (delimiter : Delimiter) : Prop where
  opens : dialect.OpensAt value 0 delimiter
  closes : Scope dialect value delimiter.closing (width delimiter.opening) (width value)

theorem wraps_iff :
    dialect.Wraps value delimiter ↔
      Exists fun inside : Cursor => Exists fun stop : Cursor =>
        dialect.opening? (start value) = some (delimiter, inside) ∧
          dialect.closeScopes [delimiter] inside = .ok stop ∧ stop.rest = [] := by
  have inText := liesIn_start value
  constructor
  · rintro ⟨opens, closes⟩
    rcases (opensAt_iff inText).mp opens with ⟨inside, found⟩
    have reads := reads_of_opening? found
    have offset : inside.offset = width delimiter.opening := reads.offset.trans (Nat.zero_add _)
    rcases (closeScopes_iff_scope (inText.of_reads reads)).mpr (offset ▸ closes) with
      ⟨stop, closed, atEnd⟩
    rcases exists_reads_of_closeScopes closed with ⟨content, goesOn⟩
    have whole := ((inText.of_reads reads).of_reads goesOn).offset_add_width
    exact ⟨inside, stop, found, closed, width_eq_zero_iff.mp (by omega)⟩
  · rintro ⟨inside, stop, found, closed, ended⟩
    have reads := reads_of_opening? found
    have offset : inside.offset = width delimiter.opening := reads.offset.trans (Nat.zero_add _)
    rcases exists_reads_of_closeScopes closed with ⟨content, goesOn⟩
    have whole := ((inText.of_reads reads).of_reads goesOn).offset_add_width
    rw [ended, width_nil, Nat.add_zero] at whole
    refine ⟨(opensAt_iff inText).mpr ⟨inside, found⟩, ?_⟩
    rw [← offset, ← whole]
    exact (closeScopes_iff_scope (inText.of_reads reads)).mp ⟨stop, closed, rfl⟩

/-! ## The text inside -/

/-- What is unwrapped is the text between the tokens of the scope. -/
theorem Wraps.eq_append (wraps : dialect.Wraps value delimiter) :
    value = delimiter.opening ++ (dialect.stripDelimiters value ++ delimiter.closing) := by
  rcases wraps_iff.mp wraps with ⟨inside, stop, found, closed, ended⟩
  rcases exists_reads_of_closeScopes closed with ⟨content, goesOn⟩
  have whole : value = delimiter.opening ++ inside.rest := (reads_of_opening? found).ahead
  have ahead : inside.rest = content ++ delimiter.closing := by
    rw [goesOn.ahead, ended, List.append_nil]
  have inner : dialect.stripDelimiters value = content := by
    simp only [stripDelimiters, found, closed, ended, if_true, ahead]
    rw [List.length_append, Nat.add_sub_cancel, List.take_left]
  rw [inner, ← ahead, ← whole]

/-- Any other value is left as it is. -/
theorem stripDelimiters_eq_self (unwrapped : forall delimiter, ¬ dialect.Wraps value delimiter) :
    dialect.stripDelimiters value = value := by
  unfold stripDelimiters
  split
  · rfl
  · next delimiter inside found =>
      split
      · next stop closed =>
          rw [if_neg fun ended =>
            unwrapped delimiter (wraps_iff.mpr ⟨inside, stop, found, closed, ended⟩)]
      · rfl

theorem Wraps.length_lt (wraps : dialect.Wraps value delimiter) :
    (dialect.stripDelimiters value).length < value.length := by
  have parts := congrArg List.length wraps.eq_append
  have positive := List.length_pos_iff.mpr delimiter.opening_ne_nil
  rw [List.length_append, List.length_append] at parts
  omega

theorem stripDelimiters_ne_iff :
    dialect.stripDelimiters value ≠ value ↔
      Exists fun delimiter : Delimiter => dialect.Wraps value delimiter := by
  constructor
  · intro differs
    apply Classical.byContradiction
    intro none
    exact differs (stripDelimiters_eq_self fun delimiter wraps => none ⟨delimiter, wraps⟩)
  · rintro ⟨delimiter, wraps⟩ same
    exact absurd (congrArg List.length same) (Nat.ne_of_lt wraps.length_lt)

/-- A value can be unwrapped only finitely often. -/
theorem exists_unwrapped (dialect : Dialect) (value : Text) :
    Exists fun count : Nat =>
      (forall k, k < count ->
        (dialect.stripDelimiters^[k + 1] value).length <
          (dialect.stripDelimiters^[k] value).length) ∧
        forall k, count ≤ k ->
          dialect.stripDelimiters^[k] value = dialect.stripDelimiters^[count] value := by
  induction length : value.length using Nat.strong_induction_on generalizing value with
  | _ length inductionHypothesis =>
  by_cases same : dialect.stripDelimiters value = value
  · exact ⟨0, nofun, fun k _ => Function.iterate_fixed same k⟩
  · rcases stripDelimiters_ne_iff.mp same with ⟨delimiter, wraps⟩
    have shorter := wraps.length_lt
    rcases inductionHypothesis _ (length ▸ shorter) _ rfl with ⟨count, shortens, stays⟩
    refine ⟨count + 1, ?_, ?_⟩
    · intro k before
      cases k with
      | zero => exact shorter
      | succ k => exact shortens k (Nat.lt_of_succ_lt_succ before)
    · intro k behind
      cases k with
      | zero => exact absurd behind (Nat.not_succ_le_zero count)
      | succ k => exact stays k (Nat.le_of_succ_le_succ behind)

/-! ## Values in a text and on their own -/

/-- A scan that has ended needs only the text it has read, at any offset. -/
theorem closeScopes_of_reads (closed : dialect.closeScopes scopes cursor = .ok stop)
    (reads : cursor.Reads passed stop) (offset : Nat) :
    Exists fun place : Cursor =>
      dialect.closeScopes scopes ⟨offset, passed⟩ = .ok place ∧ place.rest = [] := by
  have whole : cursor = Cursor.extend ⟨cursor.offset, passed⟩ stop.rest := by
    rw [Cursor.extend, ← reads.ahead]
  have settled : SettledBy (Cursor.textEnd ⟨cursor.offset, passed⟩)
      (dialect.closeScopes scopes (Cursor.extend ⟨cursor.offset, passed⟩ stop.rest)) := by
    rw [← whole, closed]
    exact Nat.le_of_eq reads.offset
  have cut := closeScopes_extend settled
  rw [← whole, closed] at cut
  have here : forall offset : Nat, (⟨offset, passed⟩ : Cursor) = (start passed).shift offset :=
    fun offset => (Cursor.shift_start ⟨offset, passed⟩).symm
  rw [here, closeScopes_shift] at cut ⊢
  cases alone : dialect.closeScopes scopes (start passed) with
  | error error =>
      rw [alone] at cut
      cases cut
  | ok place =>
      rw [alone] at cut
      refine ⟨place.shift offset, rfl, ?_⟩
      have rests : stop.rest = place.rest ++ stop.rest := congrArg Cursor.rest (Except.ok.inj cut)
      exact List.append_left_eq_self.mp rests.symm

/-- A scope that the scanner has read anywhere in a text is a scope as a
whole. -/
theorem wraps_of_reads {place inside : Cursor}
    (opens : dialect.opening? place = some (delimiter, inside))
    (closed : dialect.closeScopes [delimiter] inside = .ok stop) (reads : place.Reads passed stop) :
    dialect.Wraps passed delimiter := by
  rcases exists_reads_of_closeScopes closed with ⟨content, goesOn⟩
  have opened := reads_of_opening? opens
  cases reads.passed_unique (opened.trans goesOn)
  rcases opening?_eq_some_iff.mp opens with ⟨_, preferred, others, listed, absent⟩
  rcases closeScopes_of_reads closed goesOn (0 + width delimiter.opening) with
    ⟨alone, closedAlone, ended⟩
  refine wraps_iff.mpr
    ⟨_, alone, opening?_eq_some_iff.mpr ⟨?_, preferred, others, listed, ?_⟩, closedAlone, ended⟩
  · exact after?_eq_some_iff.mpr ⟨rfl, rfl⟩
  · intro other member begins
    exact absent other member (begins.trans ⟨stop.rest, reads.ahead.symm⟩)

/-- The value that is read lies ahead. -/
theorem ReadsValue.ahead {assigned : Cursor} (readsValue : ReadsValue dialect assigned value stop) :
    value <+: (assigned.skipWhile isWhitespace).rest := by
  rcases readsValue.reads with ⟨rfl, _⟩ | reads
  · exact List.nil_prefix
  · exact ⟨stop.rest, reads.ahead.symm⟩

/-- Where the value of a directive would begin, the scanner goes on to the end of
the directive. -/
theorem DirectiveAt.exists_scanValue {span : Span} {place marked : Cursor} {assigned start : Nat}
    (directive : dialect.DirectiveAt markup span place marked stop)
    (here : dialect.ValueAt markup (span.start + width dialect.marker) assigned start) :
    Exists fun before : Cursor =>
      (before.skipWhile isWhitespace).LiesIn markup ∧
      (before.skipWhile isWhitespace).offset = start ∧
        dialect.scanValue before = .ok stop := by
  rcases directive.exists_text with ⟨_, _, _, _, reads, _, _⟩
  rw [← directive.starts, ← offset_of_afterMarker? directive.marks] at here
  rcases scanDirective_of_valueAt (directive.inText.of_reads reads) here with
    ⟨before, inText, _, begins, same⟩
  exact ⟨before, inText, begins, same.symm.trans directive.scans⟩

/-- A value is unwrapped exactly if the first delimiter that opens at its beginning is
closed at its end.  Unwrapped again and again, it gets shorter until it stays as
it is.  The value of a located span is unwrapped by the delimiter that opens it in
the text, if there is one. -/
theorem stripDelimiters_unwraps (dialect : Dialect) :
    (forall value : Text,
      (dialect.stripDelimiters value ≠ value ↔
        Exists fun delimiter : Delimiter => dialect.Wraps value delimiter) ∧
      (forall delimiter, dialect.Wraps value delimiter ->
        value = delimiter.opening ++ (dialect.stripDelimiters value ++ delimiter.closing)) ∧
      Exists fun count : Nat =>
        (forall k, k < count ->
          (dialect.stripDelimiters^[k + 1] value).length <
            (dialect.stripDelimiters^[k] value).length) ∧
        forall k, count ≤ k ->
          dialect.stripDelimiters^[k] value = dialect.stripDelimiters^[count] value) ∧
    forall (markup : Text) (span : Span) (assigned start : Nat), .ok span ∈ dialect.locate markup ->
      dialect.ValueAt markup (span.start + width dialect.marker) assigned start ->
      (forall delimiter, dialect.OpensAt markup start delimiter ->
        Span.text ⟨start, span.stop⟩ markup =
          delimiter.opening ++
          (dialect.stripDelimiters (Span.text ⟨start, span.stop⟩ markup) ++ delimiter.closing)) ∧
      ((forall delimiter,
        delimiter ∈ dialect.delimiters -> ¬ markup.HasAt start delimiter.opening) ->
        dialect.stripDelimiters (Span.text ⟨start, span.stop⟩ markup) =
          Span.text ⟨start, span.stop⟩ markup) := by
  refine ⟨fun value =>
    ⟨stripDelimiters_ne_iff, fun _ wraps => wraps.eq_append, dialect.exists_unwrapped value⟩, ?_⟩
  intro markup span assigned start located here
  rcases dialect.exists_located markup with ⟨spans, failure, search, items, _⟩
  rw [items, mem_outcome_iff] at located
  rcases search.directiveAt_of_mem (liesIn_start markup) located with
    ⟨_, place, marked, stop, directive⟩
  rcases directive.exists_scanValue here with ⟨before, inText, rfl, scanned⟩
  rw [← directive.stops]
  constructor
  · intro delimiter opens
    rcases (opensAt_iff inText).mp opens with ⟨inside, found⟩
    simp only [scanValue, found] at scanned
    rcases exists_reads_of_closeScopes scanned with ⟨content, goesOn⟩
    have reads := (reads_of_opening? found).trans goesOn
    rw [Span.text_of_reads inText reads]
    exact (wraps_of_reads found scanned reads).eq_append
  · intro unopened
    rcases exists_readsValue scanned with ⟨value, readsValue⟩
    rw [readsValue.text_eq inText]
    refine stripDelimiters_eq_self fun delimiter wraps => unopened delimiter wraps.opens.mem ?_
    exact inText.hasAt_iff.mpr
      (((liesIn_start _).hasAt_iff.mp wraps.opens.1).trans readsValue.ahead)

/-- The scope that is opened first ends too early. -/
example : standard.stripDelimiters
    ['(', 'a', ')', '(', 'b', ')'] = ['(', 'a', ')', '(', 'b', ')'] := by
  decide +kernel

end Dialect
end MarkupDirectives
