import MarkupDirectives.Proofs.Locality.Cut
import MarkupDirectives.Proofs.Locality.Shift
import MarkupDirectives.Proofs.Locator.Contract

namespace MarkupDirectives

open Text Cursor Polling

/-!
# Locating is local

What a search finds in a text is found in its parts.  An item belongs to the
beginning of a text if all that it depends on lies there, which for the end of
the text is never the case.
-/

namespace Finding

/-- The offset up to which the text has to be read to find the item.  There is
none if the item depends on where the text ends. -/
def extent? : Finding -> Option Nat
  | .ok span => some span.stop
  | .error (.outOfRange _ _) => none
  | .error (.unexpectedClosing position token) => some (position + width token)

/-- The item depends on no more than the first `limit` bytes. -/
def endsBy (limit : Nat) (item : Finding) : Bool := (extent? item).any fun extent => extent ≤ limit

theorem endsBy_ok {limit : Nat} {span : Span} :
    endsBy limit (.ok span) = true ↔ span.stop ≤ limit :=
  decide_eq_true_iff

theorem endsBy_error {limit : Nat} {error : SyntaxError} :
    endsBy limit (.error error) = true ↔ SettledBy limit (.error error) := by
  cases error with
  | outOfRange => exact iff_of_false Bool.false_ne_true id
  | unexpectedClosing => exact decide_eq_true_iff

end Finding

namespace Dialect

variable {dialect : Dialect} {cursor : Cursor} {more : Text}

/-! ## The next marker -/

/-- A marker that can be read at once is the next one. -/
theorem findMarker?_of_afterMarker? {marked : Cursor}
    (follows : dialect.afterMarker? cursor = some marked) :
    dialect.findMarker? cursor.offset cursor.rest = some (cursor.offset, marked) := by
  rcases cursor with ⟨offset, rest⟩
  cases rest with
  | nil => exact absurd (length_lt_of_afterMarker? follows) (Nat.not_lt_zero _)
  | cons c rest => rw [findMarker?, follows]

/-- A marker of the longer text that fits into the shorter one is the next one in
both. -/
theorem exists_findMarker?_of_extend {marked : Cursor} {start : Nat}
    (found : dialect.findMarker? cursor.offset (cursor.rest ++ more) = some (start, marked))
    (fits : marked.offset ≤ cursor.textEnd) :
    Exists fun shorter : Cursor =>
      dialect.findMarker? cursor.offset cursor.rest = some (start, shorter) ∧
      marked = shorter.extend more := by
  rcases cursor with ⟨offset, rest⟩
  induction rest generalizing offset with
  | nil =>
      have atEnd :
          dialect.findMarker? (Cursor.mk offset more).offset (Cursor.mk offset more).rest =
            some (start, marked) := found
      rcases exists_reads_of_findMarker? atEnd with ⟨_, _, beyond⟩
      exact absurd fits (Nat.not_le_of_gt beyond)
  | cons c rest inductionHypothesis =>
      change dialect.findMarker? offset (c :: (rest ++ more)) = some (start, marked) at found
      rw [findMarker?] at found
      rw [findMarker?]
      cases follows : dialect.afterMarker? ⟨offset, c :: (rest ++ more)⟩ with
      | some next =>
          rw [follows] at found
          cases found
          have same : dialect.afterMarker? (extend ⟨start, c :: rest⟩ more) =
              (dialect.afterMarker? ⟨start, c :: rest⟩).map fun next => next.extend more := by
            refine afterMarker?_extend fun next alsoFollows => ?_
            cases follows.symm.trans alsoFollows
            exact fits
          rcases Option.map_eq_some_iff.mp (same.symm.trans follows) with ⟨shorter, short, rfl⟩
          rw [short]
          exact ⟨shorter, rfl, rfl⟩
      | none =>
          have unmarked : dialect.afterMarker? ⟨offset, c :: rest⟩ = none := by
            cases short : dialect.afterMarker? ⟨offset, c :: rest⟩ with
            | none => rfl
            | some next =>
                have long := afterMarker?_extend_of_some short more
                cases follows.symm.trans long
          rw [follows] at found
          rw [unmarked]
          refine inductionHypothesis (offset + c.utf8Size) found ?_
          rwa [(reads_cons offset c rest).textEnd_eq]

/-- If the directive at the next marker is settled within the shorter text, then
it is scanned there in the same way. -/
theorem exists_scanDirective_of_extend {marked : Cursor} {start : Nat}
    (found : dialect.findMarker? (cursor.extend more).offset (cursor.extend more).rest =
      some (start, marked))
    (settled : SettledBy cursor.textEnd (dialect.scanDirective marked)) :
    Exists fun shorter : Cursor =>
      dialect.findMarker? cursor.offset cursor.rest = some (start, shorter) ∧
        dialect.scanDirective marked =
          (dialect.scanDirective shorter).map fun stop => stop.extend more := by
  have fits := (dialect.scanDirective_bounds marked).offset_le settled
  rcases exists_findMarker?_of_extend found fits with ⟨shorter, short, rfl⟩
  refine ⟨shorter, short, scanDirective_extend ?_⟩
  rcases exists_reads_of_findMarker? short with ⟨passed, reads, _⟩
  rwa [reads.textEnd_eq]

theorem exists_located_of_extend {marked stop : Cursor} {start : Nat}
    (found : dialect.findMarker? (cursor.extend more).offset (cursor.extend more).rest =
      some (start, marked))
    (scanned : dialect.scanDirective marked = .ok stop) (fits : stop.offset ≤ cursor.textEnd) :
    Exists fun shorter : Cursor => Exists fun shortStop : Cursor =>
      dialect.findMarker? cursor.offset cursor.rest = some (start, shorter) ∧
        dialect.scanDirective shorter = .ok shortStop ∧ stop = shortStop.extend more ∧
          shortStop.textEnd = cursor.textEnd := by
  have settled : SettledBy cursor.textEnd (dialect.scanDirective marked) := by
    rw [scanned]
    exact fits
  rcases exists_scanDirective_of_extend found settled with ⟨shorter, short, agree⟩
  rw [scanned] at agree
  cases result : dialect.scanDirective shorter with
  | error error =>
      rw [result] at agree
      cases agree
  | ok shortStop =>
      rw [result] at agree
      cases agree
      rcases exists_reads_of_step short result with ⟨_, reads⟩
      exact ⟨shorter, shortStop, short, result, rfl, reads.textEnd_eq⟩

theorem exists_malformed_of_extend {marked : Cursor} {start : Nat} {error : SyntaxError}
    (found : dialect.findMarker? (cursor.extend more).offset (cursor.extend more).rest =
      some (start, marked))
    (failed : dialect.scanDirective marked = .error error)
    (settled : SettledBy cursor.textEnd (.error error)) :
    Exists fun shorter : Cursor =>
      dialect.findMarker? cursor.offset cursor.rest = some (start, shorter) ∧
        dialect.scanDirective shorter = .error error := by
  rcases exists_scanDirective_of_extend found (failed ▸ settled) with ⟨shorter, short, agree⟩
  rw [failed] at agree
  cases result : dialect.scanDirective shorter with
  | ok stop =>
      rw [result] at agree
      cases agree
  | error alsoError =>
      rw [result] at agree
      cases agree
      exact ⟨shorter, short, result⟩

/-! ## The items of a search -/

namespace Search

variable {spans : List Span} {failure : Option SyntaxError}

/-- No item ends in front of the place from which the search goes on. -/
theorem offset_le_of_endsBy (search : dialect.Search cursor spans failure)
    {item : Finding} {limit : Nat} (member : item ∈ outcome spans failure)
    (ends : Finding.endsBy limit item = true) : cursor.offset ≤ limit := by
  induction search with
  | ended => cases member
  | malformed found failed =>
      cases List.mem_singleton.mp member
      rcases exists_reads_of_findMarker? found with ⟨_, reads, _⟩
      have bounds := (dialect.scanDirective_bounds _).of_reads reads
      rw [failed] at bounds
      exact bounds.offset_le (Finding.endsBy_error.mp ends)
  | located found scanned _ inductionHypothesis =>
      rcases exists_reads_of_step found scanned with ⟨_, reads⟩
      have forward := reads.offset_le
      rcases List.mem_cons.mp member with rfl | later
      · exact Nat.le_trans forward (Finding.endsBy_ok.mp ends)
      · exact Nat.le_trans forward (inductionHypothesis later)

/-- An item ends within the text, or it is the end of the text. -/
theorem endsBy_textEnd_or_eq (search : dialect.Search cursor spans failure) {item : Finding}
    (member : item ∈ outcome spans failure) :
    Finding.endsBy cursor.textEnd item = true ∨
      Exists fun expected : Text => item = .error (.outOfRange cursor.textEnd expected) := by
  induction search with
  | ended => cases member
  | @malformed cursor marked start error found failed =>
      cases List.mem_singleton.mp member
      rcases exists_reads_of_findMarker? found with ⟨_, reads, _⟩
      have bounds := (dialect.scanDirective_bounds marked).of_reads reads
      rw [failed] at bounds
      cases error with
      | outOfRange position expected =>
          cases bounds
          exact Or.inr ⟨expected, rfl⟩
      | unexpectedClosing => exact Or.inl (Finding.endsBy_error.mpr bounds.2)
  | located found scanned _ inductionHypothesis =>
      rcases exists_reads_of_step found scanned with ⟨_, reads⟩
      have sameEnd := reads.textEnd_eq
      rcases List.mem_cons.mp member with rfl | later
      · exact Or.inl (Finding.endsBy_ok.mpr (sameEnd ▸ offset_le_textEnd _))
      · exact sameEnd ▸ inductionHypothesis later

/-- The search in the shorter text begins with the items of the longer one that
end within the shorter text. -/
theorem filter_endsBy_prefix (search : dialect.Search (cursor.extend more) spans failure) :
    (outcome spans failure).filter (Finding.endsBy cursor.textEnd) <+:
      Locator.items ⟨dialect, cursor, false⟩ := by
  generalize same : cursor.extend more = place at search
  induction search generalizing cursor with
  | ended => exact List.nil_prefix
  | @malformed place marked start error found failed =>
      subst same
      by_cases ends : Finding.endsBy cursor.textEnd (.error error) = true
      · rcases exists_malformed_of_extend found failed (Finding.endsBy_error.mp ends) with
          ⟨shorter, short, alsoFailed⟩
        rw [Locator.items_of_search (.malformed short alsoFailed)]
        have kept : (outcome [] (some error)).filter (Finding.endsBy cursor.textEnd) =
            outcome [] (some error) :=
          List.filter_cons_of_pos ends
        exact ⟨[], (List.append_nil _).trans kept⟩
      · have nothing : (outcome [] (some error)).filter (Finding.endsBy cursor.textEnd) = [] :=
          List.filter_cons_of_neg ends
        rw [nothing]
        exact List.nil_prefix
  | @located place marked stop start spans failure found scanned search inductionHypothesis =>
      subst same
      by_cases ends : stop.offset ≤ cursor.textEnd
      · rcases exists_located_of_extend found scanned ends with
          ⟨shorter, shortStop, short, alsoScanned, rfl, sameEnd⟩
        have taken := Locator.next_of_located short alsoScanned
        rw [Locator.items_of_next_some (congrArg Prod.fst taken), taken, outcome_cons,
          List.filter_cons_of_pos (Finding.endsBy_ok.mpr ends)]
        exact (List.prefix_cons_inj _).mpr (sameEnd ▸ inductionHypothesis rfl)
      · -- All later items end further on.
        have nothing :
            (outcome (⟨start, stop.offset⟩ :: spans) failure).filter
              (Finding.endsBy cursor.textEnd) = [] := by
          refine List.filter_eq_nil_iff.mpr fun item member endsHere => ends ?_
          rcases List.mem_cons.mp member with rfl | later
          · exact Finding.endsBy_ok.mp endsHere
          · exact search.offset_le_of_endsBy later endsHere
        rw [nothing]
        exact List.nil_prefix

/-- A search that has found some spans goes on at the end of the last of them. -/
theorem exists_search_endOf {earlier later : List Span}
    (search : dialect.Search cursor (earlier ++ later) failure) :
    Exists fun passed : Text => Exists fun stop : Cursor =>
      cursor.Reads passed stop ∧ stop.offset = Span.endOf cursor.offset earlier ∧
      dialect.Search stop later failure := by
  induction earlier generalizing cursor with
  | nil => exact ⟨[], cursor, Reads.refl cursor, rfl, search⟩
  | cons span earlier inductionHypothesis =>
      cases search with
      | located found scanned further =>
          rcases exists_reads_of_step found scanned with ⟨_, reads⟩
          rcases inductionHypothesis further with ⟨_, stop, onwards, ends, rest⟩
          exact ⟨_, stop, reads.trans onwards, ends, rest⟩

/-- A text that is cut at the end of a span has the spans up to that one, and
nothing else. -/
theorem cut {earlier later : List Span}
    (search : dialect.Search (cursor.extend more) (earlier ++ later) failure)
    (ends : Span.endOf cursor.offset earlier = cursor.textEnd) :
    dialect.Search cursor earlier none := by
  induction earlier generalizing cursor with
  | nil =>
      have nothing : cursor.rest = [] := by
        have length : cursor.offset = cursor.offset + width cursor.rest := ends
        exact width_eq_zero_iff.mp (by omega)
      refine .ended ?_
      rw [nothing]
      rfl
  | cons span earlier inductionHypothesis =>
      cases search with
      | @located _ marked stop start _ _ found scanned further =>
          rcases exists_search_endOf further with ⟨_, last, onwards, lastEnd, _⟩
          have fits : stop.offset ≤ cursor.textEnd :=
            Nat.le_trans onwards.offset_le (Nat.le_of_eq (lastEnd.trans ends))
          rcases exists_located_of_extend found scanned fits with
            ⟨shorter, shortStop, short, alsoScanned, rfl, sameEnd⟩
          have rest : dialect.Search shortStop earlier none :=
            inductionHypothesis further (ends.trans sameEnd.symm)
          have whole := Search.located short alsoScanned rest
          exact whole

/-- The part of a text up to the end of one of its spans has the spans up to that
one. -/
theorem exists_beginning {markup : Text} {earlier later : List Span}
    (search : dialect.Search (Cursor.start markup) (earlier ++ later) failure) :
    Exists fun kept : Text => Exists fun dropped : Text =>
      markup = kept ++ dropped ∧ Span.endOf 0 earlier = width kept ∧
        dialect.Search (Cursor.start kept) earlier none := by
  rcases search.exists_search_endOf with ⟨kept, stop, reads, ends, _⟩
  have whole : markup = kept ++ stop.rest := reads.ahead
  have length : Span.endOf 0 earlier = width kept :=
    ends.symm.trans (reads.offset.trans (Nat.zero_add _))
  refine ⟨kept, stop.rest, whole, length, ?_⟩
  subst whole
  exact search.cut (length.trans (Nat.zero_add _).symm)

/-- Behind every span the items are those of the text that follows it. -/
theorem exists_stop (search : dialect.Search cursor spans failure) {earlier later : List Finding}
    {span : Span} (division : outcome spans failure = earlier ++ .ok span :: later) :
    Exists fun passed : Text => Exists fun stop : Cursor =>
      cursor.Reads passed stop ∧ stop.offset = span.stop ∧
        later = (dialect.locate stop.rest).map (Finding.shift stop.offset) := by
  induction search generalizing earlier with
  | ended => cases earlier <;> cases division
  | malformed =>
      cases earlier with
      | nil => cases division
      | cons item earlier => cases earlier <;> cases division
  | @located cursor marked stop start spans failure found scanned search inductionHypothesis =>
      rcases exists_reads_of_step found scanned with ⟨_, reads⟩
      rw [outcome_cons] at division
      cases earlier with
      | nil =>
          rcases List.cons.inj division with ⟨same, rest⟩
          cases same
          refine ⟨_, stop, reads, rfl, ?_⟩
          rw [← Locator.items_eq_map_shift, Locator.items_of_search search, rest]
      | cons item earlier =>
          rcases List.cons.inj division with ⟨_, rest⟩
          rcases inductionHypothesis rest with ⟨_, last, further, sameEnd, located⟩
          exact ⟨_, last, reads.trans further, sameEnd, located⟩

end Search

/-! ## The text of a span -/

/-- A directive is scanned alike if its text is all there is. -/
theorem DirectiveAt.exists_scan_text {markup : Text} {span : Span} {place marked stop : Cursor}
    (directive : dialect.DirectiveAt markup span place marked stop) :
    Exists fun alone : Cursor => Exists fun longStop : Cursor =>
      dialect.afterMarker? (Cursor.start (span.text markup)) = some alone ∧
        dialect.scanDirective (alone.extend stop.rest) = .ok longStop ∧ longStop.rest = stop.rest ∧
          longStop.offset = width (span.text markup) := by
  rcases directive.exists_text with ⟨head, body, nonempty, spells, reads, goesOn, text⟩
  have samePlace :
      ((⟨0 + width head, body⟩ : Cursor).extend stop.rest).shift place.offset = marked := by
    rcases marked with ⟨offset, rest⟩
    have first : offset = place.offset + width head := reads.offset
    have second : rest = body ++ stop.rest := goesOn.ahead
    subst first second
    rw [Cursor.shift, Nat.zero_add, Nat.add_comm]
    rfl
  have moved := dialect.scanDirective_shift place.offset
    ((⟨0 + width head, body⟩ : Cursor).extend stop.rest)
  rw [samePlace, directive.scans] at moved
  cases result : dialect.scanDirective ((⟨0 + width head, body⟩ : Cursor).extend stop.rest) with
  | error error =>
      rw [result] at moved
      cases moved
  | ok longStop =>
      rw [result] at moved
      have same : stop = longStop.shift place.offset := Except.ok.inj moved
      have length : stop.offset = place.offset + width head + width body := by
        rw [goesOn.offset, reads.offset]
      have longLength : stop.offset = longStop.offset + place.offset := congrArg Cursor.offset same
      rw [text, width_append]
      exact ⟨_, longStop, afterMarker?_eq_some_iff.mpr ⟨nonempty, head, spells, rfl, rfl⟩, result,
        (congrArg Cursor.rest same).symm, by omega⟩

theorem DirectiveAt.locate_text {markup : Text} {span : Span} {place marked stop : Cursor}
    (directive : dialect.DirectiveAt markup span place marked stop) :
    dialect.locate (span.text markup) = [.ok ⟨0, width (span.text markup)⟩] := by
  rcases directive.exists_scan_text with ⟨alone, longStop, follows, scanned, sameRest, length⟩
  have textEnd : (Cursor.start (span.text markup)).textEnd = width (span.text markup) :=
    Nat.zero_add _
  have found := findMarker?_of_afterMarker? (afterMarker?_extend_of_some follows stop.rest)
  rcases exists_located_of_extend found scanned (Nat.le_of_eq (length.trans textEnd.symm)) with
    ⟨_, shortStop, short, alsoScanned, same, _⟩
  have ended : shortStop.rest = [] := by
    have whole : shortStop.rest ++ stop.rest = stop.rest := by rw [← extend_rest, ← same, sameRest]
    exact List.append_left_eq_self.mp whole
  have search := Search.located short alsoScanned (.ended (by rw [ended]; rfl))
  have shortLength : shortStop.offset = width (span.text markup) := by
    rw [← length, same, extend_offset]
  rw [locate, Locator.start, Locator.items_of_search search, shortLength]
  rfl

/-! ## The cut laws -/

/-- The beginning of a text has the items that end there, and no other item of
the text, unless it is the whole text. -/
theorem Search.locate_beginning {kept dropped : Text} {spans : List Span}
    {failure : Option SyntaxError}
    (search : dialect.Search (Cursor.start (kept ++ dropped)) spans failure) :
    (outcome spans failure).filter (Finding.endsBy (width kept)) <+: dialect.locate kept ∧
      forall item, item ∈ dialect.locate kept -> item ∈ outcome spans failure ->
        Finding.endsBy (width kept) item = true ∨ width kept = width (kept ++ dropped) := by
  have keptEnd : (Cursor.start kept).textEnd = width kept := Nat.zero_add _
  have wholeEnd : (Cursor.start (kept ++ dropped)).textEnd = width (kept ++ dropped) :=
    Nat.zero_add _
  constructor
  · have extended : dialect.Search ((Cursor.start kept).extend dropped) spans failure := search
    rw [← keptEnd]
    exact extended.filter_endsBy_prefix
  · intro item ofKept ofWhole
    rcases dialect.exists_located kept with ⟨keptSpans, keptFailure, keptSearch, keptItems, _⟩
    rw [keptItems] at ofKept
    rcases keptSearch.endsBy_textEnd_or_eq ofKept with ends | ⟨expected, rfl⟩
    · exact Or.inl (keptEnd ▸ ends)
    · rcases search.endsBy_textEnd_or_eq ofWhole with impossible | ⟨_, same⟩
      · cases impossible
      · rw [Except.error.injEq, SyntaxError.outOfRange.injEq, keptEnd, wholeEnd] at same
        exact Or.inr same.1

/-- The beginning of a text up to a boundary begins with exactly the items that end
by that boundary.  Behind a span the text that follows it has the remaining
items.  The text of a span has that one span and no error. -/
theorem locate_is_local (dialect : Dialect) (markup : Text) :
    (forall offset, markup.IsBoundary offset ->
      Exists fun kept : Text => Exists fun dropped : Text =>
        markup.splitAt? offset = some (kept, dropped) ∧
        (dialect.locate markup).filter (Finding.endsBy offset) <+: dialect.locate kept ∧
        forall item, item ∈ dialect.locate kept -> item ∈ dialect.locate markup ->
          Finding.endsBy offset item = true ∨ offset = width markup) ∧
    (forall earlier span later, dialect.locate markup = earlier ++ .ok span :: later ->
      Exists fun before : Text => Exists fun rest : Text =>
        markup.splitAt? span.stop = some (before, rest) ∧
        (dialect.locate rest).map (Finding.shift span.stop) = later) ∧
    (forall span, .ok span ∈ dialect.locate markup ->
      dialect.locate (span.text markup) = [.ok ⟨0, width (span.text markup)⟩]) := by
  rcases dialect.exists_located markup with ⟨spans, failure, search, items, _⟩
  rw [items]
  refine ⟨?_, ?_, ?_⟩
  · rintro _ ⟨kept, dropped, rfl, rfl⟩
    exact ⟨kept, dropped, splitAt?_eq_some_iff.mpr ⟨rfl, rfl⟩, search.locate_beginning⟩
  · intro earlier span later division
    rcases search.exists_stop division with ⟨passed, stop, reads, ends, located⟩
    refine ⟨passed, stop.rest, splitAt?_eq_some_iff.mpr ⟨reads.ahead, ?_⟩, (ends ▸ located).symm⟩
    rw [← ends, reads.offset]
    exact Nat.zero_add _
  · intro span member
    rw [mem_outcome_iff] at member
    rcases search.directiveAt_of_mem (liesIn_start markup) member with
      ⟨_, place, marked, stop, directive⟩
    exact directive.locate_text

end Dialect
end MarkupDirectives
