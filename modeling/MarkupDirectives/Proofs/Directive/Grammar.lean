import MarkupDirectives.Proofs.Directive.Extent
import MarkupDirectives.Proofs.Scope.Failure

namespace MarkupDirectives

open Text Cursor Character

/-!
# The grammar of directives

`Dialect.Extent` has a case for each kind of directive, in terms of offsets and
of longest runs of characters.  Each case is exactly what the scanner finds in
it, so the cases exclude each other and leave nothing out.
-/

/-- The longest run of accepted characters from the offset `start` on ends at
`stop`. -/
structure Text.RunsTo (text : Text) (accept : Char -> Bool) (start stop : Nat) : Prop where
  covers : Exists fun run : Text =>
    text.HasAt start run ∧ stop = start + width run ∧ forall c, c ∈ run -> accept c = true
  longest : forall c, text.HasAt stop [c] -> accept c = false

/-- At a place of a text the longest run is the one that is skipped. -/
theorem Cursor.LiesIn.runsTo_iff {cursor : Cursor} {text : Text} {accept : Char -> Bool}
    {stop : Nat} (inText : cursor.LiesIn text) :
    text.RunsTo accept cursor.offset stop ↔ (cursor.skipWhile accept).offset = stop := by
  constructor
  · rintro ⟨⟨run, stands, rfl, accepted⟩, longest⟩
    rcases inText.hasAt_iff.mp stands with ⟨rest, ahead⟩
    have reads : cursor.Reads run ⟨cursor.offset + width run, rest⟩ := ⟨ahead.symm, rfl⟩
    rw [skipWhile_eq_of_reads reads accepted]
    intro c first
    rcases List.head?_eq_some_iff.mp first with ⟨others, same⟩
    exact longest c ((inText.of_reads reads).hasAt_iff.mpr ⟨others, same.symm⟩)
  · rintro rfl
    have reads := reads_skipWhile cursor accept
    refine ⟨⟨_, inText.hasAt_of_reads reads, rfl, fun _ => List.mem_takeWhile_imp⟩, ?_⟩
    intro c standing
    rcases (inText.of_reads reads).hasAt_iff.mp standing with ⟨others, ahead⟩
    have rejected := List.head?_dropWhile_not accept cursor.rest
    have same : cursor.rest.dropWhile accept = c :: others := ahead.symm
    rw [same] at rejected
    simpa using rejected

/-- In front of another character the longest run is empty. -/
theorem Text.RunsTo.stop_eq_of_reject {text : Text} {accept : Char -> Bool} {start stop : Nat}
    {c : Char} (run : text.RunsTo accept start stop) (standing : text.HasAt start [c])
    (rejected : accept c = false) :
    stop = start := by
  rcases exists_liesIn_of_isBoundary standing.isBoundary with ⟨rest, inText⟩
  rcases inText.hasAt_iff.mp standing with ⟨others, ahead⟩
  have skipped : (skipWhile ⟨start, rest⟩ accept).offset = stop := inText.runsTo_iff.mp run
  have same : rest = c :: others := ahead.symm
  rw [← skipped, skipWhile, same, List.takeWhile_cons_of_neg (Bool.eq_false_iff.mp rejected)]
  rfl

/-- The longest run is not empty if an accepted character is next. -/
theorem Cursor.any_head?_iff {cursor : Cursor} {accept : Char -> Bool} :
    cursor.rest.head?.any accept = true ↔ cursor.offset < (cursor.skipWhile accept).offset := by
  rcases cursor with ⟨offset, rest⟩
  rw [skipWhile, Nat.lt_add_right_iff_pos, Nat.pos_iff_ne_zero, ne_eq, width_eq_zero_iff]
  cases rest with
  | nil => exact iff_of_false Bool.false_ne_true fun nonempty => nonempty rfl
  | cons c rest =>
      by_cases accepted : accept c = true
      · rw [List.takeWhile_cons_of_pos accepted]
        exact iff_of_true accepted (List.cons_ne_nil _ _)
      · rw [List.takeWhile_cons_of_neg accepted]
        exact iff_of_false accepted fun nonempty => nonempty rfl

namespace Dialect

/-- A marker ends at `marked`, and behind a key and white space the assignment
token follows, which ends at `assigned`.  Behind more white space is the offset
`value`. -/
def ValueAt (dialect : Dialect) (text : Text) (marked assigned value : Nat) : Prop :=
  Exists fun key : Nat => Exists fun gap : Nat =>
    text.RunsTo isIdentifier marked key ∧ text.RunsTo isWhitespace key gap ∧
      dialect.assignment ≠ [] ∧ text.HasAt gap dialect.assignment ∧
      assigned = gap + width dialect.assignment ∧
        text.RunsTo isWhitespace assigned value

/-- Behind a marker that ends at `marked`, a directive extends to an offset or is
malformed in some way. -/
inductive Extent (dialect : Dialect) (text : Text) (marked : Nat) :
    Except SyntaxError Nat -> Prop where
  /-- No assignment token follows the key, and the directive ends with the key. -/
  | key {stop gap : Nat} :
      text.RunsTo isIdentifier marked stop ->
      text.RunsTo isWhitespace stop gap ->
      (dialect.assignment = [] ∨ ¬ text.HasAt gap dialect.assignment) ->
      Extent dialect text marked (.ok stop)
  /-- A delimiter opens, and the directive ends with its scope. -/
  | delimited {assigned value stop : Nat} {delimiter : Delimiter} :
      dialect.ValueAt text marked assigned value ->
      dialect.OpensAt text value delimiter ->
      Scope dialect text delimiter.closing (value + width delimiter.opening) stop ->
      Extent dialect text marked (.ok stop)
  /-- A delimiter opens, and its scope does not end. -/
  | unclosed {assigned value : Nat} {delimiter : Delimiter} {error : SyntaxError} :
      dialect.ValueAt text marked assigned value ->
      dialect.OpensAt text value delimiter ->
      ScopeFails dialect text delimiter.closing (value + width delimiter.opening) error ->
      Extent dialect text marked (.error error)
  /-- No delimiter opens, but a closing token stands where a value would
  begin. -/
  | stray {assigned value : Nat} {token : Text} :
      dialect.ValueAt text marked assigned value ->
      (forall delimiter, delimiter ∈ dialect.delimiters -> ¬ text.HasAt value delimiter.opening) ->
      dialect.ClosesAt text value token ->
      Extent dialect text marked (.error (.unexpectedClosing value token))
  /-- No token stands there but an identifier character, and the directive ends
  with the run of these. -/
  | bare {assigned value stop : Nat} :
      dialect.ValueAt text marked assigned value ->
      (forall delimiter, delimiter ∈ dialect.delimiters ->
        ¬ text.HasAt value delimiter.opening ∧ ¬ text.HasAt value delimiter.closing) ->
      text.RunsTo isIdentifier value stop ->
      value < stop ->
      Extent dialect text marked (.ok stop)
  /-- There is no value, and the directive ends with the assignment token. -/
  | empty {assigned value : Nat} :
      dialect.ValueAt text marked assigned value ->
      (forall delimiter, delimiter ∈ dialect.delimiters ->
        ¬ text.HasAt value delimiter.opening ∧ ¬ text.HasAt value delimiter.closing) ->
      text.RunsTo isIdentifier value value ->
      Extent dialect text marked (.ok assigned)

variable {dialect : Dialect} {text : Text} {marked cursor assigned : Cursor}

theorem afterAssignment?_eq_some_iff :
    dialect.afterAssignment? cursor = some assigned ↔
      dialect.assignment ≠ [] ∧ cursor.Reads dialect.assignment assigned := by
  unfold afterAssignment?
  split
  · next none => exact iff_of_false nofun fun assigns => assigns.1 none
  · next assigns =>
      refine ⟨fun found => ⟨assigns, reads_of_after? found⟩, fun reads => ?_⟩
      exact after?_eq_some_iff.mpr ⟨reads.2.ahead, reads.2.offset⟩

theorem afterAssignment?_eq_none_iff (inText : cursor.LiesIn text) :
    dialect.afterAssignment? cursor = none ↔
      dialect.assignment = [] ∨ ¬ text.HasAt cursor.offset dialect.assignment := by
  unfold afterAssignment?
  split
  · next none => exact iff_of_true rfl (Or.inl none)
  · next assigns => rw [after?_eq_none_iff, inText.hasAt_iff, or_iff_right assigns]

/-- A value would begin where the scanner looks for one. -/
theorem valueAt_iff {stop value : Nat} (inText : marked.LiesIn text) :
    dialect.ValueAt text marked.offset stop value ↔
      Exists fun assigned : Cursor =>
        dialect.afterAssignment? ((marked.skipWhile isIdentifier).skipWhile isWhitespace) =
          some assigned ∧
          assigned.offset = stop ∧ (assigned.skipWhile isWhitespace).offset = value := by
  have keyInText := inText.of_reads (reads_skipWhile marked isIdentifier)
  have gapInText := keyInText.of_reads (reads_skipWhile _ isWhitespace)
  constructor
  · rintro ⟨key, gap, keyRun, gapRun, assigns, stands, rfl, space⟩
    cases inText.runsTo_iff.mp keyRun
    cases keyInText.runsTo_iff.mp gapRun
    rcases gapInText.hasAt_iff.mp stands with ⟨rest, ahead⟩
    have reads : ((marked.skipWhile isIdentifier).skipWhile isWhitespace).Reads dialect.assignment
        ⟨_ + width dialect.assignment, rest⟩ := ⟨ahead.symm, rfl⟩
    exact ⟨_, afterAssignment?_eq_some_iff.mpr ⟨assigns, reads⟩, rfl,
      (gapInText.of_reads reads).runsTo_iff.mp space⟩
  · rintro ⟨assigned, found, rfl, rfl⟩
    rcases afterAssignment?_eq_some_iff.mp found with ⟨assigns, reads⟩
    exact ⟨_, _, inText.runsTo_iff.mpr rfl, keyInText.runsTo_iff.mpr rfl, assigns,
      gapInText.hasAt_of_reads reads, reads.offset, (gapInText.of_reads reads).runsTo_iff.mpr rfl⟩

theorem liesIn_value (inText : marked.LiesIn text)
    (found : dialect.afterAssignment? ((marked.skipWhile isIdentifier).skipWhile isWhitespace) =
      some assigned) :
    (assigned.skipWhile isWhitespace).LiesIn text := by
  have keyRead := (reads_skipWhile marked isIdentifier).trans (reads_skipWhile _ isWhitespace)
  exact inText.of_reads
    ((keyRead.trans (reads_of_afterAssignment? found)).trans (reads_skipWhile _ _))

/-- Where a value would begin, the scanner goes on with it. -/
theorem scanDirective_of_valueAt {stop value : Nat} (inText : marked.LiesIn text)
    (here : dialect.ValueAt text marked.offset stop value) :
    Exists fun assigned : Cursor =>
      (assigned.skipWhile isWhitespace).LiesIn text ∧ assigned.offset = stop ∧
        (assigned.skipWhile isWhitespace).offset = value ∧
          dialect.scanDirective marked = dialect.scanValue assigned := by
  rcases (valueAt_iff inText).mp here with ⟨assigned, found, ends, begins⟩
  refine ⟨assigned, liesIn_value inText found, ends, begins, ?_⟩
  simp only [scanDirective, found]

/-- An identifier character follows a directive only behind a delimited value. -/
theorem Extent.exists_opensAt {marked stop : Nat} {c : Char}
    (extent : dialect.Extent text marked (.ok stop))
    (follows : text.HasAt stop [c]) (identifier : isIdentifier c = true) :
    Exists fun assigned : Nat => Exists fun value : Nat => Exists fun delimiter : Delimiter =>
      dialect.ValueAt text marked assigned value ∧ dialect.OpensAt text value delimiter := by
  have refused : ¬ isIdentifier c = false := Bool.not_eq_false _ ▸ identifier
  cases extent with
  | key run => exact absurd (run.longest c follows) refused
  | delimited here opens => exact ⟨_, _, _, here, opens⟩
  | bare _ _ run => exact absurd (run.longest c follows) refused
  | @empty assigned value here _ run =>
      -- An identifier character is no white space, so the value would begin right here.
      rcases here with ⟨key, gap, _, _, _, _, _, space⟩
      cases space.stop_eq_of_reject follows (isWhitespace_eq_false_of_isIdentifier identifier)
      exact absurd (run.longest c follows) refused

/-! ## The scanner and the grammar -/

/-- Behind the assignment token the scanner finds what the grammar says. -/
theorem extent_scanValue (inText : marked.LiesIn text)
    (found : dialect.afterAssignment? ((marked.skipWhile isIdentifier).skipWhile isWhitespace) =
      some assigned) :
    dialect.Extent text marked.offset ((dialect.scanValue assigned).map Cursor.offset) := by
  have here : dialect.ValueAt text marked.offset assigned.offset
      (assigned.skipWhile isWhitespace).offset :=
    (valueAt_iff inText).mpr ⟨assigned, found, rfl, rfl⟩
  have valueInText := liesIn_value inText found
  simp only [scanValue]
  generalize assigned.skipWhile isWhitespace = value at here valueInText
  cases opens : dialect.opening? value with
  | some opened =>
      rcases opened with ⟨delimiter, inside⟩
      have opensHere := (opensAt_iff valueInText).mpr ⟨inside, opens⟩
      have reads := reads_of_opening? opens
      have insideInText := valueInText.of_reads reads
      cases closed : dialect.closeScopes [delimiter] inside with
      | ok stop =>
          have scope := (closeScopes_iff_scope insideInText).mp ⟨stop, closed, rfl⟩
          simp only [closed]
          exact .delimited here opensHere (reads.offset ▸ scope)
      | error error =>
          have fails := (closeScopes_eq_error_iff_scopeFails insideInText).mp closed
          simp only [closed]
          exact .unclosed here opensHere (reads.offset ▸ fails)
  | none =>
      cases stray : dialect.closing? value with
      | some token =>
          exact .stray here ((unopened_iff valueInText).mpr opens)
            ((closesAt_iff valueInText).mpr stray)
      | none =>
          have bare := (bare_iff valueInText).mpr ⟨opens, stray⟩
          have run := valueInText.runsTo_iff.mpr (Eq.refl (value.skipWhile isIdentifier).offset)
          by_cases begins : value.rest.head?.any isIdentifier = true
          · simp only [if_pos begins]
            exact .bare here bare run (any_head?_iff.mp begins)
          · simp only [if_neg begins]
            have stays := Nat.le_of_not_lt (mt any_head?_iff.mpr begins)
            have nothing := Nat.le_antisymm stays (reads_skipWhile _ _).offset_le
            exact .empty here bare (nothing ▸ run)

/-- The scanner finds of a directive what the grammar says. -/
theorem extent_scanDirective (inText : marked.LiesIn text) :
    dialect.Extent text marked.offset ((dialect.scanDirective marked).map Cursor.offset) := by
  simp only [scanDirective]
  cases found :
      dialect.afterAssignment? ((marked.skipWhile isIdentifier).skipWhile isWhitespace) with
  | some assigned => exact extent_scanValue inText found
  | none =>
      have keyInText := inText.of_reads (reads_skipWhile marked isIdentifier)
      have gapInText := keyInText.of_reads (reads_skipWhile _ isWhitespace)
      have unassigned := (afterAssignment?_eq_none_iff gapInText).mp found
      exact .key (inText.runsTo_iff.mpr rfl) (keyInText.runsTo_iff.mpr rfl) unassigned

/-- The grammar allows nothing else. -/
theorem scanDirective_of_extent {result : Except SyntaxError Nat} (inText : marked.LiesIn text)
    (extent : dialect.Extent text marked.offset result) :
    (dialect.scanDirective marked).map Cursor.offset = result := by
  cases extent with
  | key keyRun gapRun unassigned =>
      have keyInText := inText.of_reads (reads_skipWhile marked isIdentifier)
      have gapInText := keyInText.of_reads (reads_skipWhile _ isWhitespace)
      cases inText.runsTo_iff.mp keyRun
      cases keyInText.runsTo_iff.mp gapRun
      simp only [scanDirective, (afterAssignment?_eq_none_iff gapInText).mpr unassigned]
      rfl
  | delimited here opens scope =>
      rcases scanDirective_of_valueAt inText here with ⟨assigned, valueInText, rfl, rfl, same⟩
      rcases (opensAt_iff valueInText).mp opens with ⟨inside, opened⟩
      have reads := reads_of_opening? opened
      rcases (closeScopes_iff_scope (valueInText.of_reads reads)).mpr (reads.offset ▸ scope) with
        ⟨place, closed, rfl⟩
      simp only [same, scanValue, opened, closed]
      rfl
  | unclosed here opens fails =>
      rcases scanDirective_of_valueAt inText here with ⟨assigned, valueInText, rfl, rfl, same⟩
      rcases (opensAt_iff valueInText).mp opens with ⟨inside, opened⟩
      have reads := reads_of_opening? opened
      have failed :=
        (closeScopes_eq_error_iff_scopeFails (valueInText.of_reads reads)).mpr
          (reads.offset ▸ fails)
      simp only [same, scanValue, opened, failed]
      rfl
  | stray here unopened closes =>
      rcases scanDirective_of_valueAt inText here with ⟨assigned, valueInText, rfl, rfl, same⟩
      simp only [same, scanValue, (unopened_iff valueInText).mp unopened,
        (closesAt_iff valueInText).mp closes]
      rfl
  | bare here nothing run nonempty =>
      rcases scanDirective_of_valueAt inText here with ⟨assigned, valueInText, rfl, rfl, same⟩
      rcases (bare_iff valueInText).mp nothing with ⟨unopened, unclosed⟩
      cases valueInText.runsTo_iff.mp run
      simp only [same, scanValue, unopened, unclosed, any_head?_iff.mpr nonempty, if_true]
      rfl
  | empty here nothing run =>
      rcases scanDirective_of_valueAt inText here with ⟨assigned, valueInText, rfl, rfl, same⟩
      rcases (bare_iff valueInText).mp nothing with ⟨unopened, unclosed⟩
      have none : ¬ (assigned.skipWhile isWhitespace).rest.head?.any isIdentifier = true := by
        intro begins
        exact Nat.ne_of_gt (any_head?_iff.mp begins) (valueInText.runsTo_iff.mp run)
      simp only [same, scanValue, unopened, unclosed, if_neg none]
      rfl

/-- At every place the scanner finds exactly what the grammar says. -/
theorem extent_iff {result : Except SyntaxError Nat} (inText : marked.LiesIn text) :
    dialect.Extent text marked.offset result ↔
      (dialect.scanDirective marked).map Cursor.offset = result :=
  ⟨scanDirective_of_extent inText, fun same => same ▸ extent_scanDirective inText⟩

end Dialect

end MarkupDirectives
