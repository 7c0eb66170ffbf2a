import MarkupDirectives.Proofs.Locator.Extents
import MarkupDirectives.Proofs.Locator.States
import MarkupDirectives.Proofs.Settings.WellFormed

namespace MarkupDirectives

open Text Cursor Polling

/-!
# Scanning goes forward

No token of a dialect is empty, whatever has been chosen about it, so the loop
over scopes goes forward.  A search goes forward by a marker for each span.
-/

/-- One thing that can be chosen about a dialect. -/
inductive Choice where
  | marker (marker : Text)
  | assignment (assignment : Text)
  | delimiters (pairs : List (Text × Text))
  | ignoreCase (ignoreCase : Bool)

/-- The pairs of delimiter tokens, if it is the delimiters that are chosen. -/
def Choice.pairs? : Choice -> Option (List (Text × Text))
  | delimiters pairs => some pairs
  | _ => none

namespace Dialect

variable {dialect : Dialect} {markup : Text} {cursor : Cursor} {spans : List Span}
  {failure : Option SyntaxError}

/-! ## What is chosen -/

def choose (dialect : Dialect) : Choice -> Dialect
  | .marker marker => dialect.withMarker marker
  | .assignment assignment => dialect.withAssignment assignment
  | .delimiters pairs => dialect.withDelimiters pairs
  | .ignoreCase ignoreCase => dialect.withIgnoreCase ignoreCase

/-- The dialect after some choices, of which a later one overrides an earlier one
about the same thing. -/
def chosen (choices : List Choice) : Dialect := choices.foldl choose standard

/-- Choosing anything but the delimiters leaves the tokens as they are. -/
theorem tokens_choose (dialect : Dialect) (choice : Choice) :
    (dialect.choose choice).tokens = choice.pairs?.elim dialect.tokens usable := by
  cases choice with
  | delimiters pairs => exact dialect.tokens_withDelimiters_eq_usable pairs
  | marker | assignment | ignoreCase => rfl

theorem tokens_foldl_choose (dialect : Dialect) (choices : List Choice) :
    (choices.foldl choose dialect).tokens =
      (choices.filterMap Choice.pairs?).getLast?.elim dialect.tokens usable := by
  induction choices generalizing dialect with
  | nil => rfl
  | cons choice choices inductionHypothesis =>
      rw [List.foldl_cons, inductionHypothesis, tokens_choose, List.filterMap_cons]
      cases choice.pairs? with
      | none => rfl
      | some pairs =>
          simp only [Option.elim_some, List.getLast?_cons]
          cases (choices.filterMap Choice.pairs?).getLast? <;> rfl

example : (chosen
    [.delimiters [([], [')']), (['['], [']'])], .marker [], .ignoreCase true]).tokens =
      [(['['], [']'])] := by
  decide

/-- No token of a dialect is empty, however the dialect has come about. -/
theorem ne_nil_of_mem_tokens {pair : Text × Text} (member : pair ∈ dialect.tokens) :
    pair.1 ≠ [] ∧ pair.2 ≠ [] := by
  rcases List.mem_map.mp member with ⟨delimiter, _, rfl⟩
  exact ⟨delimiter.opening_ne_nil, delimiter.closing_ne_nil⟩

/-! ## How many spans there are -/

/-- Every span takes the search forward by at least a marker. -/
theorem Search.offset_add_le (search : dialect.Search cursor spans failure)
    (inText : cursor.LiesIn markup) :
    cursor.offset + spans.length * width dialect.marker ≤ width markup := by
  induction search with
  | ended | malformed =>
      rw [List.length_nil, Nat.zero_mul, Nat.add_zero]
      exact inText.isBoundary.le_width
  | @located cursor marked stop _ spans _ found scanned _ inductionHypothesis =>
      rcases exists_place_of_findMarker? found with ⟨_, place, ahead, _, marks⟩
      rcases exists_reads_of_scanDirective scanned with ⟨_, behind⟩
      rcases exists_reads_of_step found scanned with ⟨_, passed⟩
      have rest := inductionHypothesis (inText.of_reads passed)
      have marker := offset_of_afterMarker? marks
      have skipped := ahead.offset_le
      have further := behind.offset_le
      rw [List.length_cons, Nat.succ_mul]
      omega

theorem length_spans_le (dialect : Dialect) (markup : Text) (nonempty : dialect.marker ≠ []) :
    (dialect.spans markup).length ≤ width markup / width dialect.marker := by
  rcases dialect.exists_search_spans markup with ⟨failure, search⟩
  have positive : 0 < width dialect.marker := Nat.pos_of_ne_zero (mt width_eq_zero_iff.mp nonempty)
  have bound : 0 + (dialect.spans markup).length * width dialect.marker ≤ width markup :=
    search.offset_add_le (liesIn_start markup)
  rw [Nat.zero_add] at bound
  exact (Nat.le_div_iff_mul_le positive).mpr bound

/-- With the empty marker a search finds nothing, not even an error. -/
theorem locate_eq_nil (markup : Text) (empty : dialect.marker = []) :
    dialect.locate markup = [] := by
  rcases dialect.exists_located markup with ⟨spans, failure, search, items, _⟩
  have unmarked : forall offset, ¬ dialect.MarkerAt markup offset := fun _ marker => marker.1 empty
  rcases search.eq_nil_of_forall_not_markerAt (liesIn_start markup) unmarked with ⟨rfl, rfl⟩
  exact items

/-- The tokens of a dialect are those of the last list that has been chosen, without
the pairs that have an empty token, or else the standard ones.

Each iteration of the loop over scopes that is followed by another gets further,
and no more scopes are open than bytes have been read.  The loop returns after at
most one iteration more than there are bytes ahead.  There are no more spans than
there is room for as many markers. -/
theorem scanning_goes_forward (choices : List Choice) :
    (chosen choices).tokens =
      (choices.filterMap Choice.pairs?).getLast?.elim standard.tokens usable ∧
    (forall pair, pair ∈ (chosen choices).tokens -> pair.1 ≠ [] ∧ pair.2 ≠ []) ∧
    (forall (text : Text) (state next : ScopeState),
      (chosen choices).turn? text state = some (.continues next) -> state.offset < next.offset) ∧
    (forall (text : Text) (start : Nat), text.IsBoundary start ->
      (forall (count : Nat) (state : ScopeState),
        (chosen choices).turns? text count ⟨[], start⟩ = some (.continues state) ->
          start + count ≤ state.offset ∧ state.offset ≤ width text ∧
          state.scopes.length ≤ state.offset - start) ∧
      Exists fun result : Except SyntaxError Nat =>
        (chosen choices).turns? text (width text - start + 1) ⟨[], start⟩ = some (.returns result) ∧
        forall (rest : Text) (delimiter : Delimiter) (inside : Cursor), LiesIn ⟨start, rest⟩ text ->
          (chosen choices).opening? ⟨start, rest⟩ = some (delimiter, inside) ->
            result = ((chosen choices).closeScopes [delimiter] inside).map Cursor.offset) ∧
    forall markup : Text,
      ((chosen choices).marker ≠ [] ->
        ((chosen choices).spans markup).length ≤ width markup / width (chosen choices).marker) ∧
      ((chosen choices).marker = [] -> (chosen choices).locate markup = []) := by
  refine ⟨tokens_foldl_choose standard choices, fun _ => ne_nil_of_mem_tokens, ?_, ?_, ?_⟩
  · intro text state next goesOn
    exact (progress_of_turn? goesOn).2.2.1
  · intro text start boundary
    have begins : text.IsBoundary (ScopeState.mk [] start).offset := boundary
    constructor
    · intro count state goesOn
      rcases progress_of_turns? begins goesOn with ⟨inside, counted, filled⟩
      refine ⟨counted, inside.le_width, ?_⟩
      have fromNone : state.scopes.length + start ≤ 0 + state.offset := filled
      omega
    · rcases exists_turns?_eq_returns (chosen choices) begins (Nat.lt_succ_self _) with
        ⟨result, returned, looped⟩
      refine ⟨result, returned, ?_⟩
      intro rest delimiter inside inText opens
      exact Option.some.inj (looped.symm.trans (loop?_of_opening? inText opens))
  · intro markup
    exact ⟨(chosen choices).length_spans_le markup, locate_eq_nil markup⟩

end Dialect
end MarkupDirectives
