import Mathlib.Data.List.Pairwise
import Mathlib.Data.List.Perm.Basic
import MarkupDirectives.Proofs.Locator.Search
import MarkupDirectives.Proofs.Scope.Reading

namespace MarkupDirectives

open Text Cursor Polling

/-!
# When the order of the delimiters matters

A scanner knows a dialect only by the tokens that it finds at a place.  Two
dialects that find the same tokens everywhere locate the same directives, and the
order of delimiters of which none begins with another is a case of this.
-/

namespace Dialect

variable {dialect other : Dialect} {cursor inside : Cursor} {delimiter : Delimiter} {token : Text}

/-! ## Dialects that find the same tokens -/

/-- At every place the other dialect finds the same tokens. -/
structure FindsSame (dialect other : Dialect) : Prop where
  marker : forall cursor, other.afterMarker? cursor = dialect.afterMarker? cursor
  assignment : forall cursor, other.afterAssignment? cursor = dialect.afterAssignment? cursor
  opening : forall cursor, other.opening? cursor = dialect.opening? cursor
  closing : forall cursor, other.closing? cursor = dialect.closing? cursor

namespace FindsSame

variable (same : dialect.FindsSame other)
include same

theorem closeScopes_eq (scopes : List Delimiter) (cursor : Cursor) :
    other.closeScopes scopes cursor = dialect.closeScopes scopes cursor := by
  fun_induction dialect.closeScopes scopes cursor with
  | case1 => exact closeScopes_nil
  | case2 innermost outer cursor next closes inductionHypothesis =>
      rw [closeScopes_close (reads_of_after? closes), inductionHypothesis]
  | case3 innermost outer cursor waits delimiter inside opens inductionHypothesis =>
      rw [closeScopes_nest waits ((same.opening cursor).trans opens), inductionHypothesis]
  | case4 innermost outer cursor waits unopened token stray =>
      exact closeScopes_stray waits ((same.opening cursor).trans unopened)
        ((same.closing cursor).trans stray)
  | case5 innermost outer cursor _ _ _ ended => exact closeScopes_of_end ended
  | case6 innermost outer cursor waits unopened unclosed c rest ahead inductionHypothesis =>
      have first : cursor.Reads [c] ⟨cursor.offset + c.utf8Size, rest⟩ := ⟨ahead, rfl⟩
      rw [closeScopes_plain waits ((same.opening cursor).trans unopened)
        ((same.closing cursor).trans unclosed) first, inductionHypothesis]

theorem scanValue_eq (assigned : Cursor) :
    other.scanValue assigned = dialect.scanValue assigned := by
  simp only [scanValue, same.opening, same.closing, same.closeScopes_eq]

theorem scanDirective_eq (marked : Cursor) :
    other.scanDirective marked = dialect.scanDirective marked := by
  simp only [scanDirective, same.assignment, same.scanValue_eq]

theorem stripDelimiters_eq (value : Text) :
    other.stripDelimiters value = dialect.stripDelimiters value := by
  simp only [stripDelimiters, same.opening, same.closeScopes_eq]

theorem findMarker?_eq (offset : Nat) (rest : Text) :
    other.findMarker? offset rest = dialect.findMarker? offset rest := by
  induction rest generalizing offset with
  | nil => rfl
  | cons c rest inductionHypothesis =>
      rw [findMarker?, findMarker?, same.marker, inductionHypothesis]

/-- The search with the other dialect takes the same steps. -/
theorem search {spans : List Span} {failure : Option SyntaxError}
    (search : dialect.Search cursor spans failure) :
    other.Search cursor spans failure := by
  induction search with
  | ended absent => exact .ended ((same.findMarker?_eq _ _).trans absent)
  | malformed found failed =>
      exact .malformed ((same.findMarker?_eq _ _).trans found)
        ((same.scanDirective_eq _).trans failed)
  | located found scanned _ inductionHypothesis =>
      have alsoScanned := (same.scanDirective_eq _).trans scanned
      exact .located ((same.findMarker?_eq _ _).trans found) alsoScanned inductionHypothesis

theorem locate_eq (markup : Text) : other.locate markup = dialect.locate markup := by
  rcases dialect.exists_search (Cursor.start markup) with ⟨spans, failure, search⟩
  have items : dialect.locate markup = outcome spans failure := Locator.items_of_search search
  have sameItems : other.locate markup = outcome spans failure :=
    Locator.items_of_search (same.search search)
  rw [items, sameItems]

end FindsSame

/-! ## Tokens that do not overlap -/

/-- Neither of the two opening tokens begins with the other. -/
def OpensApart (first second : Delimiter) : Prop :=
  ¬ first.opening <+: second.opening ∧ ¬ second.opening <+: first.opening

instance : DecidableRel OpensApart := fun first second =>
  inferInstanceAs
    (Decidable (¬ first.opening <+: second.opening ∧ ¬ second.opening <+: first.opening))

instance : Std.Symm OpensApart := ⟨fun _ _ apart => apart.symm⟩

/-- No opening token begins with the opening token of another delimiter, and no
closing token begins with another closing token. -/
structure OverlapFree (dialect : Dialect) : Prop where
  opening : dialect.delimiters.Pairwise OpensApart
  closing : forall first, first ∈ dialect.delimiters ->
    forall second, second ∈ dialect.delimiters ->
    first.closing <+: second.closing -> first.closing = second.closing

theorem standard_overlapFree : standard.OverlapFree := ⟨by decide, by decide⟩

namespace OverlapFree

variable (free : dialect.OverlapFree)
include free

/-- At every place at most one delimiter opens. -/
theorem eq_of_opening {first second : Delimiter} {text : Text} (member : first ∈ dialect.delimiters)
    (alsoMember : second ∈ dialect.delimiters) (begins : first.opening <+: text)
    (alsoBegins : second.opening <+: text) :
    first = second := by
  apply Classical.byContradiction
  intro different
  have apart := free.opening.forall member alsoMember different
  rcases List.prefix_or_prefix_of_prefix begins alsoBegins with shorter | longer
  · exact apart.1 shorter
  · exact apart.2 longer

/-- At every place at most one closing token stands. -/
theorem eq_of_closing {first second : Delimiter} {text : Text} (member : first ∈ dialect.delimiters)
    (alsoMember : second ∈ dialect.delimiters) (begins : first.closing <+: text)
    (alsoBegins : second.closing <+: text) :
    first.closing = second.closing := by
  rcases List.prefix_or_prefix_of_prefix begins alsoBegins with shorter | longer
  · exact free.closing first member second alsoMember shorter
  · exact (free.closing second alsoMember first member longer).symm

/-- The delimiter that is found is the one that opens, whatever its priority. -/
theorem opening?_eq_some_iff_mem :
    dialect.opening? cursor = some (delimiter, inside) ↔
      delimiter ∈ dialect.delimiters ∧ cursor.after? delimiter.opening = some inside := by
  constructor
  · exact opening?_eq_some
  · rintro ⟨member, follows⟩
    have begins : delimiter.opening <+: cursor.rest :=
      ⟨inside.rest, (reads_of_after? follows).ahead.symm⟩
    cases found : dialect.opening? cursor with
    | none => exact absurd begins (opening?_eq_none_iff.mp found delimiter member)
    | some opened =>
        rcases opened with ⟨first, place⟩
        rcases opening?_eq_some found with ⟨alsoMember, alsoFollows⟩
        cases free.eq_of_opening member alsoMember begins
          ⟨place.rest, (reads_of_after? alsoFollows).ahead.symm⟩
        cases follows.symm.trans alsoFollows
        rfl

/-- The closing token that is found is the one that stands there. -/
theorem closing?_eq_some_iff_mem :
    dialect.closing? cursor = some token ↔
      (Exists fun delimiter => delimiter ∈ dialect.delimiters ∧ delimiter.closing = token) ∧
        token <+: cursor.rest := by
  constructor
  · exact closing?_eq_some
  · rintro ⟨⟨delimiter, member, rfl⟩, begins⟩
    cases found : dialect.closing? cursor with
    | none => exact absurd begins (closing?_eq_none_iff.mp found delimiter member)
    | some token =>
        rcases closing?_eq_some found with ⟨⟨first, alsoMember, rfl⟩, alsoBegins⟩
        rw [free.eq_of_closing member alsoMember begins alsoBegins]

theorem of_perm (reordered : other.delimiters.Perm dialect.delimiters) : other.OverlapFree where
  opening := reordered.symm.pairwise free.opening fun apart => apart.symm
  closing := fun first member second alsoMember =>
    free.closing first (reordered.mem_iff.mp member) second (reordered.mem_iff.mp alsoMember)

/-- Then the order of the delimiters does not matter. -/
theorem findsSame {others : List Delimiter} (reordered : others.Perm dialect.delimiters) :
    dialect.FindsSame { dialect with delimiters := others } where
  marker := fun _ => rfl
  assignment := fun _ => rfl
  opening := by
    intro cursor
    have alsoFree : OverlapFree { dialect with delimiters := others } := free.of_perm reordered
    refine Option.ext fun (delimiter, inside) => ?_
    rw [alsoFree.opening?_eq_some_iff_mem, free.opening?_eq_some_iff_mem, reordered.mem_iff]
  closing := by
    intro cursor
    have alsoFree : OverlapFree { dialect with delimiters := others } := free.of_perm reordered
    refine Option.ext fun token => ?_
    simp only [alsoFree.closing?_eq_some_iff_mem, free.closing?_eq_some_iff_mem, reordered.mem_iff]

end OverlapFree

/-- If no opening token begins with that of another delimiter and no closing token
with another one, then the order of the delimiters makes no difference.  The
standard dialect is of this kind. -/
theorem locate_eq_of_perm (dialect : Dialect) (others : List Delimiter) (free : dialect.OverlapFree)
    (reordered : others.Perm dialect.delimiters) :
    (forall markup, locate { dialect with delimiters := others } markup = dialect.locate markup) ∧
      (forall value,
        stripDelimiters { dialect with delimiters := others } value =
          dialect.stripDelimiters value) ∧
        standard.OverlapFree :=
  ⟨(free.findsSame reordered).locate_eq, (free.findsSame reordered).stripDelimiters_eq,
  standard_overlapFree⟩

/-- Two of the delimiters share their closing token, and the order of all of them is
reversed. -/
theorem locate_eq_of_perm_reversed :
    standard.OverlapFree ∧ standard.delimiters.reverse.Perm standard.delimiters ∧
      locate { standard with
        delimiters := standard.delimiters.reverse } "blatex:a=@(b \"c\")".toList =
        [.ok ⟨0, 17⟩] := by
  have reordered := standard.delimiters.reverse_perm
  refine ⟨standard_overlapFree, reordered, ?_⟩
  rw [(locate_eq_of_perm standard _ standard_overlapFree reordered).1]
  decide +kernel

end Dialect
end MarkupDirectives
