import MarkupDirectives.Proofs.Locality.Cut
import MarkupDirectives.Proofs.Locator.Search

namespace MarkupDirectives

open Text Cursor

/-!
# Barriers

A barrier is a character through which nothing goes on: it occurs in no token,
and in no run of identifier characters or of white space.  Everything that is
found in two texts with a barrier between them fits into the part in which it
begins.
-/

/-- No token contains the character, up to the case of ASCII letters for the
marker where the dialect ignores it, and no run goes through it. -/
structure Dialect.Barrier (dialect : Dialect) (c : Char) : Prop where
  not_identifier : Character.isIdentifier c = false
  not_whitespace : Character.isWhitespace c = false
  not_marker :
    if dialect.ignoreCase = true then c.toLower ∉ dialect.marker.map Char.toLower
      else c ∉ dialect.marker
  not_assignment : c ∉ dialect.assignment
  not_opening : forall delimiter, delimiter ∈ dialect.delimiters -> c ∉ delimiter.opening
  not_closing : forall delimiter, delimiter ∈ dialect.delimiters -> c ∉ delimiter.closing

/-- What is read without the character ends in front of it. -/
theorem Cursor.Reads.offset_le_of_not_mem {cursor next : Cursor} {passed back : Text} {c : Char}
    (reads : (cursor.extend (c :: back)).Reads passed next) (absent : c ∉ passed) :
    next.offset ≤ cursor.textEnd := by
  have whole : cursor.rest ++ c :: back = passed ++ next.rest := reads.ahead
  have length : next.offset = cursor.offset + width passed := reads.offset
  rw [length, textEnd]
  apply Nat.add_le_add_left
  rcases List.append_eq_append_iff.mp whole with ⟨beyond, rfl, ahead⟩ | ⟨left, kept, _⟩
  · cases beyond with
    | nil => rw [List.append_nil]
    | cons d beyond =>
        cases ahead
        exact absurd (List.mem_append_right cursor.rest List.mem_cons_self) absent
  · rw [kept, width_append]
    exact Nat.le_add_right _ _

/-- A run that the character ends is the same in front of it as in the first
text alone. -/
theorem Cursor.skipWhile_extend_of_reject {cursor : Cursor} {accept : Char -> Bool} {back : Text}
    {c : Char} (rejected : accept c = false) :
    (cursor.extend (c :: back)).skipWhile accept =
      (cursor.skipWhile accept).extend (c :: back) := by
  apply skipWhile_extend
  apply (reads_skipWhile (cursor.extend (c :: back)) accept).offset_le_of_not_mem
  intro member
  have accepted := List.mem_takeWhile_imp member
  rw [rejected] at accepted
  cases accepted

namespace Dialect.Barrier

variable {dialect : Dialect} {c : Char} {cursor stop : Cursor} {back : Text}

/-! ## Tokens -/

theorem not_mem_of_spellsMarker (barrier : dialect.Barrier c) {head : Text}
    (spells : dialect.SpellsMarker head) :
    c ∉ head := by
  have absent := barrier.not_marker
  unfold SpellsMarker at spells
  by_cases ignores : dialect.ignoreCase = true
  · rw [if_pos ignores] at absent spells
    intro member
    apply absent
    rw [← spells]
    exact List.mem_map_of_mem member
  · rw [if_neg ignores] at absent spells
    rwa [spells]

theorem afterMarker?_extend (barrier : dialect.Barrier c) :
    dialect.afterMarker? (cursor.extend (c :: back)) =
      (dialect.afterMarker? cursor).map fun marked => marked.extend (c :: back) := by
  apply Dialect.afterMarker?_extend
  intro marked found
  rcases afterMarker?_eq_some_iff.mp found with ⟨_, head, spells, reads⟩
  exact reads.offset_le_of_not_mem (barrier.not_mem_of_spellsMarker spells)

theorem afterAssignment?_extend (barrier : dialect.Barrier c) :
    dialect.afterAssignment? (cursor.extend (c :: back)) =
      (dialect.afterAssignment? cursor).map fun next => next.extend (c :: back) := by
  apply Dialect.afterAssignment?_extend
  intro next found
  exact (reads_of_afterAssignment? found).offset_le_of_not_mem barrier.not_assignment

theorem opening?_extend (barrier : dialect.Barrier c) :
    dialect.opening? (cursor.extend (c :: back)) =
      (dialect.opening? cursor).map fun found => (found.1, found.2.extend (c :: back)) := by
  apply Dialect.opening?_extend
  intro delimiter inside found
  exact (reads_of_opening? found).offset_le_of_not_mem
    (barrier.not_opening delimiter (opening?_eq_some found).1)

theorem closing?_extend (barrier : dialect.Barrier c) :
    dialect.closing? (cursor.extend (c :: back)) = dialect.closing? cursor := by
  apply Dialect.closing?_extend
  intro token found
  rcases closing?_eq_some found with ⟨⟨delimiter, member, rfl⟩, behind, ahead⟩
  have reads :
      (cursor.extend (c :: back)).Reads delimiter.closing
        ⟨cursor.offset + width delimiter.closing, behind⟩ :=
    ⟨ahead.symm, rfl⟩
  exact reads.offset_le_of_not_mem (barrier.not_closing delimiter member)

/-! ## Scans -/

theorem seesSame (barrier : dialect.Barrier c) {awaited : Text} (absent : c ∉ awaited) :
    dialect.SeesSame awaited cursor (c :: back) where
  closing := after?_extend fun _ found => (reads_of_after? found).offset_le_of_not_mem absent
  opening := fun _ => barrier.opening?_extend
  stray := fun _ _ => barrier.closing?_extend

/-- Scopes that are closed in front of the barrier are closed at the same place
if the text goes on. -/
theorem closeScopes_extend (barrier : dialect.Barrier c) {scopes : List Delimiter}
    (absent : forall scope, scope ∈ scopes -> c ∉ scope.closing)
    (closed : dialect.closeScopes scopes cursor = .ok stop) :
    dialect.closeScopes scopes (cursor.extend (c :: back)) = .ok (stop.extend (c :: back)) := by
  fun_induction dialect.closeScopes scopes cursor with
  | case1 cursor =>
      cases closed
      exact closeScopes_nil
  | case2 innermost outer cursor next closes inductionHypothesis =>
      have same : dialect.SeesSame innermost.closing cursor (c :: back) :=
        barrier.seesSame (absent _ List.mem_cons_self)
      rw [same.closeScopes_extend_cons, closes]
      exact inductionHypothesis
        (fun scope member => absent scope (List.mem_cons_of_mem _ member)) closed
  | case3 innermost outer cursor waits delimiter inside opens inductionHypothesis =>
      have same : dialect.SeesSame innermost.closing cursor (c :: back) :=
        barrier.seesSame (absent _ List.mem_cons_self)
      rw [same.closeScopes_extend_cons, waits, opens]
      apply inductionHypothesis _ closed
      -- A scope that is opened on the way is one of the dialect, so the barrier cannot close it.
      intro scope member
      rcases List.mem_cons.mp member with rfl | outside
      · exact barrier.not_closing scope (opening?_eq_some opens).1
      · exact absent scope outside
  | case4 => cases closed
  | case5 => cases closed
  | case6 innermost outer cursor waits unopened unclosed d rest ahead inductionHypothesis =>
      have same : dialect.SeesSame innermost.closing cursor (c :: back) :=
        barrier.seesSame (absent _ List.mem_cons_self)
      rw [same.closeScopes_extend_cons, waits, unopened, unclosed, ahead]
      exact inductionHypothesis absent closed

theorem scanValue_extend (barrier : dialect.Barrier c)
    (scanned : dialect.scanValue cursor = .ok stop) :
    dialect.scanValue (cursor.extend (c :: back)) = .ok (stop.extend (c :: back)) := by
  simp only [scanValue, skipWhile_extend_of_reject barrier.not_whitespace, barrier.opening?_extend,
    barrier.closing?_extend] at scanned ⊢
  generalize cursor.skipWhile Character.isWhitespace = value at scanned ⊢
  cases opens : dialect.opening? value with
  | some opened =>
      rcases opened with ⟨delimiter, inside⟩
      rw [opens] at scanned
      apply barrier.closeScopes_extend _ scanned
      intro scope member
      cases List.mem_singleton.mp member
      exact barrier.not_closing delimiter (opening?_eq_some opens).1
  | none =>
      rw [opens] at scanned
      cases unclosed : dialect.closing? value with
      | some token =>
          rw [unclosed] at scanned
          cases scanned
      | none =>
          have run : (value.extend (c :: back)).skipWhile Character.isIdentifier = _ :=
            skipWhile_extend_of_reject barrier.not_identifier
          have fits : ((value.extend (c :: back)).skipWhile Character.isIdentifier).offset ≤
              value.textEnd := by
            rw [run, extend_offset, ← (reads_skipWhile value Character.isIdentifier).textEnd_eq]
            exact offset_le_textEnd _
          have begins : (value.extend (c :: back)).rest.head?.any Character.isIdentifier =
              value.rest.head?.any Character.isIdentifier :=
            any_head?_extend fun _ => fits
          rw [unclosed] at scanned
          simp only [Option.map_none, begins, run] at scanned ⊢
          by_cases starts : value.rest.head?.any Character.isIdentifier = true
          · rw [if_pos starts] at scanned ⊢
            cases scanned
            rfl
          · rw [if_neg starts] at scanned ⊢
            cases scanned
            rfl

theorem scanDirective_extend (barrier : dialect.Barrier c)
    (scanned : dialect.scanDirective cursor = .ok stop) :
    dialect.scanDirective (cursor.extend (c :: back)) = .ok (stop.extend (c :: back)) := by
  simp only [scanDirective, skipWhile_extend_of_reject barrier.not_identifier,
    skipWhile_extend_of_reject barrier.not_whitespace, barrier.afterAssignment?_extend] at scanned ⊢
  cases found : dialect.afterAssignment?
      ((cursor.skipWhile Character.isIdentifier).skipWhile Character.isWhitespace) with
  | some assigned =>
      rw [found] at scanned
      exact barrier.scanValue_extend scanned
  | none =>
      rw [found] at scanned
      cases scanned
      rfl

/-! ## Searches -/

/-- The next marker lies in the first text, or else it is the first one behind
the barrier. -/
theorem findMarker?_extend (barrier : dialect.Barrier c) (offset : Nat) (rest : Text) :
    dialect.findMarker? offset (rest ++ c :: back) =
      match dialect.findMarker? offset rest with
      | some (start, marked) => some (start, marked.extend (c :: back))
      | none => dialect.findMarker? (offset + width rest + c.utf8Size) back := by
  induction rest generalizing offset with
  | nil =>
      -- The barrier is next, and a marker that began with it would contain it.
      have marker : dialect.afterMarker? (extend ⟨offset, []⟩ (c :: back)) = _ :=
        barrier.afterMarker?_extend
      have nothing : dialect.afterMarker? ⟨offset, []⟩ = none := by
        cases found : dialect.afterMarker? ⟨offset, []⟩ with
        | none => rfl
        | some marked => exact absurd (length_lt_of_afterMarker? found) (Nat.not_lt_zero _)
      rw [nothing] at marker
      change dialect.afterMarker? ⟨offset, c :: back⟩ = none at marker
      have absent : dialect.findMarker? offset [] = none := rfl
      rw [absent, List.nil_append]
      change dialect.findMarker? offset (c :: back) = dialect.findMarker? (offset + c.utf8Size) back
      rw [findMarker?, marker]
  | cons d rest inductionHypothesis =>
      have marker : dialect.afterMarker? (extend ⟨offset, d :: rest⟩ (c :: back)) = _ :=
        barrier.afterMarker?_extend
      change dialect.afterMarker? ⟨offset, d :: (rest ++ c :: back)⟩ = _ at marker
      rw [List.cons_append, findMarker?, marker, findMarker?]
      cases dialect.afterMarker? ⟨offset, d :: rest⟩ with
      | some marked => rfl
      | none =>
          simp only [Option.map_none]
          rw [inductionHypothesis, width_cons, Nat.add_assoc offset]

end Dialect.Barrier

namespace Dialect.Search

variable {dialect : Dialect} {cursor : Cursor} {spans others : List Span}
  {failure : Option SyntaxError} {c : Char} {back : Text}

/-- A search depends on its place only through the next marker. -/
theorem of_findMarker?_eq {place : Cursor} (search : dialect.Search place spans failure)
    (same : dialect.findMarker? cursor.offset cursor.rest =
      dialect.findMarker? place.offset place.rest) :
    dialect.Search cursor spans failure := by
  cases search with
  | ended absent => exact .ended (same.trans absent)
  | malformed found failed => exact .malformed (same.trans found) failed
  | located found scanned further => exact .located (same.trans found) scanned further

/-- A search that does not fail in front of a barrier goes on behind it. -/
theorem splice (barrier : dialect.Barrier c) (front : dialect.Search cursor spans none)
    (behind : dialect.Search ⟨cursor.textEnd + c.utf8Size, back⟩ others failure) :
    dialect.Search (cursor.extend (c :: back)) (spans ++ others) failure := by
  generalize unfailed : (none : Option SyntaxError) = noFailure at front
  induction front with
  | @ended cursor absent =>
      apply behind.of_findMarker?_eq
      rw [extend_offset, extend_rest, barrier.findMarker?_extend, absent]
      rfl
  | malformed => cases unfailed
  | @located cursor marked stop start spans _ found scanned _ inductionHypothesis =>
      have sameFound :
          dialect.findMarker? (cursor.extend (c :: back)).offset (cursor.extend (c :: back)).rest =
          some (start, marked.extend (c :: back)) := by
        rw [extend_offset, extend_rest, barrier.findMarker?_extend, found]
      rcases exists_reads_of_step found scanned with ⟨_, reads⟩
      have sameEnd := reads.textEnd_eq
      have rest := inductionHypothesis (sameEnd ▸ behind) unfailed
      have whole := Search.located sameFound (barrier.scanDirective_extend scanned) rest
      exact whole

end Dialect.Search

end MarkupDirectives
