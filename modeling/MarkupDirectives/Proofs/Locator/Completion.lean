import Mathlib.Logic.Function.Iterate
import MarkupDirectives.Proofs.Locality.Completion
import MarkupDirectives.Proofs.Locator.Folding
import MarkupDirectives.Proofs.Render.Splicing

namespace MarkupDirectives

open Text Cursor Character Polling

/-!
# Errors that can be repaired

If the end of the text was noticed, the missing tokens can be appended one by
one.  A closing token that is not expected remains so however the text goes on.
Both hold since another marker follows every span that is found before a failure.
-/

namespace Dialect

variable {dialect : Dialect} {cursor marked stop : Cursor} {spans others : List Span}
  {error : SyntaxError} {failure : Option SyntaxError} {start : Nat} {more : Text}

/-! ## Markers ahead -/

/-- Where a marker is found ahead, its characters are ahead. -/
theorem exists_head_of_findMarker?
    (found : dialect.findMarker? cursor.offset cursor.rest = some (start, marked)) :
    Exists fun skipped : Text => Exists fun head : Text =>
      dialect.SpellsMarker head ∧ cursor.rest = skipped ++ (head ++ marked.rest) := by
  rcases exists_place_of_findMarker? found with ⟨skipped, place, reads, _, follows⟩
  rcases afterMarker?_eq_some_iff.mp follows with ⟨_, head, spells, goesOn⟩
  exact ⟨skipped, head, spells, by rw [reads.ahead, goesOn.ahead]⟩

theorem length_le_of_findMarker?
    (found : dialect.findMarker? cursor.offset cursor.rest = some (start, marked)) :
    dialect.marker.length ≤ cursor.rest.length := by
  rcases exists_head_of_findMarker? found with ⟨skipped, head, spells, whole⟩
  rw [whole, List.length_append, List.length_append, spells.length_eq]
  omega

/-- The next marker remains the next one if the text goes on. -/
theorem findMarker?_extend_of_some
    (found : dialect.findMarker? cursor.offset cursor.rest = some (start, marked)) (more : Text) :
    dialect.findMarker? (cursor.extend more).offset (cursor.extend more).rest =
      some (start, marked.extend more) := by
  rcases cursor with ⟨offset, rest⟩
  induction rest generalizing offset with
  | nil => cases found
  | cons c rest inductionHypothesis =>
      change dialect.findMarker? offset (c :: rest) = some (start, marked) at found
      change dialect.findMarker? offset (c :: (rest ++ more)) = some (start, marked.extend more)
      rw [findMarker?] at found ⊢
      cases follows : dialect.afterMarker? ⟨offset, c :: rest⟩ with
      | some next =>
          have alsoFollows :
              dialect.afterMarker? ⟨offset, c :: (rest ++ more)⟩ = some (next.extend more) :=
            afterMarker?_extend_of_some follows more
          rw [follows] at found
          cases found
          rw [alsoFollows]
      | none =>
          rw [follows] at found
          have ahead : dialect.findMarker? (Cursor.mk (offset + c.utf8Size) rest).offset
              (Cursor.mk (offset + c.utf8Size) rest).rest = some (start, marked) := found
          -- The marker ahead is as long as one that would begin here, so that one would fit as
          -- well.
          have short : dialect.marker.length ≤ (c :: rest).length :=
            Nat.le_succ_of_le (length_le_of_findMarker? ahead)
          have unmarked : dialect.afterMarker? ⟨offset, c :: (rest ++ more)⟩ = none := by
            have same : dialect.afterMarker? (extend ⟨offset, c :: rest⟩ more) = _ :=
              afterMarker?_extend_of_length_le short more
            rwa [follows] at same
          rw [unmarked]
          exact inductionHypothesis _ ahead

/-- In front of a marker there is white space, and then there are two more
characters at least. -/
theorem IsStandard.two_le_of_findMarker? (usual : dialect.IsStandard)
    (found : dialect.findMarker? cursor.offset cursor.rest = some (start, marked)) :
    2 ≤ (cursor.skipWhile isWhitespace).rest.length := by
  rcases exists_head_of_findMarker? found with ⟨skipped, head, spells, whole⟩
  have length : head.length = 7 := by
    rw [spells.length_eq, usual.marker]
    rfl
  rcases List.exists_cons_of_length_eq_add_one length with ⟨h, head, rfl⟩
  have first : h.toLower = 'b' := by
    rcases usual with ⟨ignoreCase, rfl⟩
    cases ignoreCase with
    | true => exact (List.cons.inj spells).1
    | false =>
        have same : h :: head = standard.marker := spells
        cases same
        rfl
  have solid : ¬ isWhitespace h = true := by
    rw [← isWhitespace_toLower, first]
    decide
  have kept : (h :: head ++ marked.rest) <:+ cursor.rest.dropWhile isWhitespace := by
    rw [whole, List.dropWhile_append]
    split
    · exact ⟨[], (List.dropWhile_cons_of_neg solid).symm⟩
    · exact List.suffix_append _ _
  have bound := kept.length_le
  rw [List.length_append, length] at bound
  change 2 ≤ (cursor.rest.dropWhile isWhitespace).length
  omega

/-! ## Searches that fail -/

/-- A search that fails has its spans in every longer text. -/
theorem Search.exists_failing (usual : dialect.IsStandard)
    (search : dialect.Search cursor spans (some error)) :
    Exists fun passed : Text => Exists fun place : Cursor =>
      cursor.Reads passed place ∧ dialect.Search place [] (some error) ∧
        forall more others failure, dialect.Search (place.extend more) others failure ->
          dialect.Search (cursor.extend more) (spans ++ others) failure := by
  generalize failed : some error = failure at search
  induction search with
  | ended => cases failed
  | @malformed cursor marked start _ found scanned =>
      cases failed
      exact ⟨[], cursor, Reads.refl cursor, .malformed found scanned, fun _ _ _ further => further⟩
  | @located cursor marked stop start spans _ found scanned search inductionHypothesis =>
      rcases inductionHypothesis failed with ⟨_, place, onwards, failing, stays⟩
      rcases exists_reads_of_step found scanned with ⟨_, reads⟩
      have long : 2 ≤ (stop.skipWhile isWhitespace).rest.length := by
        cases failed
        cases search with
        | malformed next => exact usual.two_le_of_findMarker? next
        | located next => exact usual.two_le_of_findMarker? next
      refine ⟨_, place, reads.trans onwards, failing, ?_⟩
      intro more others failure further
      have lasting : Lasting (dialect.scanDirective marked) := by
        rw [scanned]
        exact long
      have alsoScanned := scanDirective_extend_of_lasting usual lasting more
      rw [scanned] at alsoScanned
      have whole :=
        Search.located (findMarker?_extend_of_some found more) alsoScanned
          (stays more others failure further)
      exact whole

/-- A closing token that is not expected remains the error if the text goes
on. -/
theorem locate_append_of_unexpectedClosing (usual : dialect.IsStandard) {markup token : Text}
    {position : Nat}
    (items : dialect.locate markup = outcome spans (some (.unexpectedClosing position token)))
    (more : Text) :
    dialect.locate (markup ++ more) = outcome spans (some (.unexpectedClosing position token)) := by
  rcases (search_of_locate items).exists_failing usual with ⟨_, place, _, failing, stays⟩
  cases failing with
  | @malformed _ marked start _ found failed =>
      have lasting : Lasting (dialect.scanDirective marked) := by
        rw [failed]
        exact trivial
      have alsoFailed := scanDirective_extend_of_lasting usual lasting more
      rw [failed] at alsoFailed
      have search := stays more [] _ (.malformed (findMarker?_extend_of_some found more) alsoFailed)
      rw [List.append_nil] at search
      exact Locator.items_of_search search

/-! ## Closing what is open -/

/-- A directive begins at the offset, and at the end of the text the scopes of
its value are open. -/
def LeftOpenAt (dialect : Dialect) (markup : Text) (start : Nat) (scopes : List Delimiter) : Prop :=
  Exists fun place : Cursor => Exists fun marked : Cursor =>
    place.LiesIn markup ∧ place.offset = start ∧ dialect.afterMarker? place = some marked ∧
      dialect.LeavesOpen marked scopes

theorem LeftOpenAt.unique {markup : Text} {scopes alsoScopes : List Delimiter}
    (leftOpen : dialect.LeftOpenAt markup start scopes)
    (alsoLeftOpen : dialect.LeftOpenAt markup start alsoScopes) :
    scopes = alsoScopes := by
  rcases leftOpen with ⟨place, marked, inText, begins, follows, leavesOpen⟩
  rcases alsoLeftOpen with
    ⟨alsoPlace, alsoMarked, alsoInText, alsoBegins, alsoFollows, alsoLeavesOpen⟩
  cases inText.eq_of_offset_eq alsoInText (begins.trans alsoBegins.symm)
  cases follows.symm.trans alsoFollows
  exact leavesOpen.unique alsoLeavesOpen

/-- Where the end of the text was noticed, some scopes are open.  They are
closed one after the other by what is appended, and the directive is complete
when none is open any more. -/
theorem exists_leftOpenAt (usual : dialect.IsStandard) {markup expected : Text} {position : Nat}
    (items : dialect.locate markup = outcome spans (some (.outOfRange position expected))) :
    Exists fun start : Nat => Exists fun scopes : List Delimiter =>
      dialect.LeftOpenAt markup start scopes ∧
        forall closed left, scopes = closed ++ left ->
          dialect.locate (markup ++ closings closed) =
            match left with
            | [] => outcome (spans ++ [⟨start, width (markup ++ closings closed)⟩]) none
            | innermost :: _ =>
                outcome spans
                  (some (.outOfRange (width (markup ++ closings closed)) innermost.closing)) := by
  rcases (search_of_locate items).exists_failing usual with ⟨_, place, reads, failing, stays⟩
  cases failing with
  | @malformed _ marked start _ found failed =>
      rcases scanDirective_eq_outOfRange_iff.mp failed with ⟨innermost, outer, leavesOpen, _, _⟩
      rcases exists_place_of_findMarker? found with ⟨_, begins, skipped, starts, follows⟩
      rcases exists_reads_of_findMarker? found with ⟨_, further, _⟩
      have markedEnd : marked.textEnd = width markup :=
        (reads.trans further).textEnd_eq.trans (Nat.zero_add _)
      refine ⟨start, innermost :: outer,
        ⟨begins, marked, (liesIn_start markup).of_reads (reads.trans skipped), starts, follows,
        leavesOpen⟩, ?_⟩
      intro closed left division
      have scanned := leavesOpen.scanDirective_extend usual (closings closed)
      have closes : (⟨marked.textEnd, closings closed⟩ : Cursor).Reads (closings closed)
          ⟨width (markup ++ closings closed), []⟩ := by
        refine ⟨(List.append_nil _).symm, ?_⟩
        rw [width_append, markedEnd]
      rw [division, closeScopes_closings closes] at scanned
      have sameFound := findMarker?_extend_of_some found (closings closed)
      cases left with
      | nil =>
          rw [closeScopes_nil] at scanned
          exact Locator.items_of_search (stays _ _ _ (.located sameFound scanned (.ended rfl)))
      | cons scope left =>
          rw [closeScopes_of_end rfl] at scanned
          have search := stays _ [] _ (.malformed sameFound scanned)
          rw [List.append_nil] at search
          exact Locator.items_of_search search

/-- The text with the token appended that is missing at its end, if the end of
the text was noticed. -/
def closeInnermost (dialect : Dialect) (markup : Text) : Text :=
  match (dialect.locate markup).getLast? with
  | some (.error (.outOfRange _ expected)) => markup ++ expected
  | _ => markup

theorem closeInnermost_of_outOfRange {markup expected : Text} {position : Nat}
    (items : dialect.locate markup = outcome spans (some (.outOfRange position expected))) :
    dialect.closeInnermost markup = markup ++ expected := by
  have last : (dialect.locate markup).getLast? = some (.error (.outOfRange position expected)) := by
    rw [items, outcome]
    exact List.getLast?_concat
  rw [closeInnermost, last]

/-- If the errors name the scopes one after the other, then their closing tokens
are appended one after the other. -/
theorem iterate_closeInnermost {markup : Text} {scopes closed left : List Delimiter}
    (named : forall closed innermost outer, scopes = closed ++ innermost :: outer ->
      Exists fun position : Nat =>
        dialect.locate (markup ++ closings closed) =
          outcome spans (some (.outOfRange position innermost.closing)))
    (division : scopes = closed ++ left) :
    dialect.closeInnermost^[closed.length] markup = markup ++ closings closed := by
  induction closed using List.reverseRecOn generalizing left with
  | nil => exact (List.append_nil markup).symm
  | append_singleton closed scope inductionHypothesis =>
      rw [List.append_assoc, List.singleton_append] at division
      rcases named closed scope left division with ⟨_, items⟩
      rw [List.length_append, List.length_singleton, Function.iterate_succ_apply',
        inductionHypothesis division, closeInnermost_of_outOfRange items, closings, closings,
        List.flatMap_append, List.flatMap_singleton, List.append_assoc]

/-- A text can be repaired by what is appended unless it contains a closing token
that is not expected. -/
theorem mem_locate_iff_not_accepts_append (usual : dialect.IsStandard) (markup : Text) :
    (Exists fun position : Nat => Exists fun token : Text =>
        .error (.unexpectedClosing position token) ∈ dialect.locate markup) ↔
      forall more, ¬ dialect.Accepts (markup ++ more) := by
  rcases dialect.exists_located markup with ⟨spans, failure, _, items, _⟩
  constructor
  · rintro ⟨position, token, member⟩ more accepts
    rw [items, error_mem_outcome_iff] at member
    subst member
    apply accepts (.unexpectedClosing position token)
    rw [locate_append_of_unexpectedClosing usual items, error_mem_outcome_iff]
  · intro rejects
    match failure with
    | none => exact absurd (accepts_iff.mpr ⟨spans, by rwa [List.append_nil]⟩) (rejects [])
    | some (.outOfRange position expected) =>
        rcases exists_leftOpenAt usual items with ⟨start, scopes, _, completes⟩
        have complete := completes scopes [] (List.append_nil scopes).symm
        exact absurd (accepts_iff.mpr ⟨_, complete⟩) (rejects _)
    | some (.unexpectedClosing position token) =>
        exact ⟨position, token, by rw [items, error_mem_outcome_iff]⟩

/-- A closing token that is not expected is found exactly if no longer text is
accepted.  If the end of the text is noticed, then some scopes are open, and by
appending the missing token again and again all of them are closed, the innermost
first; in the end the directive that was not complete is one more span. -/
theorem locate_fails_repairably (ignoreCase : Bool) (markup : Text) :
    ((Exists fun position : Nat => Exists fun token : Text =>
        .error (.unexpectedClosing position token) ∈
          (standard.withIgnoreCase ignoreCase).locate markup) ↔
      forall more, ¬ (standard.withIgnoreCase ignoreCase).Accepts (markup ++ more)) ∧
    (forall spans position expected,
      (standard.withIgnoreCase ignoreCase).locate markup =
        outcome spans (some (.outOfRange position expected)) ->
      Exists fun start : Nat => Exists fun scopes : List Delimiter =>
        (standard.withIgnoreCase ignoreCase).LeftOpenAt markup start scopes ∧
        (forall others, (standard.withIgnoreCase ignoreCase).LeftOpenAt markup start others ->
          others = scopes) ∧
        (forall closed left, scopes = closed ++ left ->
          (standard.withIgnoreCase ignoreCase).closeInnermost^[closed.length] markup =
            markup ++ closings closed) ∧
        (forall closed innermost outer, scopes = closed ++ innermost :: outer ->
          (standard.withIgnoreCase ignoreCase).locate
              ((standard.withIgnoreCase ignoreCase).closeInnermost^[closed.length] markup) =
            outcome spans (some (.outOfRange
              (width ((standard.withIgnoreCase ignoreCase).closeInnermost^[closed.length] markup))
              innermost.closing))) ∧
        (standard.withIgnoreCase ignoreCase).locate
            ((standard.withIgnoreCase ignoreCase).closeInnermost^[scopes.length] markup) =
          outcome (spans ++
            [⟨start, width
              ((standard.withIgnoreCase ignoreCase).closeInnermost^[scopes.length] markup)⟩])
                none) ∧
    (forall kept dropped, markup = kept ++ dropped ->
      (standard.withIgnoreCase ignoreCase).Accepts markup ->
      forall position token,
        .error (.unexpectedClosing position token) ∉
          (standard.withIgnoreCase ignoreCase).locate kept) := by
  generalize same : standard.withIgnoreCase ignoreCase = dialect
  have usual : dialect.IsStandard := ⟨ignoreCase, same.symm⟩
  refine ⟨mem_locate_iff_not_accepts_append usual markup, ?_, ?_⟩
  · intro spans position expected items
    rcases exists_leftOpenAt usual items with ⟨start, scopes, leftOpen, completes⟩
    have named : forall closed innermost outer, scopes = closed ++ innermost :: outer ->
        dialect.locate (markup ++ closings closed) =
          outcome spans
            (some (.outOfRange (width (markup ++ closings closed)) innermost.closing)) :=
      fun closed innermost outer division => completes closed (innermost :: outer) division
    have appended : forall closed left, scopes = closed ++ left ->
        dialect.closeInnermost^[closed.length] markup = markup ++ closings closed :=
      fun _ _ => iterate_closeInnermost
        fun closed innermost outer division => ⟨_, named closed innermost outer division⟩
    have whole : scopes = scopes ++ [] := (List.append_nil scopes).symm
    refine ⟨start, scopes, leftOpen, fun _ other => other.unique leftOpen, appended, ?_, ?_⟩
    · intro closed innermost outer division
      rw [appended closed (innermost :: outer) division]
      exact named closed innermost outer division
    · rw [appended scopes [] whole]
      exact completes scopes [] whole
  · rintro kept dropped rfl accepts position token member
    exact (mem_locate_iff_not_accepts_append usual kept).mp
      ⟨position, token, member⟩ dropped accepts

end Dialect
end MarkupDirectives
