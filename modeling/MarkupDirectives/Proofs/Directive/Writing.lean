import MarkupDirectives.Proofs.Directive.Agreement
import MarkupDirectives.Proofs.Locator.Locality
import MarkupDirectives.Proofs.Scope.Standard

namespace MarkupDirectives

open Text Cursor Character

/-!
# Directives that are written down

A `Writing` is all that has to be chosen to write a directive with a delimited
value in the standard dialect.  All of it is read again from the text.
-/

/-- A directive with a delimited value that can be written down. -/
structure Writing where
  key : Text
  gap : Text
  margin : Text
  delimiter : Delimiter
  content : Text
  identifiers : forall c, c ∈ key -> isIdentifier c = true
  gapBlank : forall c, c ∈ gap -> isWhitespace c = true
  marginBlank : forall c, c ∈ margin -> isWhitespace c = true
  listed : delimiter ∈ Dialect.standard.delimiters
  written : Content delimiter.closing content

namespace Writing

open Dialect

/-- The value with its delimiters. -/
def value (writing : Writing) : Text :=
  writing.delimiter.opening ++ (writing.content ++ writing.delimiter.closing)

/-- What is written behind the marker. -/
def body (writing : Writing) : Text :=
  writing.key ++ writing.gap ++ (standard.assignment ++ (writing.margin ++ writing.value))

def text (writing : Writing) : Text := standard.marker ++ writing.body

variable (writing : Writing)

/-- No token of a delimiter contains white space. -/
theorem token_solid : (forall c, c ∈ writing.delimiter.opening -> isWhitespace c = false) ∧
    forall c, c ∈ writing.delimiter.closing -> isWhitespace c = false := by
  have solid : forall delimiter, delimiter ∈ standard.delimiters ->
      (delimiter.opening ++ delimiter.closing).any isWhitespace = false := by decide
  have none := List.any_eq_false.mp (solid writing.delimiter writing.listed)
  constructor
  · intro c member
    exact Bool.eq_false_iff.mpr (none c (List.mem_append_left _ member))
  · intro c member
    exact Bool.eq_false_iff.mpr (none c (List.mem_append_right _ member))

/-- The white space in front of the value ends where the value begins. -/
theorem head?_value_append (rest : Text) {c : Char}
    (first : (writing.value ++ rest).head? = some c) :
    isWhitespace c = false := by
  rcases List.exists_cons_of_ne_nil writing.delimiter.opening_ne_nil with ⟨t, token, same⟩
  apply writing.token_solid.1 c
  rw [value, same] at first
  cases first
  rw [same]
  exact List.mem_cons_self

/-- The key ends where white space or the assignment token follows. -/
theorem head?_gap_append {c : Char} {rest : Text}
    (first : (writing.gap ++ '=' :: rest).head? = some c) :
    isIdentifier c = false := by
  cases blank : writing.gap with
  | nil =>
      rw [blank] at first
      cases first
      decide
  | cons d gap =>
      rw [blank] at first
      cases first
      have member : c ∈ writing.gap := blank ▸ List.mem_cons_self
      exact isIdentifier_eq_false_of_isWhitespace (writing.gapBlank c member)

/-! ## Reading what is written -/

/-- The scanner ends behind the directive. -/
theorem scanDirective_body {marked stop : Cursor} (reads : marked.Reads writing.body stop) :
    standard.scanDirective marked = .ok stop := by
  rcases reads.exists_between with ⟨behindGap, front, back⟩
  rcases front.exists_between with ⟨behindKey, keyRead, gapRead⟩
  rcases back.exists_between with ⟨assigned, tokenRead, further⟩
  rcases further.exists_between with ⟨place, marginRead, valueRead⟩
  rcases valueRead.exists_between with ⟨inside, opens, closes⟩
  have gapEnd : behindGap.rest = '=' :: assigned.rest := tokenRead.ahead
  have keySkipped : marked.skipWhile isIdentifier = behindKey := by
    refine skipWhile_eq_of_reads keyRead writing.identifiers ?_
    intro c first
    rw [gapRead.ahead, gapEnd] at first
    exact writing.head?_gap_append first
  have gapSkipped : behindKey.skipWhile isWhitespace = behindGap := by
    refine skipWhile_eq_of_reads gapRead writing.gapBlank ?_
    intro c first
    rw [gapEnd] at first
    cases first
    decide
  have marginSkipped : assigned.skipWhile isWhitespace = place := by
    refine skipWhile_eq_of_reads marginRead writing.marginBlank ?_
    intro c first
    rw [valueRead.ahead] at first
    exact writing.head?_value_append _ first
  have assigns : standard.afterAssignment? behindGap = some assigned := by
    rw [afterAssignment?, if_neg (by decide)]
    exact after?_eq_some_iff.mpr ⟨tokenRead.ahead, tokenRead.offset⟩
  rw [scanDirective, keySkipped, gapSkipped]
  simp only [assigns, scanValue, marginSkipped, opening?_of_reads rfl writing.listed opens]
  rw [closeScopes_of_content rfl writing.listed writing.written closes, closeScopes_nil]

/-- The written directive is split into its key and its value. -/
theorem split_text : standard.split writing.text = ⟨writing.key, writing.value⟩ := by
  have keepsKeys : standard.KeepsKeys := by
    intro c first
    cases first
    decide
  have parts :=
    split_assigned (show standard.marker ≠ [] by decide) standard.spellsMarker_marker keepsKeys rfl
    (by decide) writing.identifiers writing.gapBlank writing.marginBlank
    (fun c first => writing.head?_value_append [] (by rwa [List.append_nil]))
  rw [rdropWhile_eq_self] at parts
  · exact parts
  · intro c last
    have closing := List.getLast?_eq_some_getLast writing.delimiter.closing_ne_nil
    rw [value, ← List.append_assoc, List.getLast?_append, closing, Option.some_or] at last
    exact writing.token_solid.2 c (List.mem_of_getLast? (closing.trans last))

/-- Without its delimiters the value is what is written between them. -/
theorem stripDelimiters_value : standard.stripDelimiters writing.value = writing.content := by
  have whole : (Cursor.start writing.value).Reads writing.value ⟨0 + width writing.value, []⟩ :=
    ⟨(List.append_nil _).symm, rfl⟩
  rcases whole.exists_between with ⟨inside, opens, closes⟩
  have ahead : inside.rest = writing.content ++ writing.delimiter.closing := by
    rw [closes.ahead, List.append_nil]
  have closed :
      standard.closeScopes [writing.delimiter] inside = .ok ⟨0 + width writing.value, []⟩ := by
    rw [closeScopes_of_content rfl writing.listed writing.written closes, closeScopes_nil]
  simp only [stripDelimiters, opening?_of_reads rfl writing.listed opens, closed, if_true]
  rw [ahead, List.length_append, Nat.add_sub_cancel, List.take_left]

end Writing

/-! ## The first marker of a text -/

namespace Dialect

/-- The first character of the marker does not recur in it.  So no marker that
begins in a text ends in another marker behind that text. -/
theorem afterMarker?_append_standard {before : Text} (nonempty : before ≠ [])
    (unmarked : ¬ standard.marker <:+: before) (offset : Nat) (rest : Text) :
    standard.afterMarker? ⟨offset, before ++ (standard.marker ++ rest)⟩ = none := by
  cases found : standard.afterMarker? ⟨offset, before ++ (standard.marker ++ rest)⟩ with
  | none => rfl
  | some marked =>
      rcases afterMarker?_eq_some_iff.mp found with ⟨_, head, spells, reads⟩
      have same : head = standard.marker := spells
      have whole : before ++ (standard.marker ++ rest) = standard.marker ++ marked.rest :=
        same ▸ reads.ahead
      rcases List.append_eq_append_iff.mp whole with ⟨beyond, marker, ahead⟩ | ⟨left, marker, _⟩
      · cases beyond with
        | nil => exact absurd ⟨[], [], by rw [marker]; simp⟩ unmarked
        | cons m beyond =>
            rcases List.cons.inj ahead with ⟨first, _⟩
            rcases List.exists_cons_of_ne_nil nonempty with ⟨c, before, rfl⟩
            have recurs : 'b' ∈ standard.marker.tail := by
              rw [marker, first]
              exact List.mem_append_right before List.mem_cons_self
            exact absurd recurs (by decide)
      · exact absurd ⟨[], left, marker.symm⟩ unmarked

/-- The marker behind a text without one is the first. -/
theorem findMarker?_append_standard {before : Text} (unmarked : ¬ standard.marker <:+: before)
    (offset : Nat) (rest : Text) :
    standard.findMarker? offset (before ++ (standard.marker ++ rest)) =
      some (offset + width before, ⟨offset + width before + width standard.marker, rest⟩) := by
  induction before generalizing offset with
  | nil =>
      have nonempty : standard.marker ≠ [] := by decide
      exact findMarker?_of_afterMarker?
        (afterMarker?_append nonempty standard.spellsMarker_marker offset rest)
  | cons c before inductionHypothesis =>
      have none := afterMarker?_append_standard (List.cons_ne_nil c before) unmarked offset rest
      have alsoUnmarked : ¬ standard.marker <:+: before :=
        fun occurs => unmarked (occurs.trans (List.suffix_cons c before).isInfix)
      rw [List.cons_append] at none ⊢
      rw [findMarker?, none, width_cons, ← Nat.add_assoc]
      exact inductionHypothesis alsoUnmarked (offset + c.utf8Size)

end Dialect

/-! ## Locating what is written -/

namespace Writing

open Dialect

/-- A directive that is written behind a text without a marker, and in front of
any text, is the first that is located.  It is split into the key and the value
that were written, and without its delimiters the value is the content. -/
theorem reads_back (writing : Writing) (before after : Text)
    (unmarked : ¬ standard.marker <:+: before) :
    (standard.locate (before ++ writing.text ++ after)).head? =
        some (.ok ⟨width before, width (before ++ writing.text)⟩) ∧
      Span.text ⟨width before, width (before ++ writing.text)⟩ (before ++ writing.text ++ after) =
        writing.text ∧
      standard.split writing.text = ⟨writing.key, writing.value⟩ ∧
      standard.stripDelimiters writing.value = writing.content := by
  have split := writing.split_text
  have stripped := writing.stripDelimiters_value
  have whole :
      before ++ writing.text ++ after = before ++ (standard.marker ++ (writing.body ++ after)) := by
    simp only [text, List.append_assoc]
  have reads :
      (⟨0 + width before + width standard.marker, writing.body ++ after⟩ : Cursor).Reads
        writing.body ⟨width (before ++ writing.text), after⟩ := by
    refine ⟨rfl, ?_⟩
    simp only [text, width_append]
    omega
  have found := findMarker?_append_standard unmarked 0 (writing.body ++ after)
  rw [← whole] at found
  have scanned := writing.scanDirective_body reads
  have taken : Locator.next (Locator.start standard (before ++ writing.text ++ after)) = _ :=
    Locator.next_of_located found scanned
  have first : (standard.locate (before ++ writing.text ++ after)).head? =
      some (.ok ⟨0 + width before, width (before ++ writing.text)⟩) := by
    rw [locate, Locator.items_of_next_some (congrArg Prod.fst taken)]
    rfl
  rw [Nat.zero_add] at first
  have covered :
      (before ++ writing.text ++ after).slice? (width before) (width (before ++ writing.text)) =
      some writing.text :=
    slice?_eq_some_iff.mpr ⟨before, after, rfl, rfl, width_append before writing.text⟩
  refine ⟨first, ?_, split, stripped⟩
  rw [Span.text, covered]
  rfl

theorem content_nested : Content [')'] ['\x7b', '@', '(', '\'', '=', '\'', ')', '\x7d', 'ß'] := by
  have quotation : Content [')'] ['\'', '=', '\''] :=
    @Content.nest _ _ _ ⟨['\''], ['\''], by decide, by decide⟩ (by decide) (by decide)
      (.plain (by decide) (.empty _)) (.empty _)
  have parentheses : Content ['\x7d'] ['(', '\'', '=', '\'', ')'] :=
    @Content.nest _ _ _ ⟨['('], [')'], by decide, by decide⟩ (by decide) (by decide) quotation
      (.empty _)
  exact @Content.nest _ _ _ ⟨['\x7b'], ['\x7d'], by decide, by decide⟩ (by decide) (by decide)
    (.plain (by decide) parentheses) (.plain (by decide) (.empty _))

/-- One scope is inside another, an `@` is written in front of a scope in
parentheses, and a quotation contains an assignment token. -/
def sample : Writing where
  key := ['k', '-', 'é']
  gap := [' ']
  margin := ['\n', '\t']
  delimiter := Dialect.standard.delimiters[4]
  content := ['\x7b', '@', '(', '\'', '=', '\'', ')', '\x7d', 'ß']
  identifiers := List.all_eq_true.mp rfl
  gapBlank := List.all_eq_true.mp rfl
  marginBlank := List.all_eq_true.mp rfl
  listed := List.getElem_mem _
  written := content_nested

/-- A part of a marker stands in front of the directive, and a closing token and
another marker behind it. -/
theorem reads_back_sample :
    ¬ standard.marker <:+: ['ä', 'b', 'l', 'a'] ∧
      (standard.locate (['ä', 'b', 'l', 'a'] ++ sample.text ++ ')' :: standard.marker)).head? =
        some (.ok ⟨5, 33⟩) ∧
      standard.split sample.text =
        ⟨['k', '-', 'é'], ['@', '(', '\x7b', '@', '(', '\'', '=', '\'', ')', '\x7d', 'ß', ')']⟩ ∧
      standard.stripDelimiters
        ['@', '(', '\x7b', '@', '(', '\'', '=', '\'', ')', '\x7d', 'ß', ')'] =
        ['\x7b', '@', '(', '\'', '=', '\'', ')', '\x7d', 'ß'] := by
  have unmarked : ¬ standard.marker <:+: ['ä', 'b', 'l', 'a'] := by decide
  have back := reads_back sample ['ä', 'b', 'l', 'a'] (')' :: standard.marker) unmarked
  exact ⟨unmarked, back.1, back.2.2⟩

end Writing

end MarkupDirectives
