import MarkupDirectives.Proofs.Directive.Extent
import MarkupDirectives.Proofs.Locator.Contract
import MarkupDirectives.Proofs.Text.Slice
import MarkupDirectives.Proofs.Text.Trimming

namespace MarkupDirectives

open Text Cursor Character Polling

/-!
# Locating and splitting agree

`Dialect.split` knows nothing of classes of characters or of scopes: it looks for
the first assignment token.  If such a token does not begin with an identifier
character, then this is the one that the locator has read.
-/

namespace Dialect

variable {dialect : Dialect}

/-! ## Splitting a text whose parts are known -/

/-- No assignment token begins with a character of a key. -/
def KeepsKeys (dialect : Dialect) : Prop :=
  forall c, dialect.assignment.head? = some c -> isIdentifier c = false

theorem stripMarker?_append {head body : Text} (nonempty : dialect.marker ≠ [])
    (spells : dialect.SpellsMarker head) : dialect.stripMarker? (head ++ body) = some body := by
  rw [stripMarker?, Cursor.start, afterMarker?_append nonempty spells]
  rfl

theorem split_key {head key : Text} (nonempty : dialect.marker ≠ [])
    (spells : dialect.SpellsMarker head)
    (keepsKeys : dialect.KeepsKeys) (identifiers : forall c, c ∈ key -> isIdentifier c = true) :
    dialect.split (head ++ key) = ⟨key, []⟩ := by
  have solid := fun c member => isWhitespace_eq_false_of_isIdentifier (identifiers c member)
  have whole :
      (if dialect.assignment = [] then none else splitOnce? key dialect.assignment) = none := by
    split
    · rfl
    · next assigns =>
        rcases List.exists_cons_of_ne_nil assigns with ⟨t, token, same⟩
        rw [same]
        refine splitOnce?_eq_none_of_not_mem fun member => ?_
        have foreign := keepsKeys t (by rw [same]; rfl)
        rw [identifiers t member] at foreign
        cases foreign
  simp only [split, stripMarker?_append nonempty spells, Option.getD_some, whole,
    trim_eq_self solid]

/-- A text that is a marker, a key, white space, the assignment token, more
white space and a value has that key, and that value without white space at its
end. -/
theorem split_assigned {head key gap inner value : Text} {t : Char} {token : Text}
    (nonempty : dialect.marker ≠ []) (spells : dialect.SpellsMarker head)
    (keepsKeys : dialect.KeepsKeys)
    (assigns : dialect.assignment = t :: token) (tokenSolid : isWhitespace t = false)
    (identifiers : forall c, c ∈ key -> isIdentifier c = true)
    (gapBlank : forall c, c ∈ gap -> isWhitespace c = true)
    (innerBlank : forall c, c ∈ inner -> isWhitespace c = true)
    (valueSolid : forall c, value.head? = some c -> isWhitespace c = false) :
    dialect.split (head ++ (key ++ gap ++ (t :: token ++ (inner ++ value)))) =
      ⟨key, value.rdropWhile isWhitespace⟩ := by
  have foreign := keepsKeys t (by rw [assigns]; rfl)
  have absent : t ∉ key ++ gap := by
    intro member
    rcases List.mem_append.mp member with inKey | inGap
    · rw [identifiers t inKey] at foreign
      cases foreign
    · rw [gapBlank t inGap] at tokenSolid
      cases tokenSolid
  have solid := fun c member => isWhitespace_eq_false_of_isIdentifier (identifiers c member)
  simp only [split, stripMarker?_append nonempty spells, Option.getD_some, assigns, reduceCtorEq,
    if_false, splitOnce?_of_not_mem absent, trim_append_whitespace solid gapBlank,
    trim_whitespace_append innerBlank valueSolid]

/-! ## The value that the scanner has read -/

/-- What the scanner takes for the value of a directive that ends at `stop` and
whose marker has been read: the text from behind the assignment token and the
white space there, up to the end. -/
def scannedValue (dialect : Dialect) (markup : Text) (marked : Cursor) (stop : Nat) : Text :=
  match dialect.afterAssignment? ((marked.skipWhile isIdentifier).skipWhile isWhitespace) with
  | some assigned => Span.text ⟨(assigned.skipWhile isWhitespace).offset, stop⟩ markup
  | none => []

/-- The value that is read is the text from where a value would begin to the end
of the directive. -/
theorem ReadsValue.text_eq {markup value : Text} {assigned stop : Cursor}
    (readsValue : ReadsValue dialect assigned value stop)
    (inText : (assigned.skipWhile isWhitespace).LiesIn markup) :
    Span.text ⟨(assigned.skipWhile isWhitespace).offset, stop.offset⟩ markup = value := by
  rcases readsValue.reads with ⟨rfl, rfl⟩ | reads
  · exact Span.text_eq_nil (reads_skipWhile _ isWhitespace).offset_le
  · exact Span.text_of_reads inText reads

theorem scannedValue_eq {markup value : Text} {marked assigned stop : Cursor}
    (inText : assigned.LiesIn markup)
    (found : dialect.afterAssignment? ((marked.skipWhile isIdentifier).skipWhile isWhitespace) =
      some assigned)
    (readsValue : ReadsValue dialect assigned value stop) :
    dialect.scannedValue markup marked stop.offset = value := by
  simp only [scannedValue, found]
  exact readsValue.text_eq (inText.of_reads (reads_skipWhile assigned isWhitespace))

/-- Either no assignment token follows the key, or the text from there on is the
value that the scanner has read. -/
theorem DirectiveAt.scannedValue_cases {markup : Text} {span : Span} {place marked stop : Cursor}
    (directive : dialect.DirectiveAt markup span place marked stop) :
    (dialect.afterAssignment? ((marked.skipWhile isIdentifier).skipWhile isWhitespace) = none ∧
        stop = marked.skipWhile isIdentifier ∧ dialect.scannedValue markup marked span.stop = []) ∨
      Exists fun assigned : Cursor => Exists fun value : Text =>
        dialect.afterAssignment? ((marked.skipWhile isIdentifier).skipWhile isWhitespace) =
          some assigned ∧
          ReadsValue dialect assigned value stop ∧
          dialect.scannedValue markup marked span.stop = value := by
  rcases directive.exists_text with ⟨head, body, _, _, readsHead, _, _⟩
  rcases scanDirective_eq_ok_cases directive.scans with
    ⟨unassigned, same⟩ | ⟨assigned, value, found, readsValue⟩
  · refine Or.inl ⟨unassigned, same, ?_⟩
    simp only [scannedValue, unassigned]
  · have assignedRead :=
      ((reads_skipWhile marked isIdentifier).trans (reads_skipWhile _ isWhitespace)).trans
      (reads_of_afterAssignment? found)
    have inText := directive.inText.of_reads (readsHead.trans assignedRead)
    exact Or.inr
      ⟨assigned, value, found, readsValue,
      directive.stops ▸ scannedValue_eq inText found readsValue⟩

/-- The assignment token that the scanner finds does not begin with white
space, since all white space in front of it has been skipped. -/
theorem exists_token_of_afterAssignment? {cursor assigned : Cursor}
    (found : dialect.afterAssignment? (cursor.skipWhile isWhitespace) = some assigned) :
    Exists fun t : Char => Exists fun token : Text =>
      dialect.assignment = t :: token ∧ isWhitespace t = false := by
  have reads := reads_of_afterAssignment? found
  have assigns : dialect.assignment ≠ [] := by
    intro none
    rw [afterAssignment?, if_pos none] at found
    cases found
  rcases List.exists_cons_of_ne_nil assigns with ⟨t, token, same⟩
  refine ⟨t, token, same, ?_⟩
  have kept := List.head?_dropWhile_not isWhitespace cursor.rest
  have ahead : cursor.rest.dropWhile isWhitespace = dialect.assignment ++ assigned.rest :=
    reads.ahead
  rw [ahead, same] at kept
  simpa using kept

/-! ## The agreement -/

/-- The key and the value that `split` takes from the text of a directive are
the run of identifier characters behind its marker and the value that the
scanner has read there. -/
theorem DirectiveAt.split_eq {markup : Text} {span : Span} {place marked stop : Cursor}
    (directive : dialect.DirectiveAt markup span place marked stop)
    (keepsKeys : dialect.KeepsKeys) :
    dialect.split (span.text markup) =
      ⟨marked.rest.takeWhile isIdentifier,
        (dialect.scannedValue markup marked span.stop).rdropWhile isWhitespace⟩ := by
  rcases directive.exists_text with ⟨head, body, nonempty, spells, _, readsBody, text⟩
  have keyRead := reads_skipWhile marked isIdentifier
  have identifiers : forall c, c ∈ marked.rest.takeWhile isIdentifier -> isIdentifier c = true :=
    fun _ => List.mem_takeWhile_imp
  rw [text]
  rcases directive.scannedValue_cases with
    ⟨_, rfl, none⟩ | ⟨assigned, value, found, readsValue, same⟩
  · rw [readsBody.passed_unique keyRead, split_key nonempty spells keepsKeys identifiers, none]
    rfl
  · rcases exists_token_of_afterAssignment? found with ⟨t, token, assigns, tokenSolid⟩
    rcases readsValue.exists_gap with ⟨inner, readsInner, innerBlank⟩
    have assignedRead :=
      (keyRead.trans (reads_skipWhile _ isWhitespace)).trans (reads_of_afterAssignment? found)
    rw [same, readsBody.passed_unique (assignedRead.trans readsInner), assigns,
      List.append_assoc (_ ++ _)]
    exact split_assigned nonempty spells keepsKeys assigns tokenSolid identifiers
      (fun _ => List.mem_takeWhile_imp) innerBlank fun _ => readsValue.head_solid

/-- Behind the marker of a located span, `split` finds the same key as the scanner,
and the same value up to white space at its end.  There is none to trim unless a
closing token ends in white space, and a directive that ends at its assignment
token has the empty value. -/
theorem split_agrees_with_locate (dialect : Dialect) (markup : Text) (span : Span)
    (keepsKeys : dialect.KeepsKeys) (located : .ok span ∈ dialect.locate markup) :
    Exists fun place : Cursor => Exists fun marked : Cursor =>
      place.LiesIn markup ∧ place.offset = span.start ∧ dialect.afterMarker? place = some marked ∧
      (dialect.split (span.text markup)).key = marked.rest.takeWhile isIdentifier ∧
      (dialect.split (span.text markup)).value =
        (dialect.scannedValue markup marked span.stop).rdropWhile isWhitespace ∧
      ((forall delimiter, delimiter ∈ dialect.delimiters ->
          forall c, delimiter.closing.getLast? = some c -> isWhitespace c = false) ->
        (dialect.split (span.text markup)).value = dialect.scannedValue markup marked span.stop) ∧
      (forall assigned,
        dialect.afterAssignment? ((marked.skipWhile isIdentifier).skipWhile isWhitespace) =
          some assigned ->
        assigned.offset = span.stop -> (dialect.split (span.text markup)).value = []) := by
  rcases dialect.exists_located markup with ⟨spans, failure, search, items, _⟩
  rw [items, mem_outcome_iff] at located
  rcases search.directiveAt_of_mem (liesIn_start markup) located with
    ⟨_, place, marked, stop, directive⟩
  have parts := directive.split_eq keepsKeys
  refine ⟨place, marked, directive.inText, directive.starts, directive.marks,
    congrArg Directive.key parts, congrArg Directive.value parts, ?_, ?_⟩
  · intro closingSolid
    rw [congrArg Directive.value parts]
    refine rdropWhile_eq_self fun c last => ?_
    rcases directive.scannedValue_cases with ⟨_, _, none⟩ | ⟨_, _, _, readsValue, same⟩
    · rw [none] at last
      cases last
    · rw [same] at last
      exact readsValue.getLast_solid closingSolid last
  · intro assigned found ends
    rw [congrArg Directive.value parts]
    rcases directive.scannedValue_cases with
      ⟨unassigned, _, _⟩ | ⟨_, value, alsoFound, readsValue, same⟩
    · rw [unassigned] at found
      cases found
    · rw [alsoFound] at found
      cases found
      rw [same, readsValue.eq_nil_of_offset_eq (ends.trans directive.stops.symm)]
      rfl

/-- The marker is in capitals and stands behind a character of two bytes, white
space lies around the assignment token, and the value contains another one. -/
theorem split_agrees_spread :
    ((standard.withAssignment [':', '=']).withIgnoreCase true).KeepsKeys ∧
    .ok ⟨3, 21⟩ ∈ ((standard.withAssignment [':', '=']).withIgnoreCase true).locate
      ['é', ' ', 'B', 'L', 'A', 'T', 'E', 'X', ':', 'k', ' ', ':', '=', ' ', ' ', '(', 'a', ':',
       '=', ')', ' '] ∧
    Exists fun place : Cursor => Exists fun marked : Cursor =>
      place.offset = 3 ∧
      ((standard.withAssignment [':', '=']).withIgnoreCase true).afterMarker? place = some marked ∧
      ['k'] = marked.rest.takeWhile isIdentifier ∧
      ['(', 'a', ':', '=', ')'] =
        (((standard.withAssignment [':', '=']).withIgnoreCase true).scannedValue
        ['é', ' ', 'B', 'L', 'A', 'T', 'E', 'X', ':', 'k', ' ', ':', '=', ' ', ' ', '(', 'a', ':',
         '=', ')', ' ']
        marked 21).rdropWhile isWhitespace := by
  have keepsKeys : ((standard.withAssignment [':', '=']).withIgnoreCase true).KeepsKeys := by
    intro c same
    cases same
    decide
  have located : .ok ⟨3, 21⟩ ∈ ((standard.withAssignment [':', '=']).withIgnoreCase true).locate
      ['é', ' ', 'B', 'L', 'A', 'T', 'E', 'X', ':', 'k', ' ', ':', '=', ' ', ' ', '(', 'a', ':',
       '=', ')', ' '] := by
    decide +kernel
  rcases split_agrees_with_locate _ _ _ keepsKeys located with
    ⟨place, marked, _, starts, marks, key, value, _⟩
  exact ⟨keepsKeys, located, place, marked, starts, marks, key, value⟩

end Dialect
end MarkupDirectives
