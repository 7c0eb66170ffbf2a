import Mathlib.Data.List.Find
import MarkupDirectives.Proofs.Locator.Search
import MarkupDirectives.Proofs.Scope.Reading

namespace MarkupDirectives

open Text Cursor Polling

/-!
# Ignoring the case of the marker

A dialect that ignores case might as well lower the capitals of the marker and of
the whole text first.  The equations say of one function after the other that
lowering the text ahead first, and lowering what remains afterwards, comes to the
same.
-/

/-! ## Lowered characters -/

namespace Character

/-- What holds of every character that is its own lowered form, and of the
capitals from `A` to `Z`, holds of all characters. -/
theorem toLower_induction {motive : Char -> Char -> Prop} (same : forall c, motive c c)
    (capital : forall code,
      code ∈ List.range' 65 26 -> motive (Char.ofNat code) (Char.ofNat code).toLower) (c : Char) :
    motive c c.toLower := by
  by_cases range : c.val ≥ 'A'.val ∧ c.val ≤ 'Z'.val
  · have code : c.toNat ∈ List.range' 65 26 := by
      rw [List.mem_range'_1]
      exact ⟨range.1, Nat.lt_succ_of_le range.2⟩
    have holds := capital c.toNat code
    rwa [Char.ofNat_toNat] at holds
  · have unchanged : c.toLower = c := dif_neg range
    rw [unchanged]
    exact same c

theorem utf8Size_toLower (c : Char) : c.toLower.utf8Size = c.utf8Size :=
  toLower_induction (motive := fun c lowered => lowered.utf8Size = c.utf8Size) (fun _ => rfl)
    (by decide) c

theorem isWhitespace_toLower (c : Char) : isWhitespace c.toLower = isWhitespace c :=
  toLower_induction (motive := fun c lowered => isWhitespace lowered = isWhitespace c)
    (fun _ => rfl) (by decide) c

theorem isIdentifier_toLower (c : Char) : isIdentifier c.toLower = isIdentifier c :=
  toLower_induction (motive := fun c lowered => isIdentifier lowered = isIdentifier c)
    (fun _ => rfl) (by decide) c

/-- A character that is no letter is the lowered form of itself only. -/
theorem toLower_eq_iff {c d : Char} (letterless : d.isAlpha = false) : c.toLower = d ↔ c = d := by
  refine toLower_induction (motive := fun c lowered => lowered = d ↔ c = d) (fun _ => Iff.rfl) ?_ c
  intro code member
  have letters : forall code, code ∈ List.range' 65 26 ->
      (Char.ofNat code).isAlpha = true ∧ (Char.ofNat code).toLower.isAlpha = true := by decide
  constructor
  · rintro rfl
    rw [(letters code member).2] at letterless
    cases letterless
  · rintro rfl
    rw [(letters code member).1] at letterless
    cases letterless

end Character

/-! ## Lowered texts -/

namespace Text

/-- The text with its capitals lowered. -/
def lowerAscii (text : Text) : Text := text.map Char.toLower

@[simp] theorem width_lowerAscii (text : Text) : width text.lowerAscii = width text := by
  induction text with
  | nil => rfl
  | cons c text inductionHypothesis =>
      rw [width_cons, ← inductionHypothesis, ← Character.utf8Size_toLower c]
      rfl

/-- The text has no letters of ASCII. -/
def Letterless (text : Text) : Prop := forall c, c ∈ text -> c.isAlpha = false

instance (text : Text) : Decidable text.Letterless :=
  decidable_of_iff ((text.all fun c => !c.isAlpha) = true) (by simp [Letterless])

/-- A token without letters stands in front of the lowered text exactly if it
stands in front of the text. -/
theorem after?_of_letterless {text token : Text} (letterless : token.Letterless) :
    text.lowerAscii.after? token = (text.after? token).map lowerAscii := by
  induction token generalizing text with
  | nil => cases text <;> rfl
  | cons t token inductionHypothesis =>
      have rest : Letterless token := fun c member => letterless c (List.mem_cons_of_mem t member)
      cases text with
      | nil => rfl
      | cons c text =>
          have first : c.toLower = t ↔ c = t :=
            Character.toLower_eq_iff (letterless t List.mem_cons_self)
          change after? (c.toLower :: lowerAscii text) (t :: token) = _
          by_cases same : c = t
          · rw [after?, after?, if_pos (first.mpr same), if_pos same]
            exact inductionHypothesis rest
          · rw [after?, after?, if_neg (mt first.mp same), if_neg same]
            rfl

end Text

/-- The same place in the lowered text. -/
def Cursor.lowerAscii (cursor : Cursor) : Cursor := ⟨cursor.offset, cursor.rest.lowerAscii⟩

/-- The dialect that compares exactly with the lowered marker. -/
def Dialect.lowerAscii (dialect : Dialect) : Dialect :=
  (dialect.withMarker dialect.marker.lowerAscii).withIgnoreCase false

/-- Apart from the marker, no token of the dialect has letters. -/
structure Dialect.Caseless (dialect : Dialect) : Prop where
  assignment : dialect.assignment.Letterless
  opening : forall delimiter, delimiter ∈ dialect.delimiters -> delimiter.opening.Letterless
  closing : forall delimiter, delimiter ∈ dialect.delimiters -> delimiter.closing.Letterless

/-! ## Tokens and runs -/

namespace Cursor

theorem after?_lowerAscii {token : Text} (letterless : token.Letterless) (cursor : Cursor) :
    cursor.lowerAscii.after? token = (cursor.after? token).map lowerAscii := by
  unfold after?
  rw [lowerAscii, after?_of_letterless letterless, Option.map_map, Option.map_map]
  rfl

theorem after?_lowerAscii_eq_none {token : Text} (letterless : token.Letterless) {cursor : Cursor}
    (absent : cursor.after? token = none) : cursor.lowerAscii.after? token = none := by
  rw [after?_lowerAscii letterless, absent]
  rfl

theorem skipWhile_lowerAscii {accept : Char -> Bool} (same : forall c, accept c.toLower = accept c)
    (cursor : Cursor) :
    cursor.lowerAscii.skipWhile accept = (cursor.skipWhile accept).lowerAscii := by
  have unchanged : accept ∘ Char.toLower = accept := funext same
  unfold skipWhile lowerAscii Text.lowerAscii
  rw [List.takeWhile_map, List.dropWhile_map, unchanged]
  exact congrArg (fun passed => Cursor.mk (cursor.offset + passed) _) (width_lowerAscii _)

end Cursor

namespace Dialect

variable {dialect : Dialect}

theorem afterMarker?_lowerAscii (ignores : dialect.ignoreCase = true) (cursor : Cursor) :
    dialect.lowerAscii.afterMarker? cursor.lowerAscii =
      (dialect.afterMarker? cursor).map Cursor.lowerAscii := by
  have length : dialect.lowerAscii.marker.length = dialect.marker.length := List.length_map _
  have head : cursor.lowerAscii.rest.take dialect.marker.length =
      Text.lowerAscii (cursor.rest.take dialect.marker.length) := List.map_take.symm
  have rest : cursor.lowerAscii.rest.drop dialect.marker.length =
      Text.lowerAscii (cursor.rest.drop dialect.marker.length) := List.map_drop.symm
  have starts : (dialect.lowerAscii.marker ≠ [] ∧
        dialect.lowerAscii.isMarker (Text.lowerAscii (cursor.rest.take dialect.marker.length)) =
          true) ↔
      (dialect.marker ≠ [] ∧ dialect.isMarker (cursor.rest.take dialect.marker.length) = true) := by
    refine and_congr (not_congr List.map_eq_nil_iff) ?_
    rw [isMarker_eq_true_iff, isMarker_eq_true_iff, SpellsMarker, SpellsMarker, if_pos ignores]
    rfl
  simp only [afterMarker?, length, head, rest, width_lowerAscii, starts]
  rw [apply_ite (Option.map Cursor.lowerAscii)]
  rfl

/-! ## The marker in either mode -/

/-- The first of these offsets is that of the text, and the others those of its
later characters. -/
def characterOffsets (offset : Nat) : Text -> List Nat
  | [] => []
  | c :: rest => offset :: characterOffsets (offset + c.utf8Size) rest

/-- The slice at the offset that is as wide as the marker is a marker.  There is
no such slice if it would end inside a character. -/
def isMarkerAt (dialect : Dialect) (markup : Text) (offset : Nat) : Bool :=
  (markup.slice? offset (offset + width dialect.marker)).any dialect.isMarker

/-- A marker is as wide in any case. -/
theorem SpellsMarker.width_eq {head : Text} (spells : dialect.SpellsMarker head) :
    width head = width dialect.marker := by
  rw [SpellsMarker] at spells
  split at spells
  · have lowered : head.lowerAscii = dialect.marker.lowerAscii := spells
    rw [← width_lowerAscii head, lowered, width_lowerAscii]
  · rw [spells]

/-- So it is found by a slice of one width. -/
theorem isMarkerAt_eq_true_iff (nonempty : dialect.marker ≠ []) {markup : Text} {offset : Nat} :
    dialect.isMarkerAt markup offset = true ↔ dialect.MarkerAt markup offset := by
  simp only [isMarkerAt, Option.any_eq_true, isMarker_eq_true_iff, slice?_eq_some_iff]
  constructor
  · rintro ⟨head, ⟨before, after, whole, begins, _⟩, spells⟩
    exact ⟨nonempty, head, spells, before, after, by rw [whole, List.append_assoc], begins⟩
  · rintro ⟨_, head, spells, before, after, whole, begins⟩
    refine ⟨head, ⟨before, after, by rw [whole, List.append_assoc], begins, ?_⟩, spells⟩
    rw [spells.width_eq]

/-- The next marker is at the first character ahead where a slice is one. -/
theorem findMarker?_eq_find?_slices (nonempty : dialect.marker ≠ []) {markup : Text}
    {cursor : Cursor} (inText : cursor.LiesIn markup) :
    (dialect.findMarker? cursor.offset cursor.rest).map Prod.fst =
      (characterOffsets cursor.offset cursor.rest).find? (dialect.isMarkerAt markup) := by
  rcases cursor with ⟨offset, rest⟩
  induction rest generalizing offset with
  | nil => rfl
  | cons c rest inductionHypothesis =>
      have further :=
        inductionHypothesis (offset + c.utf8Size) (inText.of_reads (reads_cons offset c rest))
      have marked : dialect.isMarkerAt markup offset = true ↔
          Exists fun next : Cursor => dialect.afterMarker? ⟨offset, c :: rest⟩ = some next :=
        (isMarkerAt_eq_true_iff nonempty).trans (markerAt_iff inText)
      rw [findMarker?, characterOffsets]
      cases follows : dialect.afterMarker? ⟨offset, c :: rest⟩ with
      | some next =>
          rw [List.find?_cons_of_pos (marked.mpr ⟨next, follows⟩)]
          rfl
      | none =>
          have unmarked : ¬ dialect.isMarkerAt markup offset = true := by
            rw [marked, follows]
            rintro ⟨next, absent⟩
            cases absent
          rw [List.find?_cons_of_neg unmarked]
          exact further

/-- If case counts, the marker is a token like any other. -/
theorem afterMarker?_eq_after? (exact : dialect.ignoreCase = false)
    (nonempty : dialect.marker ≠ []) (cursor : Cursor) :
    dialect.afterMarker? cursor = cursor.after? dialect.marker := by
  apply Option.ext
  intro next
  have spells : forall head : Text, dialect.SpellsMarker head ↔ head = dialect.marker := by
    intro head
    rw [SpellsMarker, exact, if_neg Bool.false_ne_true]
  rw [afterMarker?_eq_some_iff, and_iff_right nonempty, Cursor.after?_eq_some_iff]
  simp only [spells, exists_eq_left]
  exact ⟨fun reads => ⟨reads.ahead, reads.offset⟩, fun cut => ⟨cut.1, cut.2⟩⟩

/-- Then the next marker is where the token first occurs ahead. -/
theorem findMarker?_eq_splitOnce? (exact : dialect.ignoreCase = false)
    (nonempty : dialect.marker ≠ []) (offset : Nat) (rest : Text) :
    (dialect.findMarker? offset rest).map Prod.fst =
      (rest.splitOnce? dialect.marker).map fun parts => offset + width parts.1 := by
  induction rest generalizing offset with
  | nil =>
      cases marker : dialect.marker with
      | nil => exact absurd marker nonempty
      | cons c marker => rfl
  | cons c rest inductionHypothesis =>
      rw [findMarker?, afterMarker?_eq_after? exact nonempty, Cursor.after?, splitOnce?]
      cases after? (c :: rest) dialect.marker with
      | some behind => rfl
      | none =>
          rw [Option.map_none, inductionHypothesis, Option.map_map]
          simp only [Function.comp_def, width_cons, Nat.add_assoc]

variable (caseless : dialect.Caseless)
include caseless

theorem afterAssignment?_lowerAscii (cursor : Cursor) :
    dialect.lowerAscii.afterAssignment? cursor.lowerAscii =
      (dialect.afterAssignment? cursor).map Cursor.lowerAscii := by
  unfold afterAssignment?
  split
  · next none => exact (if_pos none).symm ▸ rfl
  · next assigns =>
      rw [if_neg (show dialect.assignment ≠ [] from assigns)]
      exact Cursor.after?_lowerAscii caseless.assignment cursor

theorem opening?_lowerAscii (cursor : Cursor) :
    dialect.lowerAscii.opening? cursor.lowerAscii =
      (dialect.opening? cursor).map fun found => (found.1, found.2.lowerAscii) := by
  have letterless := caseless.opening
  change dialect.delimiters.findSome? _ = (dialect.delimiters.findSome? _).map _
  generalize dialect.delimiters = delimiters at letterless ⊢
  induction delimiters with
  | nil => rfl
  | cons delimiter delimiters inductionHypothesis =>
      have rest :=
        inductionHypothesis fun other member =>
          letterless other (List.mem_cons_of_mem delimiter member)
      rw [List.findSome?_cons, List.findSome?_cons,
        cursor.after?_lowerAscii (letterless delimiter List.mem_cons_self)]
      cases cursor.after? delimiter.opening with
      | some inside => rfl
      | none => exact rest

theorem closing?_lowerAscii (cursor : Cursor) :
    dialect.lowerAscii.closing? cursor.lowerAscii = dialect.closing? cursor := by
  have sameDelimiters : dialect.lowerAscii.delimiters = dialect.delimiters := rfl
  unfold closing?
  rw [sameDelimiters]
  refine List.find?_congr ?_
  intro token listed
  rcases List.mem_map.mp listed with ⟨delimiter, member, rfl⟩
  rw [Bool.eq_iff_iff, List.isPrefixOf_iff_prefix, List.isPrefixOf_iff_prefix, ← not_iff_not,
    ← Cursor.after?_eq_none_iff, ← Cursor.after?_eq_none_iff,
    cursor.after?_lowerAscii (caseless.closing delimiter member), Option.map_eq_none_iff]

/-! ## Scans -/

theorem closeScopes_lowerAscii {scopes : List Delimiter} (cursor : Cursor)
    (letterless : forall scope, scope ∈ scopes -> scope.closing.Letterless) :
    dialect.lowerAscii.closeScopes scopes cursor.lowerAscii =
      (dialect.closeScopes scopes cursor).map Cursor.lowerAscii := by
  have opening : forall cursor : Cursor, dialect.lowerAscii.opening? cursor.lowerAscii = _ :=
    opening?_lowerAscii caseless
  have closing : forall cursor : Cursor, dialect.lowerAscii.closing? cursor.lowerAscii = _ :=
    closing?_lowerAscii caseless
  fun_induction dialect.closeScopes scopes cursor with
  | case1 cursor => exact closeScopes_nil
  | case2 innermost outer cursor next closes inductionHypothesis =>
      have awaited := Cursor.after?_lowerAscii (letterless innermost List.mem_cons_self) cursor
      rw [closes] at awaited
      rw [closeScopes_close (reads_of_after? awaited)]
      exact inductionHypothesis fun scope member => letterless scope (List.mem_cons_of_mem _ member)
  | case3 innermost outer cursor waits delimiter inside opens inductionHypothesis =>
      have awaited :=
        Cursor.after?_lowerAscii_eq_none (letterless innermost List.mem_cons_self) waits
      rw [closeScopes_nest awaited ((opening cursor).trans (congrArg _ opens))]
      exact inductionHypothesis
        (List.forall_mem_cons.mpr
          ⟨caseless.closing delimiter (opening?_eq_some opens).1, letterless⟩)
  | case4 innermost outer cursor waits unopened token stray =>
      have awaited :=
        Cursor.after?_lowerAscii_eq_none (letterless innermost List.mem_cons_self) waits
      exact closeScopes_stray awaited ((opening cursor).trans (congrArg _ unopened))
        ((closing cursor).trans stray)
  | case5 innermost outer cursor _ _ _ ended =>
      exact closeScopes_of_end (congrArg Text.lowerAscii ended)
  | case6 innermost outer cursor waits unopened unclosed c rest ahead inductionHypothesis =>
      have awaited :=
        Cursor.after?_lowerAscii_eq_none (letterless innermost List.mem_cons_self) waits
      have first :
          cursor.lowerAscii.Reads [c.toLower]
            (Cursor.lowerAscii ⟨cursor.offset + c.utf8Size, rest⟩) := by
        refine ⟨congrArg Text.lowerAscii ahead, ?_⟩
        rw [width_cons, Character.utf8Size_toLower]
        rfl
      rw [closeScopes_plain awaited ((opening cursor).trans (congrArg _ unopened))
        ((closing cursor).trans unclosed) first]
      exact inductionHypothesis letterless

theorem scanValue_lowerAscii (assigned : Cursor) :
    dialect.lowerAscii.scanValue assigned.lowerAscii =
      (dialect.scanValue assigned).map Cursor.lowerAscii := by
  simp only [scanValue, Cursor.skipWhile_lowerAscii Character.isWhitespace_toLower,
    opening?_lowerAscii caseless, closing?_lowerAscii caseless,
    Cursor.skipWhile_lowerAscii Character.isIdentifier_toLower]
  generalize assigned.skipWhile Character.isWhitespace = value
  cases opens : dialect.opening? value with
  | some opened =>
      exact closeScopes_lowerAscii caseless opened.2
        (List.forall_mem_singleton.mpr (caseless.closing opened.1 (opening?_eq_some opens).1))
  | none =>
      cases dialect.closing? value with
      | some token => rfl
      | none =>
          have begins : value.lowerAscii.rest.head?.any Character.isIdentifier =
              value.rest.head?.any Character.isIdentifier := by
            change (value.rest.map Char.toLower).head?.any Character.isIdentifier = _
            cases value.rest with
            | nil => rfl
            | cons c rest => exact Character.isIdentifier_toLower c
          simp only [Option.map_none, begins]
          split <;> rfl

theorem scanDirective_lowerAscii (marked : Cursor) :
    dialect.lowerAscii.scanDirective marked.lowerAscii =
      (dialect.scanDirective marked).map Cursor.lowerAscii := by
  simp only [scanDirective, Cursor.skipWhile_lowerAscii Character.isIdentifier_toLower,
    Cursor.skipWhile_lowerAscii Character.isWhitespace_toLower,
    afterAssignment?_lowerAscii caseless]
  cases dialect.afterAssignment?
      ((marked.skipWhile Character.isIdentifier).skipWhile Character.isWhitespace) with
  | some assigned => exact scanValue_lowerAscii caseless assigned
  | none => rfl

/-! ## Searches -/

omit caseless in
theorem findMarker?_lowerAscii (ignores : dialect.ignoreCase = true) (offset : Nat) (rest : Text) :
    dialect.lowerAscii.findMarker? offset rest.lowerAscii =
      (dialect.findMarker? offset rest).map fun found => (found.1, found.2.lowerAscii) := by
  induction rest generalizing offset with
  | nil => rfl
  | cons c rest inductionHypothesis =>
      have marker :
          dialect.lowerAscii.afterMarker? ⟨offset, c.toLower :: Text.lowerAscii rest⟩ = _ :=
        afterMarker?_lowerAscii ignores ⟨offset, c :: rest⟩
      change dialect.lowerAscii.findMarker? offset (c.toLower :: Text.lowerAscii rest) = _
      rw [findMarker?, findMarker?, marker, Character.utf8Size_toLower, inductionHypothesis]
      cases dialect.afterMarker? ⟨offset, c :: rest⟩ <;> rfl

/-- The search in the lowered text takes the same steps. -/
theorem Search.lowerAscii (ignores : dialect.ignoreCase = true) {cursor : Cursor}
    {spans : List Span}
    {failure : Option SyntaxError} (search : dialect.Search cursor spans failure) :
    dialect.lowerAscii.Search cursor.lowerAscii spans failure := by
  have lowered : forall cursor : Cursor,
      dialect.lowerAscii.findMarker? cursor.lowerAscii.offset cursor.lowerAscii.rest =
        (dialect.findMarker? cursor.offset cursor.rest).map fun found =>
          (found.1, found.2.lowerAscii) :=
    fun cursor => findMarker?_lowerAscii ignores cursor.offset cursor.rest
  induction search with
  | @ended cursor absent =>
      refine .ended ?_
      rw [lowered, absent]
      rfl
  | @malformed cursor marked start error found failed =>
      have alsoFound := lowered cursor
      rw [found] at alsoFound
      refine .malformed alsoFound ?_
      rw [scanDirective_lowerAscii caseless, failed]
      rfl
  | @located cursor marked stop start spans failure found scanned _ inductionHypothesis =>
      have alsoFound : _ = some (start, marked.lowerAscii) := found ▸ lowered cursor
      have alsoScanned : _ = Except.ok stop.lowerAscii :=
        scanned ▸ scanDirective_lowerAscii caseless marked
      have goesOn :
          dialect.lowerAscii.Search cursor.lowerAscii
            (⟨start, stop.lowerAscii.offset⟩ :: spans) failure :=
        .located alsoFound alsoScanned inductionHypothesis
      exact goesOn

/-- If no other token has letters, the items are those of the lowered text in the
dialect that compares exactly with the lowered marker. -/
theorem locate_eq_locate_lowerAscii (ignores : dialect.ignoreCase = true) (markup : Text) :
    dialect.locate markup = dialect.lowerAscii.locate markup.lowerAscii := by
  rcases dialect.exists_search (Cursor.start markup) with ⟨spans, failure, search⟩
  have items : dialect.locate markup = outcome spans failure := Locator.items_of_search search
  have loweredItems : dialect.lowerAscii.locate markup.lowerAscii = outcome spans failure :=
    Locator.items_of_search (search.lowerAscii caseless ignores)
  rw [items, loweredItems]

omit caseless in
/-- The marker itself is written in mixed case, one of the two markers in
capitals behind a character of two bytes, and the second value is malformed. -/
theorem locate_eq_locate_lowerAscii_mixed :
    (((standard.withMarker "TeX:".toList).withIgnoreCase true).Caseless ∧
      ((standard.withMarker "TeX:".toList).withIgnoreCase true).ignoreCase = true) ∧
    ((standard.withMarker "TeX:".toList).withIgnoreCase true).locate
        "É tEx:K=@(X) TEX:Y=\x7bÜ)".toList =
      (standard.withMarker "tex:".toList).locate "É tex:k=@(x) tex:y=\x7bÜ)".toList := by
  have caseless : ((standard.withMarker "TeX:".toList).withIgnoreCase true).Caseless :=
    ⟨by decide, by decide, by decide⟩
  exact ⟨⟨caseless, rfl⟩,
    locate_eq_locate_lowerAscii caseless rfl "É tEx:K=@(X) TEX:Y=\x7bÜ)".toList⟩

end Dialect
end MarkupDirectives
