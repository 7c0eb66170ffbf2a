import Mathlib.Data.List.Nodup
import MarkupDirectives.Proofs.Settings.Keys
import MarkupDirectives.Proofs.Settings.Reachability

namespace MarkupDirectives

open Text Cursor Character Polling

/-!
# Well-formed settings

Validation stops at the first fault and remembers the keys that it has seen.  What
it accepts is a condition on each token, on each key, and on each two keys.
-/

namespace Dialect

variable {dialect : Dialect} {key : Text} {pairs : List (Text × Text)}

/-- Where directives have no values, a marker and the text behind it are one
directive exactly if that text consists of letters, digits, underscores and
hyphens. -/
theorem locate_marker_append_iff (nonempty : dialect.marker ≠ [])
    (valueless : dialect.assignment = []) :
    dialect.locate (dialect.marker ++ key) = outcome [⟨0, width (dialect.marker ++ key)⟩] none ↔
      forall c, c ∈ key -> isIdentifier c = true := by
  constructor
  · intro located
    have marks := afterMarker?_append nonempty dialect.spellsMarker_marker 0 key
    generalize total : (⟨0, width (dialect.marker ++ key)⟩ : Span) = span at located
    cases search_of_locate located with
    | located found scanned _ =>
        cases found.symm.trans (findMarker?_of_afterMarker? marks)
        rw [scanDirective, afterAssignment?, if_pos valueless] at scanned
        cases scanned
        -- The directive ends with its key, so nothing is left behind the run of identifier
        -- characters.
        have parts :
            width key = width (key.takeWhile isIdentifier) +
              width (key.dropWhile isIdentifier) := by
          rw [← width_append, List.takeWhile_append_dropWhile]
        have ends : width (dialect.marker ++ key) =
            0 + width dialect.marker + width (key.takeWhile isIdentifier) :=
          congrArg Span.stop total
        have nothing : key.dropWhile isIdentifier = [] := by
          rw [width_append] at ends
          exact width_eq_zero_iff.mp (by omega)
        exact List.dropWhile_eq_nil_iff.mp nothing
  · exact locate_marker_append nonempty

/-- The tokens of the delimiters, in order of priority. -/
def tokens (dialect : Dialect) : List (Text × Text) :=
  dialect.delimiters.map fun delimiter => (delimiter.opening, delimiter.closing)

/-- The pairs without those that have an empty token. -/
def usable (pairs : List (Text × Text)) : List (Text × Text) :=
  pairs.filter fun pair => pair.1 ≠ [] ∧ pair.2 ≠ []

/-- A pair is left out exactly if it has an empty token. -/
theorem tokens_withDelimiters_eq_usable (dialect : Dialect) (pairs : List (Text × Text)) :
    (dialect.withDelimiters pairs).tokens = usable pairs := by
  unfold usable
  induction pairs with
  | nil => rfl
  | cons pair pairs inductionHypothesis =>
      simp only [tokens, withDelimiters] at inductionHypothesis ⊢
      by_cases nonempty : pair.1 ≠ [] ∧ pair.2 ≠ []
      · have kept : Delimiter.of? pair.1 pair.2 = some ⟨pair.1, pair.2, nonempty.1, nonempty.2⟩ :=
          dif_pos nonempty
        rw [List.filterMap_cons, kept, List.map_cons, inductionHypothesis, List.filter_cons,
          if_pos (decide_eq_true nonempty)]
      · have leftOut : Delimiter.of? pair.1 pair.2 = none := dif_neg nonempty
        rw [List.filterMap_cons, leftOut, inductionHypothesis, List.filter_cons,
          if_neg (mt of_decide_eq_true nonempty)]

/-- No pair is left out if none has an empty token. -/
theorem tokens_withDelimiters (nonempty : forall pair, pair ∈ pairs -> pair.1 ≠ [] ∧ pair.2 ≠ []) :
    (dialect.withDelimiters pairs).tokens = pairs := by
  rw [tokens_withDelimiters_eq_usable, usable, List.filter_eq_self]
  exact fun pair member => decide_eq_true (nonempty pair member)

end Dialect

namespace Settings

/-- What is demanded of settings, in whatever order it is examined. -/
structure WellFormed (settings : Settings) : Prop where
  marker : settings.directive.marker ≠ []
  markerSolid : forall c, settings.directive.marker.head? = some c -> isWhitespace c = false
  assignment : settings.directive.assignment ≠ []
  /-- A list of delimiters, if there is one, has some, and none with an empty
  token. -/
  delimiters : forall pairs, settings.delimiters = some pairs ->
    pairs ≠ [] ∧ forall pair, pair ∈ pairs -> pair.1 ≠ [] ∧ pair.2 ≠ []
  /-- Every key consists of letters, digits, underscores and hyphens, of at least
  one. -/
  keys : forall key, key ∈ settings.templates ->
    key ≠ [] ∧ forall c, c ∈ key -> isAlphanumeric c = true ∨ c = '_' ∨ c = '-'
  distinct : forall key, key ∈ settings.templates -> forall other, other ∈ settings.templates ->
    key.lowercase = other.lowercase -> key = other

/-- A dialect has everything that the settings say of it. -/
structure Describes (settings : Settings) (dialect : Dialect) : Prop where
  marker : dialect.marker = settings.directive.marker
  assignment : dialect.assignment = settings.directive.assignment
  ignoreCase : dialect.ignoreCase = settings.directive.ignoreCase
  /-- No pair of delimiters is missing, and none is in another place. -/
  listed : forall pairs, settings.delimiters = some pairs -> dialect.tokens = pairs
  unlisted : settings.delimiters = none -> dialect.delimiters = Dialect.standard.delimiters

variable {settings : Settings}

theorem keyFault?_templates_eq_none_iff :
    keyFault? [] settings.templates.keys = none ↔
      (forall key, key ∈ settings.templates -> Usable key) ∧
        forall key, key ∈ settings.templates -> forall other, other ∈ settings.templates ->
          key.lowercase = other.lowercase -> key = other := by
  have distinct :
      (settings.templates.keys.Pairwise fun first second => first.lowercase ≠ second.lowercase) ↔
        _ :=
    List.pairwise_map.symm.trans (List.nodup_map_iff_inj_on settings.nodup_keys)
  simp only [keyFault?_eq_none_iff, distinct, Std.TreeMap.mem_keys, List.not_mem_nil, false_implies,
    implies_true, true_and]

/-- The first fault is looked for in an order, but that there is none is a matter
of each part by itself. -/
theorem fault?_eq_none_iff_wellFormed : settings.fault? = none ↔ settings.WellFormed := by
  rw [fault?_eq_none_iff, DirectiveSettings.fault?_eq_none_iff, keyFault?_templates_eq_none_iff]
  simp only [Usable, isIdentifier_eq_true_iff, Option.any_eq_false]
  constructor
  · rintro ⟨⟨marker, assignment, solid⟩, delimiters, keys, distinct⟩
    exact ⟨marker, solid, assignment, delimiters, keys, distinct⟩
  · rintro ⟨marker, solid, assignment, delimiters, keys, distinct⟩
    exact ⟨⟨marker, assignment, solid⟩, delimiters, keys, distinct⟩

theorem WellFormed.describes_dialect (wellFormed : settings.WellFormed) :
    settings.Describes settings.dialect where
  marker := rfl
  assignment := rfl
  ignoreCase := rfl
  listed := by
    intro pairs given
    have kept := Dialect.standard.tokens_withDelimiters (wellFormed.delimiters pairs given).2
    rw [← kept, dialect, given]
    rfl
  unlisted := by
    intro absent
    rw [dialect, absent]
    rfl

/-- Validation finds no fault exactly in well-formed settings, and then the dialect
has what they say, no more and no less.  Their keys consist of the characters that
the locator reads as a key; where a value may follow, it would be read as well, so
this is said of dialects without an assignment token. -/
theorem validation_accepts_wellFormed (settings : Settings) :
    (settings.fault? = none ↔ settings.WellFormed) ∧
    (forall dialect : Dialect, dialect.marker ≠ [] -> forall key : Text,
      (forall c, c ∈ key -> isAlphanumeric c = true ∨ c = '_' ∨ c = '-') ↔
        (dialect.withAssignment []).locate (dialect.marker ++ key) =
          [.ok ⟨0, width (dialect.marker ++ key)⟩]) ∧
    (settings.fault? = none -> settings.Describes settings.dialect) := by
  refine ⟨fault?_eq_none_iff_wellFormed, ?_, ?_⟩
  · intro dialect nonempty key
    have located : (dialect.withAssignment []).locate (dialect.marker ++ key) =
        [.ok ⟨0, width (dialect.marker ++ key)⟩] ↔ forall c, c ∈ key -> isIdentifier c = true :=
      Dialect.locate_marker_append_iff nonempty rfl
    simp only [located, isIdentifier_eq_true_iff]
  · intro valid
    exact (fault?_eq_none_iff_wellFormed.mp valid).describes_dialect

end Settings
end MarkupDirectives
