import MarkupDirectives.Proofs.Directive.Agreement
import MarkupDirectives.Proofs.Fragment.Lookup
import MarkupDirectives.Proofs.Text.Lowering
import MarkupDirectives.Render.Segment

namespace MarkupDirectives

open Text Cursor

/-!
# Registration of one factory after another

A registry keeps the lowercase form of each key, and for each form the factory
that came last.  Keys that differ only in the case of letters of ASCII have one
form.
-/

namespace Text

/-- The order of texts is by the first code points in which they differ. -/
theorem compare_eq_lt_iff {text other : Text} : compare text other = .lt ↔ text < other := by
  rw [List.compare_eq_compareLex]
  induction text generalizing other with
  | nil =>
      cases other with
      | nil => exact iff_of_false (by decide) (List.not_lt_nil [])
      | cons d other => exact iff_of_true rfl (List.nil_lt_cons d other)
  | cons c text inductionHypothesis =>
      cases other with
      | nil => exact iff_of_false (by nofun) (List.not_lt_nil _)
      | cons d other =>
          have first : compare c d = .lt ↔ c < d := compareOfLessAndEq_eq_lt
          rw [List.compareLex_cons_cons, Ordering.then_eq_lt, first,
            Std.LawfulEqCmp.compare_eq_iff_eq, inductionHypothesis, List.cons_lt_cons_iff]

end Text

namespace Registry

variable {F : Type}

/-- What a registry says after the entries were registered from the first to
the last. -/
structure FilledWith (registry : Registry F) (entries : List (Text × Factory F)) : Prop where
  /-- A key is served by the last entry whose key has the same lowercase form. -/
  served : forall before key factory after, entries = before ++ (key, factory) :: after ->
    forall other : Text, key.lowercase = other.lowercase ->
      (forall entry, entry ∈ after -> entry.1.lowercase ≠ other.lowercase) ->
        registry.get? other = some factory
  /-- A key is not served if it has the lowercase form of no entry's key. -/
  unserved : forall other : Text,
    (forall entry, entry ∈ entries -> entry.1.lowercase ≠ other.lowercase) ->
    registry.get? other = none
  contains : forall other : Text,
    registry.contains other = true ↔ Exists fun factory => registry.get? other = some factory
  /-- The lowercase forms of the entries' keys are listed, and nothing else. -/
  listed : forall form : Text, form ∈ registry.keys ↔
    Exists fun entry => entry ∈ entries ∧ entry.1.lowercase = form
  listedOnce : registry.keys.Nodup
  size : registry.size = registry.keys.length
  isEmpty : registry.isEmpty = true ↔ entries = []
  /-- A message names the same keys in ascending order. -/
  described : Exists fun forms : List Text => forms.Perm registry.keys ∧ forms.Pairwise (· < ·) ∧
    registry.description =
      "FragmentRegistry \x7b keys: [" ++ String.intercalate ", " (forms.map quoted) ++ "] \x7d"

theorem mem_keys_insert {registry : Registry F} {key form : Text} {factory : Factory F} :
    form ∈ (registry.insert key factory).keys ↔ key.lowercase = form ∨ form ∈ registry.keys := by
  simp only [keys, insert, Std.TreeMap.mem_keys, Std.TreeMap.mem_insert,
    Std.LawfulEqCmp.compare_eq_iff_eq]

theorem mem_keys_ofList {entries : List (Text × Factory F)} {form : Text} :
    form ∈ (ofList entries).keys ↔
      Exists fun entry => entry ∈ entries ∧ entry.1.lowercase = form := by
  induction entries using List.reverseRecOn with
  | nil => exact iff_of_false (by simp [ofList, keys, empty]) nofun
  | append_singleton entries entry inductionHypothesis =>
      rw [ofList_append_singleton, mem_keys_insert, inductionHypothesis]
      simp only [List.mem_append, List.mem_singleton, or_and_right, exists_or, exists_eq_left]
      exact or_comm

theorem isEmpty_ofList_iff {entries : List (Text × Factory F)} :
    (ofList entries).isEmpty = true ↔ entries = [] := by
  rcases List.eq_nil_or_concat' entries with rfl | ⟨earlier, last, rfl⟩
  · exact iff_of_true rfl rfl
  · have filled : (ofList (earlier ++ [last])).isEmpty = false := by
      rw [ofList_append_singleton]
      exact Std.TreeMap.isEmpty_insert
    exact iff_of_false (by simp [filled]) (List.concat_ne_nil last earlier)

theorem pairwise_keys (registry : Registry F) : registry.keys.Pairwise (· < ·) :=
  Std.TreeMap.ordered_keys.imp fun ascending => compare_eq_lt_iff.mp ascending

theorem filledWith_ofList (entries : List (Text × Factory F)) :
    (ofList entries).FilledWith entries where
  served := by
    rintro before key factory after rfl other same last
    rw [← get?_congr _ same]
    exact get?_ofList_append_cons fun entry later => same ▸ last entry later
  unserved := fun _ => get?_ofList_eq_none_iff.mpr
  contains := fun other => by rw [contains_eq_isSome_get?, Option.isSome_iff_exists]
  listed := fun _ => mem_keys_ofList
  listedOnce := nodup_keys (ofList entries).factories
  size := Std.TreeMap.length_keys.symm
  isEmpty := isEmpty_ofList_iff
  described := ⟨_, List.Perm.refl _, pairwise_keys _, rfl⟩

/-- Keys that differ only in the case of letters of ASCII are one key to a
registry. -/
theorem get?_eq_of_lowerAscii_eq (registry : Registry F) {key other : Text}
    (same : key.lowerAscii = other.lowerAscii) :
    registry.get? key = registry.get? other :=
  get?_congr registry (lowercase_eq_of_lowerAscii_eq same)

end Registry

namespace Dialect

variable {dialect : Dialect} {key rest : Text}

/-- Behind the marker a directive is divided by the first equals sign, whatever
stands before it. -/
theorem split_marker_append_equals (nonempty : dialect.marker ≠ [])
    (assigns : dialect.assignment = ['='])
    (absent : '=' ∉ key) (ends : rest = [] ∨ rest.head? = some '=') :
    dialect.split (dialect.marker ++ (key ++ rest)) = ⟨key.trim, trim (rest.drop 1)⟩ := by
  have stripped : dialect.stripMarker? (dialect.marker ++ (key ++ rest)) = some (key ++ rest) :=
    stripMarker?_append nonempty dialect.spellsMarker_marker
  simp only [split, stripped, Option.getD_some, assigns, reduceCtorEq, if_false]
  rcases ends with rfl | begins
  · rw [List.append_nil, splitOnce?_eq_none_of_not_mem absent]
    rfl
  · rcases List.head?_eq_some_iff.mp begins with ⟨value, rfl⟩
    have found : splitOnce? (key ++ ('=' :: [] ++ value)) ['='] = some (key, value) :=
      splitOnce?_of_not_mem absent
    rw [List.singleton_append] at found
    rw [found]
    rfl

end Dialect

namespace Renderer

variable {F : Type}

/-- Directives whose keys differ only in the case of letters of ASCII have the
same fragment. -/
theorem substitute_eq_ok_iff_of_lowerAscii_eq {renderer : Renderer F} {key other rest : Text}
    {fragment : F}
    (nonempty : renderer.dialect.marker ≠ []) (assigns : renderer.dialect.assignment = ['='])
    (absent : '=' ∉ key) (alsoAbsent : '=' ∉ other) (same : key.lowerAscii = other.lowerAscii)
    (ends : rest = [] ∨ rest.head? = some '=') :
    renderer.substitute (renderer.dialect.marker ++ (key ++ rest)) = .ok fragment ↔
      renderer.substitute (renderer.dialect.marker ++ (other ++ rest)) = .ok fragment := by
  have trimmed : key.trim.lowerAscii = other.trim.lowerAscii := by
    rw [← trim_lowerAscii, same, trim_lowerAscii]
  have served := renderer.registry.get?_eq_of_lowerAscii_eq trimmed
  simp only [substitute, Dialect.split_marker_append_equals nonempty assigns absent ends,
    Dialect.split_marker_append_equals nonempty assigns alsoAbsent ends, served]
  cases renderer.registry.get? other.trim with
  | some factory => exact Iff.rfl
  | none => exact iff_of_false nofun nofun

end Renderer

namespace Registry

variable {F : Type}

/-- Of the entries with one lowercase form the last one counts, and the forms are
listed once each.  In a dialect with the standard assignment token and a marker,
two directives that differ only in the case of letters of ASCII in front of that
token have the same fragment, or neither has any. -/
theorem last_entry_counts (entries : List (Text × Factory F)) :
    (ofList entries).FilledWith entries ∧
    (forall key other : Text, key.lowerAscii = other.lowerAscii ->
      (ofList entries).get? key = (ofList entries).get? other) ∧
    forall dialect : Dialect, dialect.marker ≠ [] ->
      dialect.assignment = Dialect.standard.assignment ->
      forall key other rest : Text, '=' ∉ key -> '=' ∉ other -> key.lowerAscii = other.lowerAscii ->
        (rest = [] ∨ rest.head? = some '=') -> forall fragment,
          (Renderer.mk dialect (ofList entries)).substitute (dialect.marker ++ (key ++ rest)) =
            .ok fragment ↔
            (Renderer.mk dialect (ofList entries)).substitute (dialect.marker ++ (other ++ rest)) =
              .ok fragment := by
  refine ⟨filledWith_ofList entries, fun _ _ => (ofList entries).get?_eq_of_lowerAscii_eq, ?_⟩
  intro dialect nonempty assigns key other rest absent alsoAbsent same ends fragment
  exact Renderer.substitute_eq_ok_iff_of_lowerAscii_eq nonempty assigns absent alsoAbsent same ends

end Registry
end MarkupDirectives
