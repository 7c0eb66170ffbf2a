import MarkupDirectives.Proofs.Directive.Agreement
import MarkupDirectives.Proofs.Fragment.Lookup
import MarkupDirectives.Proofs.Locator.Locality
import MarkupDirectives.Proofs.Render.Rewriting
import MarkupDirectives.Proofs.Settings.Validity
import MarkupDirectives.Settings.Basic

namespace MarkupDirectives

open Text Cursor Character Polling

/-!
# Templates that can be reached

A valid key may contain the assignment token, and a directive is split by the
first such token.  Then the directive names the part of the key in front of it.
-/

namespace Dialect

variable {dialect : Dialect} {key : Text}

/-- A marker and identifier characters are one directive. -/
theorem locate_marker_append (nonempty : dialect.marker ≠ [])
    (identifiers : forall c, c ∈ key -> isIdentifier c = true) :
    dialect.locate (dialect.marker ++ key) = outcome [⟨0, width (dialect.marker ++ key)⟩] none := by
  have marks :
      dialect.afterMarker? (Cursor.start (dialect.marker ++ key)) =
        some ⟨width dialect.marker, key⟩ := by
    rw [Cursor.start, afterMarker?_append nonempty dialect.spellsMarker_marker, Nat.zero_add]
  have run : (⟨width dialect.marker, key⟩ : Cursor).skipWhile isIdentifier =
      ⟨width (dialect.marker ++ key), []⟩ := by
    rw [skipWhile, List.takeWhile_eq_self_iff.mpr identifiers,
      List.dropWhile_eq_nil_iff.mpr identifiers, width_append]
  have scanned :
      dialect.scanDirective ⟨width dialect.marker, key⟩ =
        .ok ⟨width (dialect.marker ++ key), []⟩ := by
    have unassigned : dialect.afterAssignment?
        ((⟨width (dialect.marker ++ key), []⟩ : Cursor).skipWhile isWhitespace) = none :=
      afterAssignment?_of_end rfl
    simp only [scanDirective, run, unassigned]
  exact Locator.items_of_search (.located (findMarker?_of_afterMarker? marks) scanned (.ended rfl))

/-- Identifier characters behind a marker are the key, up to the first
assignment token in them, and behind that the value. -/
theorem split_marker_append (nonempty : dialect.marker ≠ []) (assigns : dialect.assignment ≠ [])
    (identifiers : forall c, c ∈ key -> isIdentifier c = true) :
    dialect.split (dialect.marker ++ key) =
      match key.splitOnce? dialect.assignment with
      | some (before, after) => ⟨before, after⟩
      | none => ⟨key, []⟩ := by
  have stripped : dialect.stripMarker? (dialect.marker ++ key) = some key :=
    stripMarker?_append nonempty dialect.spellsMarker_marker
  have solid : forall c, c ∈ key -> isWhitespace c = false :=
    fun c member => isWhitespace_eq_false_of_isIdentifier (identifiers c member)
  cases found : key.splitOnce? dialect.assignment with
  | none => simp only [split, stripped, Option.getD_some, if_neg assigns, found, trim_eq_self solid]
  | some parts =>
      rcases parts with ⟨before, after⟩
      have whole : key = before ++ dialect.assignment ++ after := eq_of_splitOnce? found
      have beforeSolid : trim before = before := by
        apply trim_eq_self
        intro c member
        apply solid
        rw [whole, List.append_assoc]
        exact List.mem_append_left _ member
      have afterSolid : trim after = after := by
        apply trim_eq_self
        intro c member
        apply solid
        rw [whole]
        exact List.mem_append_right _ member
      simp only [split, stripped, Option.getD_some, if_neg assigns, found, beforeSolid, afterSolid]

/-- The empty value has no delimiters. -/
theorem stripDelimiters_nil : dialect.stripDelimiters [] = [] := by
  have unopened : dialect.opening? (Cursor.start []) = none := opening?_of_end rfl
  rw [stripDelimiters, unopened]

end Dialect

namespace Settings

/-- In valid settings every template serves its own key. -/
theorem get?_registry {settings : Settings} {key template : Text} (valid : settings.fault? = none)
    (present : settings.templates[key]? = some template) :
    settings.renderer.registry.get? key = some (Template.factory settings.dialect template) :=
  Template.get?_registry_of_mem settings.dialect (distinct_of_fault?_eq_none valid)
    (Std.TreeMap.mem_toList_iff_getElem?_eq_some.mpr present)

/-- A template of valid settings is reached by the marker and its key, and filled with
nothing, if the assignment token does not occur in the key.  Otherwise the
directive has the key in front of that token, and what follows as its value. -/
theorem renderMarkup_key (settings : Settings) {key template : Text}
    (valid : settings.fault? = none) (present : settings.templates[key]? = some template) :
    (¬ settings.directive.assignment <:+: key ->
      settings.renderMarkup (settings.directive.marker ++ key) = .ok (Template.fill template [])) ∧
    (forall before after, key.splitOnce? settings.directive.assignment = some (before, after) ->
      settings.renderMarkup (settings.directive.marker ++ key) =
        match settings.renderer.registry.get? before with
        | some factory => .ok (factory.invoke after)
        | none => .error (.unhandled before)) := by
  rcases parts_of_fault?_eq_none valid with ⟨tokens, keys⟩
  rcases DirectiveSettings.fault?_eq_none_iff.mp tokens with ⟨nonempty, assigns, _⟩
  have member : key ∈ settings.templates.keys := by
    rw [← Std.TreeMap.map_fst_toList_eq_keys]
    exact List.mem_map_of_mem (Std.TreeMap.mem_toList_iff_getElem?_eq_some.mpr present)
  have identifiers := ((keyFault?_eq_none_iff.mp keys).1 key member).2
  have located : settings.renderer.dialect.locate (settings.directive.marker ++ key) =
      outcome [⟨0, width (settings.directive.marker ++ key)⟩] none :=
    Dialect.locate_marker_append nonempty identifiers
  have parts : settings.dialect.split (settings.directive.marker ++ key) = _ :=
    Dialect.split_marker_append nonempty assigns identifiers
  -- The locator gives the whole text as one directive either way; only splitting makes a
  -- difference.
  have rendered : settings.renderMarkup (settings.directive.marker ++ key) =
      settings.renderer.substitute (settings.directive.marker ++ key) := by
    have mapped := Renderer.renderText_of_locate_whole located id
    rwa [Except.map_id] at mapped
  constructor
  · intro absent
    have unsplit : key.splitOnce? settings.dialect.assignment = none :=
      splitOnce?_eq_none_iff.mpr absent
    have sameKey :
        settings.renderer.dialect.split (settings.directive.marker ++ key) = ⟨key, []⟩ := by
      rw [unsplit] at parts
      exact parts
    rw [rendered, Renderer.substitute, sameKey]
    simp only [get?_registry valid present, Template.invoke_factory, Dialect.stripDelimiters_nil]
    rfl
  · intro before after found
    have otherKey :
        settings.renderer.dialect.split (settings.directive.marker ++ key) = ⟨before, after⟩ := by
      have split : key.splitOnce? settings.dialect.assignment = some (before, after) := found
      rw [split] at parts
      exact parts
    rw [rendered, Renderer.substitute, otherKey]
    cases settings.renderer.registry.get? before <;> rfl

/-- A key with a hyphen is reached if the assignment token is another one. -/
theorem renderMarkup_key_hyphen :
    ({ Settings.standard with
        templates := .ofList [(['a', '-', 'b'], "<\x7bvalue\x7d>".toList)] }).fault? = none ∧
    ({ Settings.standard with
        templates := .ofList [(['a', '-', 'b'], "<\x7bvalue\x7d>".toList)] }).renderMarkup
      (DirectiveSettings.standard.marker ++ ['a', '-', 'b']) = .ok ['<', '>'] := by
  have valid : ({ Settings.standard with
      templates := .ofList [(['a', '-', 'b'], "<\x7bvalue\x7d>".toList)] }).fault? = none := by
    decide +kernel
  have present : ({ Settings.standard with
      templates := .ofList [(['a', '-', 'b'], "<\x7bvalue\x7d>".toList)] }).templates[
        ['a', '-', 'b']]? = some "<\x7bvalue\x7d>".toList := by
    decide +kernel
  have filled : Template.fill "<\x7bvalue\x7d>".toList [] = ['<', '>'] := by decide +kernel
  rcases renderMarkup_key _ valid present with ⟨reached, _⟩
  refine ⟨valid, ?_⟩
  rw [← filled]
  exact reached (by decide +kernel)

/-- With a hyphen for the assignment token the same key is not reached, although
these settings are valid too. -/
theorem not_forall_key_reached :
    ¬ forall (settings : Settings) (key template : Text), settings.fault? = none ->
      settings.templates[key]? = some template ->
      settings.renderMarkup (settings.directive.marker ++ key) =
        .ok (Template.fill template []) := by
  intro reached
  have rendered := reached
    { Settings.standard with
      directive := { DirectiveSettings.standard with assignment := ['-'] }
      templates := .ofList [(['a', '-', 'b'], ['T'])] }
    ['a', '-', 'b'] ['T'] (by decide +kernel) (by decide +kernel)
  revert rendered
  decide +kernel

end Settings
end MarkupDirectives
