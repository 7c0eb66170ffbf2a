import Mathlib.Data.List.Pairwise
import MarkupDirectives.Proofs.Fragment.Lookup
import MarkupDirectives.Proofs.Settings.Validity

namespace MarkupDirectives

/-!
# Keys are the same to validation and to registries

Validation and registries both go by the lowercase forms of keys.  So of valid
settings no template is lost, whereas one would be lost of templates that are
refused on this account.
-/

namespace Template

/-- Every template is registered, and nothing else. -/
structure AllRegistered (dialect : Dialect) (templates : Std.TreeMap Text Text) : Prop where
  /-- There are as many keys as templates. -/
  size : (registry dialect templates.toList).size = templates.size
  /-- A key that agrees with a template's key in lowercase is served by that
  template. -/
  served : forall key template other : Text,
    templates[key]? = some template -> other.lowercase = key.lowercase ->
    (registry dialect templates.toList).get? other = some (factory dialect template)
  /-- Any other key is not served. -/
  unserved : forall other : Text,
    (forall key, key ∈ templates -> key.lowercase ≠ other.lowercase) ->
    (registry dialect templates.toList).get? other = none
  /-- Registered in another order, the templates serve the same keys. -/
  reordered : forall entries : List (Text × Text),
    entries.Perm templates.toList -> forall other : Text,
    (registry dialect entries).get? other = (registry dialect templates.toList).get? other

/-- Two templates have one place in a registry, whatever the order in which they
are registered, so that not all templates have a place. -/
structure SharePlace (dialect : Dialect) (templates : Std.TreeMap Text Text) (key other : Text) :
    Prop where
  present : key ∈ templates
  alsoPresent : other ∈ templates
  different : key ≠ other
  same : key.lowercase = other.lowercase
  shared : forall entries : List (Text × Text), entries.Perm templates.toList ->
    (registry dialect entries).get? key = (registry dialect entries).get? other
  lost : forall entries : List (Text × Text), entries.Perm templates.toList ->
    (registry dialect entries).size < templates.size

variable {templates : Std.TreeMap Text Text} {key other : Text}

theorem allRegistered_of_distinct (dialect : Dialect)
    (distinct : templates.toList.Pairwise fun first second =>
      first.1.lowercase ≠ second.1.lowercase) :
    AllRegistered dialect templates := by
  have distinctEntries :
      (templates.toList.map fun entry => (entry.1, factory dialect entry.2)).Pairwise
        fun first second => first.1.lowercase ≠ second.1.lowercase := List.pairwise_map.mpr distinct
  refine ⟨?_, ?_, ?_, ?_⟩
  · rw [registry, Registry.size_ofList_eq_length_iff.mpr distinctEntries, List.length_map,
      Std.TreeMap.length_toList]
  · intro key template other present same
    rw [Registry.get?_congr _ same]
    exact get?_registry_of_mem dialect distinct
      (Std.TreeMap.mem_toList_iff_getElem?_eq_some.mpr present)
  · intro other apart
    rw [registry, Registry.get?_ofList_eq_none_iff, List.forall_mem_map]
    rintro ⟨key, template⟩ member
    apply apart key
    rw [← Std.TreeMap.mem_keys, ← Std.TreeMap.map_fst_toList_eq_keys]
    exact List.mem_map_of_mem member
  · intro entries reordered other
    exact Registry.get?_ofList_of_perm distinctEntries (reordered.map _) other

/-- Of entries in which two keys have the same lowercase form not all are
registered. -/
theorem size_registry_lt_length (dialect : Dialect) {entries : List (Text × Text)}
    {first second : Text × Text}
    (member : first ∈ entries) (alsoMember : second ∈ entries) (different : first ≠ second)
    (same : first.1.lowercase = second.1.lowercase) :
    (registry dialect entries).size < entries.length := by
  rw [← List.length_map fun entry : Text × Text => (entry.1, factory dialect entry.2)]
  apply Nat.lt_of_le_of_ne (Registry.size_ofList_le _)
  intro full
  have distinct := List.pairwise_map.mp (Registry.size_ofList_eq_length_iff.mp full)
  have symmetric :
      Std.Symm fun first second : Text × Text => first.1.lowercase ≠ second.1.lowercase :=
    ⟨fun _ _ => Ne.symm⟩
  exact distinct.forall member alsoMember different same

theorem sharePlace_of_same (dialect : Dialect) (present : key ∈ templates)
    (alsoPresent : other ∈ templates)
    (different : key ≠ other) (same : key.lowercase = other.lowercase) :
    SharePlace dialect templates key other := by
  refine ⟨present, alsoPresent, different, same, fun _ _ => Registry.get?_congr _ same, ?_⟩
  intro entries reordered
  have member :
      forall (key : Text) (present : key ∈ templates), (key, templates[key]) ∈ entries := by
    intro key present
    have stored := Std.TreeMap.getElem?_eq_some_getElem present
    exact reordered.mem_iff.mpr (Std.TreeMap.mem_toList_iff_getElem?_eq_some.mpr stored)
  rw [← Std.TreeMap.length_toList, ← reordered.length_eq]
  exact size_registry_lt_length dialect (member key present) (member other alsoPresent)
    (fun equal => different (Prod.mk.inj equal).1) same

end Template

namespace Settings

/-- The keys of the templates are apart as they are written. -/
theorem nodup_keys (settings : Settings) : settings.templates.keys.Nodup :=
  Registry.nodup_keys settings.templates

/-- All templates of valid settings are registered.  Where validation names two keys,
these are keys of two templates that share a place in the registry. -/
theorem validation_agrees_with_registry (settings : Settings) (dialect : Dialect) :
    (settings.fault? = none -> Template.AllRegistered dialect settings.templates) ∧
    forall fault, keyFault? [] settings.templates.keys = some fault ->
      ((forall key, key ∈ settings.templates -> Usable key) ->
        Exists fun key : Text => Exists fun other : Text => fault = .sameKey key other) ∧
      forall key other, fault = .sameKey key other ->
        Template.SharePlace dialect settings.templates key other := by
  constructor
  · intro valid
    exact Template.allRegistered_of_distinct dialect (distinct_of_fault?_eq_none valid)
  · intro fault refused
    rcases cases_of_keyFault?_eq_some refused with
      ⟨key, listed, unusable, rfl⟩ | ⟨before, key, after, other, keys, seen, same, rfl⟩
    · constructor
      · intro usable
        exact absurd (usable key (Std.TreeMap.mem_keys.mp listed)) unusable
      · nofun
    · refine ⟨fun _ => ⟨key, other, rfl⟩, ?_⟩
      rintro _ _ ⟨⟩
      have earlier : other ∈ before := seen.resolve_right List.not_mem_nil
      have apart := settings.nodup_keys
      rw [keys] at apart
      have present : key ∈ settings.templates.keys :=
        keys ▸ List.mem_append_right _ List.mem_cons_self
      have alsoPresent : other ∈ settings.templates.keys := keys ▸ List.mem_append_left _ earlier
      have different : key ≠ other :=
        fun equal =>
          (List.nodup_append.mp apart).2.2 other earlier key List.mem_cons_self equal.symm
      exact Template.sharePlace_of_same dialect (Std.TreeMap.mem_keys.mp present)
        (Std.TreeMap.mem_keys.mp alsoPresent)
        different same.symm

/-- The keys need not be in ASCII, and a small sigma is also the form of the
capital one at the end of a word. -/
example : keyFault? [] ["Ας".toList, "ΑΣ".toList] = some (.sameKey "ΑΣ".toList "Ας".toList) := by
  decide +kernel

end Settings
end MarkupDirectives
