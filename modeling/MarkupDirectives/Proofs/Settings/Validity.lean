import Mathlib.Data.Option.Basic
import MarkupDirectives.Settings.Validate

namespace MarkupDirectives

open Text

/-!
# What is known of valid settings

Settings without a fault have tokens that are not empty, and keys that a
directive can have and that do not stand in each other's way.
-/

namespace DirectiveSettings

theorem fault?_eq_none_iff {directive : DirectiveSettings} :
    directive.fault? = none ↔
      directive.marker ≠ [] ∧ directive.assignment ≠ [] ∧
        directive.marker.head?.any Character.isWhitespace = false := by
  unfold fault?
  split
  · simp [*]
  · split
    · simp [*]
    · split <;> simp [*]

end DirectiveSettings

namespace Settings

/-- A directive can have this key. -/
def Usable (key : Text) : Prop := key ≠ [] ∧ forall c, c ∈ key -> Character.isIdentifier c = true

/-- Validation admits in a key what the locator reads as a part of one. -/
theorem isKeyCharacter_eq_isIdentifier : isKeyCharacter = Character.isIdentifier := by
  funext c
  exact Bool.or_right_comm _ _ _

theorem not_usable_iff {key : Text} : ¬ Usable key ↔ key = [] ∨ key.all isKeyCharacter = false := by
  rw [← Bool.not_eq_true, List.all_eq_true, isKeyCharacter_eq_isIdentifier, Usable,
    Classical.not_and_iff_not_or_not, ne_eq, Classical.not_not]

theorem keyFault?_eq_none_iff {earlier keys : List Text} :
    keyFault? earlier keys = none ↔
      (forall key, key ∈ keys -> Usable key) ∧
        (forall key, key ∈ keys -> forall other, other ∈ earlier ->
          other.lowercase ≠ key.lowercase) ∧
          keys.Pairwise fun first second => first.lowercase ≠ second.lowercase := by
  induction keys generalizing earlier with
  | nil => simp [keyFault?]
  | cons key keys inductionHypothesis =>
      by_cases unusable : key = [] ∨ key.all isKeyCharacter = false
      · rw [keyFault?, if_pos unusable]
        refine iff_of_false (by simp) ?_
        rintro ⟨allUsable, _⟩
        exact not_usable_iff.mpr unusable (allUsable key List.mem_cons_self)
      · have usable : Usable key :=
          Classical.not_not.mp fun refused => unusable (not_usable_iff.mp refused)
        rw [keyFault?, if_neg unusable]
        cases found : earlier.find? fun other => other.lowercase == key.lowercase with
        | some other =>
            refine iff_of_false (by simp) ?_
            rintro ⟨_, fresh, _⟩
            have same : other.lowercase = key.lowercase := by simpa using List.find?_some found
            exact fresh key List.mem_cons_self other (List.mem_of_find?_eq_some found) same
        | none =>
            have fresh : forall other, other ∈ earlier -> other.lowercase ≠ key.lowercase := by
              intro other member
              simpa using List.find?_eq_none.mp found other member
            simp only [inductionHypothesis, List.forall_mem_cons, List.pairwise_cons]
            constructor
            · rintro ⟨allUsable, apart, distinct⟩
              exact ⟨⟨usable, allUsable⟩, ⟨fresh, fun other member => (apart other member).2⟩,
                fun other member => (apart other member).1, distinct⟩
            · rintro ⟨⟨_, allUsable⟩, ⟨_, apart⟩, first, distinct⟩
              exact ⟨allUsable, fun other member => ⟨first other member, apart other member⟩,
                distinct⟩

/-- Whichever key is at fault, the fault says so: it names a key that no directive
can have, or two keys of which the later has the lowercase form of the
earlier. -/
theorem cases_of_keyFault?_eq_some {earlier keys : List Text} {fault : SettingsFault}
    (refused : keyFault? earlier keys = some fault) :
    (Exists fun key : Text => key ∈ keys ∧ ¬ Usable key ∧ fault = .unusableKey key) ∨
      Exists fun before : List Text => Exists fun key : Text => Exists fun after : List Text =>
        Exists fun other : Text =>
          keys = before ++ key :: after ∧ (other ∈ before ∨ other ∈ earlier) ∧
          other.lowercase = key.lowercase ∧ fault = .sameKey key other := by
  induction keys generalizing earlier with
  | nil => cases refused
  | cons key keys inductionHypothesis =>
      rw [keyFault?] at refused
      split at refused
      · next unusable =>
          cases refused
          exact Or.inl ⟨key, List.mem_cons_self, not_usable_iff.mpr unusable, rfl⟩
      · split at refused
        · next other found =>
            cases refused
            have same : other.lowercase = key.lowercase := by simpa using List.find?_some found
            exact Or.inr
              ⟨[], key, keys, other, rfl, Or.inr (List.mem_of_find?_eq_some found), same, rfl⟩
        · rcases inductionHypothesis refused with
            ⟨other, member, unusable, rfl⟩ | ⟨before, second, after, first, rfl, seen, same, rfl⟩
          · exact Or.inl ⟨other, List.mem_cons_of_mem _ member, unusable, rfl⟩
          · refine Or.inr ⟨key :: before, second, after, first, rfl, ?_, same, rfl⟩
            rcases seen with listed | rest
            · exact Or.inl (List.mem_cons_of_mem _ listed)
            · rcases List.mem_cons.mp rest with rfl | listed
              · exact Or.inl List.mem_cons_self
              · exact Or.inr listed

theorem delimiterFault?_eq_none_iff {index : Nat} {pairs : List (Text × Text)} :
    delimiterFault? index pairs = none ↔
      forall pair, pair ∈ pairs -> pair.1 ≠ [] ∧ pair.2 ≠ [] := by
  induction pairs generalizing index with
  | nil => exact iff_of_true rfl nofun
  | cons pair pairs inductionHypothesis =>
      rcases pair with ⟨opening, closing⟩
      rw [delimiterFault?, List.forall_mem_cons]
      split
      · next empty => exact iff_of_false (Option.some_ne_none _) fun nonempty => nonempty.1.1 empty
      · next opens =>
          split
          · next empty => exact iff_of_false (Option.some_ne_none _) fun nonempty =>
              nonempty.1.2 empty
          · next closes => rw [inductionHypothesis, and_iff_right ⟨opens, closes⟩]

/-- Settings are without a fault exactly if each of their parts is. -/
theorem fault?_eq_none_iff {settings : Settings} :
    settings.fault? = none ↔
      settings.directive.fault? = none ∧
        (forall pairs, settings.delimiters = some pairs ->
          pairs ≠ [] ∧ forall pair, pair ∈ pairs -> pair.1 ≠ [] ∧ pair.2 ≠ []) ∧
          keyFault? [] settings.templates.keys = none := by
  rw [fault?, Option.orElse_eq_none, Option.orElse_eq_none]
  refine and_congr_right fun _ => and_congr_left fun _ => ?_
  cases settings.delimiters with
  | none => exact iff_of_true rfl nofun
  | some pairs =>
      cases pairs with
      | nil => exact iff_of_false (Option.some_ne_none _) fun given => (given [] rfl).1 rfl
      | cons pair pairs =>
          simp only [delimiterFault?_eq_none_iff, Option.some.injEq, forall_eq', ne_eq,
            reduceCtorEq, not_false_eq_true, true_and]

/-- Settings without a fault have none in any of their parts. -/
theorem parts_of_fault?_eq_none {settings : Settings} (valid : settings.fault? = none) :
    settings.directive.fault? = none ∧ keyFault? [] settings.templates.keys = none := by
  rcases fault?_eq_none_iff.mp valid with ⟨directive, _, keys⟩
  exact ⟨directive, keys⟩

/-- The keys of valid templates are apart, also in lowercase. -/
theorem distinct_of_fault?_eq_none {settings : Settings} (valid : settings.fault? = none) :
    settings.templates.toList.Pairwise fun first second => first.1.lowercase ≠
      second.1.lowercase := by
  rcases keyFault?_eq_none_iff.mp (parts_of_fault?_eq_none valid).2 with ⟨_, _, distinct⟩
  rwa [← Std.TreeMap.map_fst_toList_eq_keys, List.pairwise_map] at distinct

end Settings
end MarkupDirectives
