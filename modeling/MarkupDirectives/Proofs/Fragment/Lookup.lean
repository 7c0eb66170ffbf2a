import Mathlib.Data.Finset.Card
import Mathlib.Data.Finset.Dedup
import Mathlib.Data.List.Induction
import MarkupDirectives.Fragment.Registry
import MarkupDirectives.Proofs.Text.Trimming

namespace MarkupDirectives

/-!
# What serves a key

A registry that was filled from a list serves a key with the last entry whose
key has the same lowercase form.  The factory of a template always fills it.
-/

namespace Registry

variable {F : Type} {entries : List (Text × Factory F)} {key : Text} {factory : Factory F}

theorem ofList_append_singleton (entries : List (Text × Factory F)) (entry : Text × Factory F) :
    ofList (entries ++ [entry]) = (ofList entries).insert entry.1 entry.2 := by
  rw [ofList, List.foldl_append]
  rfl

/-- Of the entries for a key the last one counts. -/
theorem get?_ofList (entries : List (Text × Factory F)) (key : Text) :
    (ofList entries).get? key =
      (entries.reverse.find? fun entry => entry.1.lowercase == key.lowercase).map Prod.snd := by
  induction entries using List.reverseRecOn with
  | nil => simp [ofList, empty, get?]
  | append_singleton entries entry inductionHypothesis =>
      rw [ofList_append_singleton, get?_insert, List.reverse_append, List.reverse_singleton,
        List.singleton_append, List.find?_cons]
      by_cases same : entry.1.lowercase = key.lowercase
      · rw [if_pos same, beq_iff_eq.mpr same]
        rfl
      · rw [if_neg same, beq_eq_false_iff_ne.mpr same, inductionHypothesis]

/-- An entry counts as long as no later one has a key of the same lowercase
form. -/
theorem get?_ofList_append_cons {before after : List (Text × Factory F)}
    (last : forall entry, entry ∈ after -> entry.1.lowercase ≠ key.lowercase) :
    (ofList (before ++ (key, factory) :: after)).get? key = some factory := by
  have unserved : after.reverse.find? (fun entry => entry.1.lowercase == key.lowercase) = none := by
    rw [List.find?_eq_none]
    intro entry member same
    exact last entry (List.mem_reverse.mp member) (beq_iff_eq.mp same)
  rw [get?_ofList, List.reverse_append, List.reverse_cons, List.append_assoc, List.find?_append,
    unserved, Option.none_or, List.singleton_append, List.find?_cons, beq_self_eq_true]
  rfl

/-- If no two keys have the same lowercase form, then every entry counts. -/
theorem get?_ofList_of_mem
    (distinct : entries.Pairwise fun first second => first.1.lowercase ≠ second.1.lowercase)
    (member : (key, factory) ∈ entries) : (ofList entries).get? key = some factory := by
  rcases List.append_of_mem member with ⟨before, after, rfl⟩
  have later := (List.pairwise_cons.mp (List.pairwise_append.mp distinct).2.1).1
  exact get?_ofList_append_cons fun entry further => (later entry further).symm

/-- A key is served by no factory if it has the lowercase form of no entry's
key. -/
theorem get?_ofList_eq_none_iff :
    (ofList entries).get? key = none ↔
      forall entry, entry ∈ entries -> entry.1.lowercase ≠ key.lowercase := by
  simp only [get?_ofList, Option.map_eq_none_iff, List.find?_eq_none, List.mem_reverse, beq_iff_eq,
    ne_eq]

/-- Keys of the same lowercase form are one key to a registry. -/
theorem get?_congr {other : Text} (registry : Registry F) (same : other.lowercase = key.lowercase) :
    registry.get? other = registry.get? key := by
  rw [get?, get?, same]

/-- If no two keys have the same lowercase form, then the order of the entries
makes no difference. -/
theorem get?_ofList_of_perm {others : List (Text × Factory F)}
    (distinct : entries.Pairwise fun first second => first.1.lowercase ≠ second.1.lowercase)
    (reordered : others.Perm entries) (key : Text) :
    (ofList others).get? key = (ofList entries).get? key := by
  have alsoDistinct : others.Pairwise fun first second => first.1.lowercase ≠ second.1.lowercase :=
    reordered.symm.pairwise distinct Ne.symm
  by_cases served : Exists fun entry => entry ∈ entries ∧ entry.1.lowercase = key.lowercase
  · rcases served with ⟨⟨other, factory⟩, member, same⟩
    rw [← get?_congr _ same, ← get?_congr _ same, get?_ofList_of_mem distinct member,
      get?_ofList_of_mem alsoDistinct (reordered.mem_iff.mpr member)]
  · have unserved : forall entry, entry ∈ entries -> entry.1.lowercase ≠ key.lowercase :=
      fun entry member same => served ⟨entry, member, same⟩
    have alsoUnserved : forall entry, entry ∈ others -> entry.1.lowercase ≠ key.lowercase :=
      fun entry member => unserved entry (reordered.mem_iff.mp member)
    rw [get?_ofList_eq_none_iff.mpr unserved, get?_ofList_eq_none_iff.mpr alsoUnserved]

/-! ## How many keys there are -/

/-- An ordered map has its keys once each. -/
theorem nodup_keys {V : Type} (stored : Std.TreeMap Text V) : stored.keys.Nodup := by
  apply Std.TreeMap.distinct_keys.imp
  intro first second different same
  exact different (Std.LawfulEqCmp.compare_eq_iff_eq.mpr same)

theorem size_insert (registry : Registry F) (key : Text) (factory : Factory F) :
    (registry.insert key factory).size =
      if (registry.get? key).isSome then registry.size else registry.size + 1 := by
  rw [← contains_eq_isSome_get?]
  exact Std.TreeMap.size_insert

/-- Entries whose keys have the same lowercase form count once. -/
theorem size_ofList (entries : List (Text × Factory F)) :
    (ofList entries).size = (entries.map fun entry => entry.1.lowercase).toFinset.card := by
  induction entries using List.reverseRecOn with
  | nil => rfl
  | append_singleton entries entry inductionHypothesis =>
      have forms : ((entries ++ [entry]).map fun entry => entry.1.lowercase).toFinset =
          Insert.insert entry.1.lowercase
            (entries.map fun entry => entry.1.lowercase).toFinset := by
        rw [List.map_append, List.toFinset_append, Finset.union_comm]
        rfl
      have served : ((ofList entries).get? entry.1).isSome = true ↔
          entry.1.lowercase ∈ (entries.map fun entry => entry.1.lowercase).toFinset := by
        rw [← not_iff_not, Bool.not_eq_true, Option.isSome_eq_false_iff, Option.isNone_iff_eq_none,
          get?_ofList_eq_none_iff]
        simp only [List.mem_toFinset, List.mem_map, not_exists, not_and, ne_eq]
      rw [ofList_append_singleton, size_insert, forms, Finset.card_insert_eq_ite,
        inductionHypothesis]
      simp only [served]

/-- There are as many keys as entries exactly if no two of the entries have keys
of the same lowercase form. -/
theorem size_ofList_eq_length_iff :
    (ofList entries).size = entries.length ↔
      entries.Pairwise fun first second => first.1.lowercase ≠ second.1.lowercase := by
  rw [size_ofList, ← List.pairwise_map (f := fun entry : Text × Factory F => entry.1.lowercase)]
  have forms : (entries.map fun entry => entry.1.lowercase).length = entries.length :=
    List.length_map _
  rw [← forms]
  exact Multiset.toFinset_card_eq_card_iff_nodup
    (m := Multiset.ofList (entries.map fun entry => entry.1.lowercase))

theorem size_ofList_le (entries : List (Text × Factory F)) :
    (ofList entries).size ≤ entries.length := by
  rw [size_ofList, ← List.length_map fun entry : Text × Factory F => entry.1.lowercase]
  exact List.toFinset_card_le _

end Registry

namespace Template

variable {template : Text}

/-- A template takes the value exactly if the place for one occurs in it. -/
theorem takesValue_eq_true_iff : takesValue template = true ↔ placeholder <:+: template := by
  rw [takesValue, ← Bool.not_eq_false, Option.isSome_eq_false_iff, Option.isNone_iff_eq_none,
    Text.splitOnce?_eq_none_iff, not_not]

/-- A template without places is its only piece. -/
theorem pieces_of_not_isInfix (absent : ¬ placeholder <:+: template) :
    pieces template = [template] := by
  rw [pieces]
  split
  · rfl
  · next found =>
      rw [Text.splitOnce?_eq_none_iff.mpr absent] at found
      cases found

/-- Whatever the template, its factory fills it with the value. -/
theorem invoke_factory (dialect : Dialect) (template value : Text) :
    (factory dialect template).invoke value =
      fill template (dialect.stripDelimiters value).escapeHtml := by
  by_cases occurs : placeholder <:+: template
  · rw [factory, if_pos (takesValue_eq_true_iff.mpr occurs), Factory.invoke]
  · have constant : ¬ takesValue template = true := mt takesValue_eq_true_iff.mp occurs
    rw [factory, if_neg constant, Factory.invoke, fill, pieces_of_not_isInfix occurs]
    simp

/-- If no two keys have the same lowercase form, then every template serves its
own key. -/
theorem get?_registry_of_mem {templates : List (Text × Text)} {key : Text} (dialect : Dialect)
    (distinct : templates.Pairwise fun first second => first.1.lowercase ≠ second.1.lowercase)
    (member : (key, template) ∈ templates) :
    (registry dialect templates).get? key = some (factory dialect template) := by
  apply Registry.get?_ofList_of_mem
  · rw [List.pairwise_map]
    exact distinct
  · exact List.mem_map.mpr ⟨_, member, rfl⟩

end Template
end MarkupDirectives
