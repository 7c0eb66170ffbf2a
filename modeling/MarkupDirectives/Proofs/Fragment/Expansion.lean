import MarkupDirectives.Proofs.Fragment.Lookup
import MarkupDirectives.Proofs.Text.Entities
import MarkupDirectives.Proofs.Text.Splitting

namespace MarkupDirectives

open Text

/-!
# Templates are not steered by values

The texts around the places for the value are those of the template, and the
value comes in only escaped.
-/

namespace Template

/-- The pieces of a template are found from its front. -/
theorem splitBy_pieces (template : Text) : SplitBy placeholder template (pieces template) := by
  fun_induction pieces template with
  | case1 template absent => exact .whole (splitOnce?_eq_none_iff.mp absent)
  | case2 template before rest found inductionHypothesis =>
      exact .split (firstOccurrence_of_splitOnce? found) inductionHypothesis

/-- Of the significant characters, filling with an escaped text keeps those of
the pieces and adds none. -/
theorem filter_fill (template value : Text) :
    (fill template value.escapeHtml).filter isSignificant =
      ([] : Text).intercalate ((pieces template).map (List.filter isSignificant)) := by
  rw [fill, filter_intercalate, filter_escapeHtml]

/-- The factory of the last template for a key puts the value, without its
delimiters and escaped, in every place for it.  The pieces of the template stay
around it, so the fragments for any two values have the same significant
characters in the same order. -/
theorem expansion_not_steered (dialect : Dialect) (template : Text) :
    (forall (before after : List (Text × Text)) (key : Text),
      (forall entry, entry ∈ after -> entry.1.lowercase ≠ key.lowercase) ->
        (registry dialect (before ++ (key, template) :: after)).get? key =
          some (factory dialect template)) ∧
    Exists fun pieces : List Text =>
      (SplitBy placeholder template pieces ∧
        forall others, SplitBy placeholder template others -> others = pieces) ∧
      (forall value, (factory dialect template).invoke value =
        (dialect.stripDelimiters value).escapeHtml.intercalate pieces) ∧
      forall value other, ((factory dialect template).invoke value).filter isSignificant =
        ((factory dialect template).invoke other).filter isSignificant := by
  constructor
  · intro before after key last
    rw [registry, List.map_append, List.map_cons]
    apply Registry.get?_ofList_append_cons
    intro entry member
    rcases List.mem_map.mp member with ⟨later, further, rfl⟩
    exact last later further
  · refine ⟨pieces template, ⟨splitBy_pieces template, ?_⟩, invoke_factory dialect template, ?_⟩
    · intro others split
      exact split.unique (splitBy_pieces template)
    · intro value other
      rw [invoke_factory, invoke_factory, filter_fill, filter_fill]

/-- A value that has the form of a place is put into both places as it is. -/
example :
    (factory Dialect.standard "<i>\x7bvalue\x7d\x7bvalue\x7d".toList).invoke
        "(\x7bvalue\x7d)".toList =
      "<i>\x7bvalue\x7d\x7bvalue\x7d".toList := by
  decide +kernel

end Template
end MarkupDirectives
