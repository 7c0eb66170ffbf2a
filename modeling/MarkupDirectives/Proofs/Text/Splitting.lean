import MarkupDirectives.Proofs.Text.Trimming

namespace MarkupDirectives
namespace Text

/-!
# Texts split by a token

Occurrences of a token may overlap.  Which texts lie around those that are taken
from left to right is said here without any search.
-/

/-- The token first occurs in the text behind `before`, and `rest` follows
it. -/
structure FirstOccurrence (token text before rest : Text) : Prop where
  whole : text = before ++ (token ++ rest)
  first : forall earlier later : Text,
    text = earlier ++ (token ++ later) -> before.length ≤ earlier.length

/-- The pieces are the texts around the occurrences of the token, which are
taken from left to right and do not overlap. -/
inductive SplitBy (token : Text) : Text -> List Text -> Prop
  /-- The token does not occur, and the text stays whole. -/
  | whole {text : Text} (absent : ¬ token <:+: text) : SplitBy token text [text]
  /-- What follows the first occurrence is split by itself. -/
  | split {text before rest : Text} {pieces : List Text}
    (occurrence : FirstOccurrence token text before rest)
      (further : SplitBy token rest pieces) : SplitBy token text (before :: pieces)

variable {token text before rest : Text} {pieces : List Text}

namespace FirstOccurrence

theorem unique {other ahead : Text} (occurrence : FirstOccurrence token text before rest)
    (another : FirstOccurrence token text other ahead) : before = other ∧ rest = ahead := by
  have sameLength : before.length = other.length :=
    Nat.le_antisymm (occurrence.first other ahead another.whole)
      (another.first before rest occurrence.whole)
  have parts := List.append_inj (occurrence.whole.symm.trans another.whole) sameLength
  exact ⟨parts.1, List.append_cancel_left parts.2⟩

theorem isInfix (occurrence : FirstOccurrence token text before rest) : token <:+: text :=
  ⟨before, rest, by rw [occurrence.whole, List.append_assoc]⟩

end FirstOccurrence

/-- Going through a text from its front finds the first occurrence. -/
theorem firstOccurrence_of_splitOnce? (found : text.splitOnce? token = some (before, rest)) :
    FirstOccurrence token text before rest := by
  refine ⟨by rw [eq_of_splitOnce? found, List.append_assoc], ?_⟩
  induction text generalizing before with
  | nil =>
      simp only [splitOnce?, Option.map_eq_some_iff, Prod.mk.injEq] at found
      rcases found with ⟨_, _, rfl, rfl⟩
      exact fun _ _ _ => Nat.zero_le _
  | cons c text inductionHypothesis =>
      intro earlier later same
      rw [splitOnce?] at found
      split at found
      · cases found
        exact Nat.zero_le _
      · next notHere =>
          simp only [Option.map_eq_some_iff, Prod.mk.injEq] at found
          rcases found with ⟨parts, further, rfl, rfl⟩
          cases earlier with
          | nil =>
              have here : after? (c :: text) token = some later := after?_eq_some_iff.mpr same
              rw [here] at notHere
              cases notHere
          | cons d earlier =>
              rw [List.cons_append, List.cons.injEq] at same
              exact Nat.succ_le_succ (inductionHypothesis further earlier later same.2)

namespace SplitBy

theorem unique {others : List Text} (split : SplitBy token text pieces)
    (another : SplitBy token text others) :
    pieces = others := by
  induction split generalizing others with
  | whole absent =>
      cases another with
      | whole => rfl
      | split occurrence => exact absurd occurrence.isInfix absent
  | split occurrence _ inductionHypothesis =>
      cases another with
      | whole absent => exact absurd occurrence.isInfix absent
      | split alsoFirst further =>
          rcases occurrence.unique alsoFirst with ⟨rfl, rfl⟩
          rw [inductionHypothesis further]

end SplitBy

/-! ## Filling the gaps between texts -/

/-- Between texts only such characters come in as the filling has. -/
theorem filter_intercalate (accept : Char -> Bool) (filling : Text) (pieces : List Text) :
    (filling.intercalate pieces).filter accept =
      (filling.filter accept).intercalate (pieces.map (List.filter accept)) := by
  induction pieces with
  | nil => rfl
  | cons piece pieces inductionHypothesis =>
      cases pieces with
      | nil => simp only [List.map_cons, List.map_nil, List.intercalate_singleton]
      | cons next pieces =>
          rw [List.intercalate_cons_cons, List.filter_append, List.filter_append,
            inductionHypothesis]
          exact List.intercalate_cons_cons.symm

end Text
end MarkupDirectives
