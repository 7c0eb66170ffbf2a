import Mathlib.Data.List.DropRight
import MarkupDirectives.Text.Basic

namespace MarkupDirectives
namespace Text

open Character

/-!
# Trimming and splitting

How `trim` and `splitOnce?` act on a text that is known to consist of certain
parts.
-/

theorem trim_eq_rdropWhile (text : Text) :
    text.trim = (text.dropWhile isWhitespace).rdropWhile isWhitespace := rfl

/-- White space behind a text makes no difference to what is left of the
text. -/
theorem rdropWhile_append_whitespace {text gap : Text}
    (blank : forall c, c ∈ gap -> isWhitespace c = true) :
    (text ++ gap).rdropWhile isWhitespace = text.rdropWhile isWhitespace := by
  unfold List.rdropWhile
  rw [List.reverse_append, List.dropWhile_append_of_pos]
  intro c member
  exact blank c (List.mem_reverse.mp member)

theorem rdropWhile_eq_self {text : Text}
    (ends : forall c, text.getLast? = some c -> isWhitespace c = false) :
    text.rdropWhile isWhitespace = text := by
  rw [List.rdropWhile_eq_self_iff]
  intro nonempty
  rw [ends _ (List.getLast?_eq_some_getLast nonempty)]
  exact Bool.false_ne_true

/-- White space in front of a text is dropped, up to the first other
character. -/
theorem trim_whitespace_append {gap text : Text}
    (blank : forall c, c ∈ gap -> isWhitespace c = true)
    (starts : forall c, text.head? = some c -> isWhitespace c = false) :
    trim (gap ++ text) = text.rdropWhile isWhitespace := by
  rw [trim_eq_rdropWhile, List.dropWhile_append_of_pos blank]
  cases text with
  | nil => rfl
  | cons c text =>
      have kept : ¬ isWhitespace c = true := by
        rw [starts c rfl]
        exact Bool.false_ne_true
      rw [List.dropWhile_cons_of_neg kept]

theorem trim_append_whitespace {word gap : Text}
    (solid : forall c, c ∈ word -> isWhitespace c = false)
    (blank : forall c, c ∈ gap -> isWhitespace c = true) : trim (word ++ gap) = word := by
  cases word with
  | nil =>
      have nothing : trim (gap ++ []) = [] := trim_whitespace_append blank nofun
      rwa [List.append_nil] at nothing
  | cons c word =>
      have starts : forall d, (c :: word ++ gap).head? = some d -> isWhitespace d = false := by
        intro d same
        cases same
        exact solid c List.mem_cons_self
      have trimmed : trim ([] ++ (c :: word ++ gap)) = (c :: word ++ gap).rdropWhile isWhitespace :=
        trim_whitespace_append nofun starts
      rw [List.nil_append, rdropWhile_append_whitespace blank] at trimmed
      rw [trimmed]
      exact rdropWhile_eq_self fun d last => solid d (List.mem_of_getLast? last)

theorem trim_eq_self {word : Text} (solid : forall c, c ∈ word -> isWhitespace c = false) :
    trim word = word := by
  have behindNothing : trim (word ++ []) = word := trim_append_whitespace solid nofun
  rwa [List.append_nil] at behindNothing

/-! ## The first occurrence of a token -/

/-- A token is found behind a text in which its first character does not
occur. -/
theorem splitOnce?_of_not_mem {before token rest : Text} {t : Char} (absent : t ∉ before) :
    splitOnce? (before ++ (t :: token ++ rest)) (t :: token) = some (before, rest) := by
  induction before with
  | nil =>
      have begins : after? (t :: token ++ rest) (t :: token) = some rest :=
        after?_eq_some_iff.mpr rfl
      rw [List.nil_append, List.cons_append, splitOnce?, ← List.cons_append, begins]
  | cons c before inductionHypothesis =>
      have different : c ≠ t := fun same => absent (same ▸ List.mem_cons_self)
      have further := inductionHypothesis fun member => absent (List.mem_cons_of_mem c member)
      rw [List.cons_append, splitOnce?, after?, if_neg different, further]
      rfl

/-- A token is not found exactly if it stands nowhere in the text. -/
theorem splitOnce?_eq_none_iff {text token : Text} :
    splitOnce? text token = none ↔ ¬ token <:+: text := by
  induction text with
  | nil =>
      cases token with
      | nil => simp [splitOnce?, after?]
      | cons t token => simp [splitOnce?, after?]
  | cons c text inductionHypothesis =>
      rw [splitOnce?, List.infix_cons_iff]
      cases begins : after? (c :: text) token with
      | some rest =>
          have stands : token <+: c :: text := ⟨rest, (after?_eq_some_iff.mp begins).symm⟩
          exact iff_of_false (Option.some_ne_none _) (not_not.mpr (Or.inl stands))
      | none =>
          have absent : ¬ token <+: c :: text := by
            rintro ⟨rest, whole⟩
            rw [after?_eq_some_iff.mpr whole.symm] at begins
            cases begins
          simp only [Option.map_eq_none_iff, inductionHypothesis, absent, false_or]

theorem splitOnce?_eq_none_of_not_mem {text token : Text} {t : Char} (absent : t ∉ text) :
    splitOnce? text (t :: token) = none :=
  splitOnce?_eq_none_iff.mpr fun occurs => absent (occurs.subset List.mem_cons_self)

end Text
end MarkupDirectives
