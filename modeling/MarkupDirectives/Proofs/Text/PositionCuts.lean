import MarkupDirectives.Proofs.Text.Cuts
import MarkupDirectives.Proofs.Text.Positions

namespace MarkupDirectives

open Text

/-!
# Places by cuts

A place can be found from two cuts: the text up to the last boundary that is not
beyond the offset, and of that the part behind the last newline.
-/

namespace Text

variable {text before behind : Text} {c : Char} {limit boundary : Nat}

/-- The last boundary that is not beyond the limit, looked for byte by byte.
There is no byte in front of the first one. -/
def boundaryDown? (text : Text) : (limit : Nat) -> Option Nat
  | 0 => if (text.splitAt? 0).isSome then some 0 else none
  | limit + 1 =>
      if (text.splitAt? (limit + 1)).isSome then some (limit + 1) else text.boundaryDown? limit

theorem boundaryDown?_of_isGreatest
    (greatest : IsGreatest {place | text.IsBoundary place ∧ place ≤ limit} boundary) :
    text.boundaryDown? limit = some boundary := by
  induction limit with
  | zero =>
      have first : boundary = 0 := Nat.le_zero.mp greatest.1.2
      subst first
      rw [boundaryDown?, if_pos (isBoundary_iff_isSome.mp greatest.1.1)]
  | succ limit inductionHypothesis =>
      rw [boundaryDown?]
      by_cases here : text.IsBoundary (limit + 1)
      · rw [if_pos (isBoundary_iff_isSome.mp here)]
        exact congrArg some (Nat.le_antisymm (greatest.2 ⟨here, Nat.le_refl _⟩) greatest.1.2)
      · rw [if_neg (mt isBoundary_iff_isSome.mpr here)]
        have elsewhere : boundary ≠ limit + 1 := fun same => here (same ▸ greatest.1.1)
        have fits : boundary ≤ limit + 1 := greatest.1.2
        refine inductionHypothesis ⟨⟨greatest.1.1, by omega⟩, ?_⟩
        rintro place ⟨alsoBoundary, alsoFits⟩
        exact greatest.2 ⟨alsoBoundary, Nat.le_succ_of_le alsoFits⟩

/-- The offset of the last occurrence of a character. -/
def lastOffset? (c : Char) : (text : Text) -> Option Nat
  | [] => none
  | d :: rest =>
      match lastOffset? c rest with
      | some offset => some (d.utf8Size + offset)
      | none => if d = c then some 0 else none

theorem lastOffset?_of_not_mem (absent : c ∉ text) : lastOffset? c text = none := by
  induction text with
  | nil => rfl
  | cons d text inductionHypothesis =>
      rw [List.mem_cons, not_or] at absent
      rw [lastOffset?, inductionHypothesis absent.2]
      exact if_neg (Ne.symm absent.1)

theorem lastOffset?_append_cons (absent : c ∉ behind) :
    lastOffset? c (before ++ c :: behind) = some (width before) := by
  induction before with
  | nil =>
      rw [List.nil_append, lastOffset?, lastOffset?_of_not_mem absent]
      exact if_pos rfl
  | cons d before inductionHypothesis =>
      rw [List.cons_append, lastOffset?, inductionHypothesis, width_cons]

/-- Complete lines end with a newline, if there are any. -/
theorem CompleteLines.eq_nil_or_concat {lines : Text} (complete : CompleteLines lines) :
    lines = [] ∨ Exists fun before : Text => lines = before ++ ['\n'] := by
  rcases List.eq_nil_or_concat' lines with empty | ⟨before, c, rfl⟩
  · exact Or.inl empty
  · right
    refine ⟨before, ?_⟩
    by_cases newline : c = '\n'
    · rw [newline]
    · rw [CompleteLines, List.rtakeWhile_concat, if_pos (decide_eq_true newline)] at complete
      exact absurd complete (List.append_ne_nil_of_right_ne_nil _ (List.cons_ne_nil _ _))

/-- The last line begins one byte behind the last newline, and otherwise where
the text does. -/
theorem CompleteLines.lastOffset?_eq {lines run : Text} (complete : CompleteLines lines)
    (unbroken : '\n' ∉ run) :
    (lastOffset? '\n' (lines ++ run)).elim 0 (· + 1) = width lines := by
  rcases complete.eq_nil_or_concat with rfl | ⟨before, rfl⟩
  · rw [List.nil_append, lastOffset?_of_not_mem unbroken]
    rfl
  · rw [List.append_assoc, List.singleton_append, lastOffset?_append_cons unbroken, width_append]
    rfl

end Text

namespace Position

/-- The place of an offset, from two cuts of the text. -/
def ofCuts? (text : Text) (offset : Nat) : Option Position := do
  let stop ← text.boundaryDown? (min offset (width text))
  let before ← text.slice? 0 stop
  let lineStart := (before.lastOffset? '\n').elim 0 (· + 1)
  let line ← before.slice? lineStart (width before)
  return ⟨before.count '\n' + 1, line.length + 1⟩

/-- Both cuts can be made, whatever the offset, and lead to the same place. -/
theorem ofCuts?_eq (text : Text) (offset : Nat) :
    ofCuts? text offset = some (ofOffset text offset) := by
  have greatest := isGreatest_width_takeWithin text offset
  rw [ofOffset, foldl_past, ofCuts?, boundaryDown?_of_isGreatest greatest]
  rcases takeWithin_prefix text offset with ⟨rest, whole⟩
  have first : text.slice? 0 (width (text.takeWithin offset)) = some (text.takeWithin offset) :=
    slice?_eq_some_iff.mpr ⟨[], rest, whole.symm, rfl, (Nat.zero_add _).symm⟩
  rcases exists_completeLines (text.takeWithin offset) with ⟨lines, run, parts, complete, unbroken⟩
  have second : (lines ++ run).slice? (width lines) (width (lines ++ run)) = some run :=
    slice?_eq_some_iff.mpr ⟨lines, [], (List.append_nil _).symm, rfl, width_append _ _⟩
  rw [parts] at first ⊢
  simp only [Option.bind_eq_bind, Option.bind_some, first, complete.lastOffset?_eq unbroken, second,
    after_append complete unbroken, List.count_append, List.count_eq_zero.mpr unbroken,
    Nat.add_zero]
  rfl

end Position
end MarkupDirectives
