import MarkupDirectives.Proofs.Locator.Folding
import MarkupDirectives.Text.Forms

namespace MarkupDirectives

/-!
# Lowercase forms and the letters of ASCII

Lowering the capitals of ASCII first makes no difference to the lowercase form of
a text.  The form of a capital sigma depends on its neighbours, but in what it
depends on, a capital agrees with its small letter.
-/

namespace Character

theorem isCased_toLower (c : Char) : isCased c.toLower = isCased c :=
  toLower_induction (motive := fun c lowered => isCased lowered = isCased c) (fun _ => rfl)
    (by decide) c

theorem isCaseIgnorable_toLower (c : Char) : isCaseIgnorable c.toLower = isCaseIgnorable c :=
  toLower_induction (motive := fun c lowered => isCaseIgnorable lowered = isCaseIgnorable c)
    (fun _ => rfl) (by decide) c

theorem lowercase_toLower (c : Char) : lowercase c.toLower = lowercase c :=
  toLower_induction (motive := fun c lowered => lowercase lowered = lowercase c) (fun _ => rfl)
    (by decide) c

end Character

namespace Text

theorem casedAhead_lowerAscii (text : Text) : text.lowerAscii.casedAhead = text.casedAhead := by
  have ignorable : Character.isCaseIgnorable ∘ Char.toLower = Character.isCaseIgnorable :=
    funext Character.isCaseIgnorable_toLower
  unfold casedAhead lowerAscii
  rw [List.dropWhile_map, ignorable]
  cases text.dropWhile Character.isCaseIgnorable with
  | nil => rfl
  | cons c rest => exact Character.isCased_toLower c

/-- The induction is on the text ahead, and what lies behind is lowered as it
grows. -/
theorem lowercaseBehind_lowerAscii (before text : Text) :
    lowercaseBehind before.lowerAscii text.lowerAscii = lowercaseBehind before text := by
  induction text generalizing before with
  | nil => rfl
  | cons c rest inductionHypothesis =>
      have sigma : c.toLower = 'Σ' ↔ c = 'Σ' := Character.toLower_eq_iff (by decide)
      have ahead : casedAhead (lowerAscii rest) = casedAhead rest := casedAhead_lowerAscii rest
      have further : lowercaseBehind (c.toLower :: before.lowerAscii) (lowerAscii rest) =
          lowercaseBehind (c :: before) rest := inductionHypothesis (c :: before)
      change lowercaseBehind before.lowerAscii (c.toLower :: lowerAscii rest) =
        lowercaseBehind before (c :: rest)
      simp only [lowercaseBehind, sigma, ahead, casedAhead_lowerAscii, Character.lowercase_toLower,
        further]

theorem lowercase_lowerAscii (text : Text) : text.lowerAscii.lowercase = text.lowercase :=
  lowercaseBehind_lowerAscii [] text

/-- Texts that differ only in the case of letters of ASCII have the same
lowercase form. -/
theorem lowercase_eq_of_lowerAscii_eq {text other : Text}
    (same : text.lowerAscii = other.lowerAscii) :
    text.lowercase = other.lowercase := by
  rw [← lowercase_lowerAscii text, same, lowercase_lowerAscii other]

/-- The letter in front makes a difference to the sigma, but its case does
not. -/
example : lowercase "OΣ".toList = lowercase "oΣ".toList ∧
    lowercase "oΣ".toList ≠ lowercase "o".toList ++ lowercase "Σ".toList := by decide +kernel

theorem trim_lowerAscii (text : Text) : text.lowerAscii.trim = text.trim.lowerAscii := by
  have blank : Character.isWhitespace ∘ Char.toLower = Character.isWhitespace :=
    funext Character.isWhitespace_toLower
  unfold trim lowerAscii
  rw [List.dropWhile_map, blank, ← List.map_reverse, List.dropWhile_map, blank, ← List.map_reverse]

end Text
end MarkupDirectives
