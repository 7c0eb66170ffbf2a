import MarkupDirectives.Character.Classes

namespace MarkupDirectives

/-- Markup, tokens, keys, values and fragments are all sequences of characters. -/
abbrev Text := List Char

namespace Text

/-!
# Texts measured in bytes

Every offset and every length counts bytes of the UTF-8 encoding, whereas a text
is a sequence of characters.  An offset inside a character divides nothing, so
`splitAt?` refuses it.
-/

/-- The number of bytes a text takes in UTF-8. -/
def width : Text -> Nat
  | [] => 0
  | c :: rest => c.utf8Size + width rest

@[simp] theorem width_nil : width [] = 0 := rfl

@[simp] theorem width_cons (c : Char) (rest : Text) :
    width (c :: rest) = c.utf8Size + width rest := rfl

@[simp] theorem width_append (left right : Text) :
    width (left ++ right) = width left + width right := by
  induction left with
  | nil => simp
  | cons c rest inductionHypothesis => simp [inductionHypothesis, Nat.add_assoc]

/-- Only the empty text has no width, since every character has some. -/
theorem width_eq_zero_iff {text : Text} : width text = 0 ↔ text = [] := by
  cases text with
  | nil => simp
  | cons c rest =>
      have positive := c.utf8Size_pos
      simp only [width_cons, reduceCtorEq, iff_false]
      omega

/-! ## Tokens -/

/-- What follows `token` in `text`, if `text` starts with `token`. -/
def after? : (text token : Text) -> Option Text
  | text, [] => some text
  | [], _ :: _ => none
  | c :: text, t :: token => if c = t then after? text token else none

theorem after?_eq_some_iff {text token rest : Text} :
    text.after? token = some rest ↔ text = token ++ rest := by
  induction token generalizing text with
  | nil => cases text <;> simp [after?]
  | cons t token inductionHypothesis =>
      cases text with
      | nil => simp [after?]
      | cons c text =>
          by_cases same : c = t
          · simp [after?, same, inductionHypothesis]
          · simp [after?, same]

/-- The texts around the first occurrence of `token`, if there is one. -/
def splitOnce? : (text token : Text) -> Option (Text × Text)
  | [], token => (after? [] token).map fun rest => ([], rest)
  | c :: text, token =>
      match after? (c :: text) token with
      | some rest => some ([], rest)
      | none => (splitOnce? text token).map fun parts => (c :: parts.1, parts.2)

/-- The two parts and the token between them are the whole text. -/
theorem eq_of_splitOnce? {text token before rest : Text}
    (found : text.splitOnce? token = some (before, rest)) : text = before ++ token ++ rest := by
  induction text generalizing before with
  | nil =>
      simp only [splitOnce?, Option.map_eq_some_iff, Prod.mk.injEq] at found
      rcases found with ⟨_, follows, rfl, rfl⟩
      simpa using after?_eq_some_iff.mp follows
  | cons c text inductionHypothesis =>
      rw [splitOnce?] at found
      split at found
      · next follows =>
          cases found
          simpa using after?_eq_some_iff.mp follows
      · simp only [Option.map_eq_some_iff, Prod.mk.injEq] at found
        rcases found with ⟨parts, later, rfl, rfl⟩
        simpa using inductionHypothesis later

theorem length_lt_of_splitOnce? {text token before rest : Text} (nonempty : token ≠ [])
    (found : text.splitOnce? token = some (before, rest)) : rest.length < text.length := by
  have positive := List.length_pos_iff.mpr nonempty
  have whole := congrArg List.length (eq_of_splitOnce? found)
  simp only [List.length_append] at whole
  omega

/-! ## Offsets -/

/-- The texts before and after an offset, if no character lies across it. -/
def splitAt? : (text : Text) -> (offset : Nat) -> Option (Text × Text)
  | text, 0 => some ([], text)
  | [], _ + 1 => none
  | c :: text, offset + 1 =>
      if c.utf8Size ≤ offset + 1 then
        (splitAt? text (offset + 1 - c.utf8Size)).map fun parts => (c :: parts.1, parts.2)
      else none

/-- An offset that divides a text is the width of the part before it. -/
theorem splitAt?_eq_some_iff {text before rest : Text} {offset : Nat} :
    text.splitAt? offset = some (before, rest) ↔ text = before ++ rest ∧ offset = width before := by
  induction text generalizing before offset with
  | nil =>
      cases offset with
      | zero => cases before <;> simp [splitAt?, eq_comm]
      | succ offset =>
          simp only [splitAt?, reduceCtorEq, false_iff, not_and]
          intro empty
          rw [(List.append_eq_nil_iff.mp empty.symm).1]
          exact Nat.succ_ne_zero offset
  | cons c text inductionHypothesis =>
      have positive := c.utf8Size_pos
      cases offset with
      | zero =>
          cases before with
          | nil => simp [splitAt?, eq_comm]
          | cons b before =>
              have wide := b.utf8Size_pos
              simp only [splitAt?, Option.some.injEq, Prod.mk.injEq, width_cons]
              constructor
              · rintro ⟨impossible, _⟩
                cases impossible
              · rintro ⟨_, impossible⟩
                omega
      | succ offset =>
          simp only [splitAt?]
          split
          · next fits =>
              simp only [Option.map_eq_some_iff, Prod.mk.injEq]
              constructor
              · rintro ⟨parts, found, rfl, rfl⟩
                rcases inductionHypothesis.mp found with ⟨rfl, size⟩
                refine ⟨rfl, ?_⟩
                rw [width_cons]
                omega
              · rintro ⟨whole, size⟩
                cases before with
                | nil => cases size
                | cons b before =>
                    cases whole
                    rw [width_cons] at size
                    exact ⟨(before, rest), inductionHypothesis.mpr ⟨rfl, by omega⟩, rfl, rfl⟩
          · next across =>
              simp only [reduceCtorEq, false_iff, not_and]
              rintro whole size
              cases before with
              | nil => cases size
              | cons b before =>
                  cases whole
                  rw [width_cons] at size
                  omega

/-- The part of a text between two offsets, if both are character boundaries
and in this order. -/
def slice? (text : Text) (start stop : Nat) : Option Text :=
  if start ≤ stop then
    (text.splitAt? start).bind fun parts => (parts.2.splitAt? (stop - start)).map (·.1)
  else none

/-- A slice is what stands between a part of the text as wide as its start and
whatever follows. -/
theorem slice?_eq_some_iff {text inside : Text} {start stop : Nat} :
    text.slice? start stop = some inside ↔
      Exists fun before : Text => Exists fun after : Text =>
        text = before ++ inside ++ after ∧ start = width before ∧ stop = start + width inside := by
  constructor
  · intro found
    rw [slice?] at found
    split at found
    · next ordered =>
        rcases Option.bind_eq_some_iff.mp found with ⟨⟨before, ahead⟩, first, found⟩
        rcases Option.map_eq_some_iff.mp found with ⟨⟨middle, after⟩, second, same⟩
        change middle = inside at same
        subst same
        rcases splitAt?_eq_some_iff.mp first with ⟨rfl, size⟩
        rcases splitAt?_eq_some_iff.mp second with ⟨rfl, length⟩
        exact ⟨before, after, (List.append_assoc _ _ _).symm, size, by omega⟩
    · cases found
  · rintro ⟨before, after, rfl, rfl, rfl⟩
    have first : splitAt? (before ++ inside ++ after) (width before) =
        some (before, inside ++ after) :=
      splitAt?_eq_some_iff.mpr ⟨List.append_assoc _ _ _, rfl⟩
    have second : splitAt? (inside ++ after) (width inside) = some (inside, after) :=
      splitAt?_eq_some_iff.mpr ⟨rfl, rfl⟩
    rw [slice?, if_pos (Nat.le_add_right _ _), first, Option.bind_some, Nat.add_sub_cancel_left,
      second, Option.map_some]

/-- The characters of a text that end within its first `limit` bytes. -/
def takeWithin : (text : Text) -> (limit : Nat) -> Text
  | [], _ => []
  | c :: text, limit =>
      if c.utf8Size ≤ limit then c :: takeWithin text (limit - c.utf8Size) else []

/-- A text without the white space at its two ends. -/
def trim (text : Text) : Text :=
  ((text.dropWhile Character.isWhitespace).reverse.dropWhile Character.isWhitespace).reverse

end Text
end MarkupDirectives
