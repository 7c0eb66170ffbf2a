import Mathlib.Logic.Function.Basic
import MarkupDirectives.Text.Forms

namespace MarkupDirectives
namespace Text

/-!
# Escaping for HTML

An escaped text has none of the characters that divide a page.  It is read back
from left to right, and every entity in it is replaced by its character once.
-/

/-! ## What escaping keeps out -/

/-- The characters by which an HTML page is divided into tags, attribute values
and text. -/
def isSignificant (c : Char) : Bool := c = '<' || c = '>' || c = '"' || c = '\''

theorem filter_escapedChar (c : Char) : (escapedChar c).filter isSignificant = [] := by
  unfold escapedChar
  split
  · decide
  · decide
  · decide
  · decide
  · decide
  · next less greater double single =>
      have plain : isSignificant c = false := by
        simp only [isSignificant, Bool.or_eq_false_iff, decide_eq_false_iff_not]
        exact ⟨⟨⟨less, greater⟩, double⟩, single⟩
      rw [List.filter_cons_of_neg (Bool.eq_false_iff.mp plain), List.filter_nil]

theorem filter_escapeHtml (text : Text) : text.escapeHtml.filter isSignificant = [] := by
  unfold escapeHtml
  rw [List.filter_flatMap, List.flatMap_eq_nil_iff]
  intro c _
  exact filter_escapedChar c

/-! ## Reading entities -/

/-- The entities, each with the character for which it stands. -/
def entities : List (Text × Char) :=
  [(['&', 'a', 'm', 'p', ';'], '&'), (['&', 'l', 't', ';'], '<'), (['&', 'g', 't', ';'], '>'),
   (['&', 'q', 'u', 'o', 't', ';'], '"'), (['&', '#', 'x', '2', '7', ';'], '\'')]

/-- The character of the entity in front of a text, if there is one, and what
follows the entity. -/
def afterEntity? (text : Text) : Option (Char × Text) :=
  entities.findSome? fun entity => (text.after? entity.1).map fun rest => (entity.2, rest)

variable {text rest : Text} {c : Char}

/-! ## The code of entities -/

theorem entity_eq_of_begins :
    forall first, first ∈ entities -> forall second, second ∈ entities -> first.1 <+: second.1 ->
      first = second := by
  decide

/-- An entity is an ampersand and other characters behind it. -/
theorem exists_entity_eq_cons :
    forall entity, entity ∈ entities -> entity.1 = '&' :: entity.1.tail ∧ '&' ∉ entity.1.tail := by
  decide

/-- Whatever follows an entity, the text in front of it is not taken for another
one. -/
theorem afterEntity?_eq_some_iff :
    text.afterEntity? = some (c, rest) ↔
      Exists fun entity => entity ∈ entities ∧ entity.2 = c ∧ text = entity.1 ++ rest := by
  have sound : forall {d : Char} {later : Text}, text.afterEntity? = some (d, later) ->
      Exists fun entity => entity ∈ entities ∧ entity.2 = d ∧ text = entity.1 ++ later := by
    intro d later found
    rcases List.exists_of_findSome?_eq_some found with ⟨entity, member, same⟩
    rcases Option.map_eq_some_iff.mp same with ⟨_, follows, equal⟩
    cases equal
    exact ⟨entity, member, rfl, after?_eq_some_iff.mp follows⟩
  constructor
  · exact sound
  · rintro ⟨entity, member, rfl, whole⟩
    cases found : text.afterEntity? with
    | none =>
        have follows : text.after? entity.1 = some rest := after?_eq_some_iff.mpr whole
        have absent := List.findSome?_eq_none_iff.mp found entity member
        rw [follows] at absent
        cases absent
    | some entry =>
        rcases sound found with ⟨other, alsoMember, same, alsoWhole⟩
        have begins : entity.1 <+: text := ⟨rest, whole.symm⟩
        have alsoBegins : other.1 <+: text := ⟨entry.2, alsoWhole.symm⟩
        have equal : entity = other := by
          rcases List.prefix_or_prefix_of_prefix begins alsoBegins with shorter | longer
          · exact entity_eq_of_begins entity member other alsoMember shorter
          · exact (entity_eq_of_begins other alsoMember entity member longer).symm
        subst equal
        have ahead : rest = entry.2 := List.append_cancel_left (whole.symm.trans alsoWhole)
        rw [same, ahead]

theorem length_lt_of_afterEntity? (found : text.afterEntity? = some (c, rest)) :
    rest.length < text.length := by
  rcases afterEntity?_eq_some_iff.mp found with ⟨entity, member, _, rfl⟩
  rw [(exists_entity_eq_cons entity member).1, List.cons_append, List.length_cons,
    List.length_append]
  omega

/-- In front of an entity stands an ampersand. -/
theorem afterEntity?_eq_none_of_ne (other : c ≠ '&') : afterEntity? (c :: rest) = none := by
  cases found : afterEntity? (c :: rest) with
  | none => rfl
  | some entry =>
      rcases afterEntity?_eq_some_iff.mp found with ⟨entity, member, _, whole⟩
      rw [(exists_entity_eq_cons entity member).1] at whole
      exact absurd (List.cons.inj whole).1 other

/-! ## Reading back -/

/-- The text with its entities replaced by their characters.  What has been
replaced is not read again. -/
def unescapeHtml : (text : Text) -> Text
  | [] => []
  | c :: text =>
      match _ : afterEntity? (c :: text) with
      | some (d, rest) => d :: unescapeHtml rest
      | none => c :: unescapeHtml text
termination_by text => text.length
decreasing_by
  · exact length_lt_of_afterEntity? ‹_›
  · exact Nat.lt_succ_self _

theorem unescapeHtml_entity_append {entity : Text × Char} (member : entity ∈ entities)
    (rest : Text) :
    unescapeHtml (entity.1 ++ rest) = entity.2 :: unescapeHtml rest := by
  have found : afterEntity? (entity.1 ++ rest) = some (entity.2, rest) :=
    afterEntity?_eq_some_iff.mpr ⟨entity, member, rfl, rfl⟩
  rw [(exists_entity_eq_cons entity member).1, List.cons_append] at found ⊢
  rw [unescapeHtml]
  split
  · next d later also =>
      cases found.symm.trans also
      rfl
  · next absent =>
      rw [found] at absent
      cases absent

theorem unescapeHtml_cons_of_ne (other : c ≠ '&') (rest : Text) :
    unescapeHtml (c :: rest) = c :: unescapeHtml rest := by
  have absent : afterEntity? (c :: rest) = none := afterEntity?_eq_none_of_ne other
  rw [unescapeHtml]
  split
  · next found =>
      rw [absent] at found
      cases found
  · rfl

/-- A character is escaped by its entity, and one that has none stands for
itself. -/
theorem escapedChar_cases (c : Char) :
    (escapedChar c, c) ∈ entities ∨ c ≠ '&' ∧ escapedChar c = [c] := by
  unfold escapedChar
  split
  · exact Or.inl (by decide)
  · exact Or.inl (by decide)
  · exact Or.inl (by decide)
  · exact Or.inl (by decide)
  · exact Or.inl (by decide)
  · next other _ _ _ _ => exact Or.inr ⟨other, rfl⟩

theorem escapeHtml_cons (c : Char) (text : Text) :
    escapeHtml (c :: text) = escapedChar c ++ escapeHtml text :=
  List.flatMap_cons

theorem unescapeHtml_escapeHtml (text : Text) : text.escapeHtml.unescapeHtml = text := by
  induction text with
  | nil => rw [escapeHtml, List.flatMap_nil, unescapeHtml]
  | cons c text inductionHypothesis =>
      rw [escapeHtml_cons]
      rcases escapedChar_cases c with member | ⟨other, plain⟩
      · have entity := unescapeHtml_entity_append member (escapeHtml text)
        rw [entity, inductionHypothesis]
      · rw [plain, List.singleton_append, unescapeHtml_cons_of_ne other, inductionHypothesis]

/-! ## Ampersands -/

/-- An ampersand in an escaped character is in front of it. -/
theorem eq_nil_of_escapedChar_eq {before after : Text}
    (split : escapedChar c = before ++ '&' :: after) :
    before = [] ∧ (escapedChar c, c) ∈ entities := by
  rcases escapedChar_cases c with member | ⟨other, plain⟩
  · refine ⟨?_, member⟩
    rcases exists_entity_eq_cons _ member with ⟨begins, further⟩
    cases before with
    | nil => rfl
    | cons d before =>
        have tail : (escapedChar c).tail = before ++ '&' :: after := congrArg List.tail split
        exact absurd (tail ▸ List.mem_append_right before List.mem_cons_self) further
  · rw [plain] at split
    cases before with
    | nil => exact absurd (List.cons.inj split).1 other
    | cons d before => cases before <;> cases split

/-- Every ampersand in an escaped text begins an entity. -/
theorem exists_entity_of_ampersand {before after : Text}
    (stands : text.escapeHtml = before ++ '&' :: after) :
    Exists fun entity => entity ∈ entities ∧ entity.1 <+: '&' :: after := by
  induction text generalizing before with
  | nil => cases before <;> cases stands
  | cons c text inductionHypothesis =>
      rw [escapeHtml_cons] at stands
      rcases List.append_eq_append_iff.mp stands with ⟨later, _, further⟩ | ⟨ending, split, ahead⟩
      · exact inductionHypothesis further
      · cases ending with
        | nil =>
            have further : escapeHtml text = [] ++ '&' :: after := ahead.symm
            exact inductionHypothesis further
        | cons d ending =>
            have first : '&' = d := (List.cons.inj ahead).1
            subst first
            rcases eq_nil_of_escapedChar_eq split with ⟨rfl, member⟩
            refine ⟨_, member, ?_⟩
            rw [ahead, split, List.nil_append]
            exact List.prefix_append _ _

/-- In every escaped text there is no angle bracket and no quote, and every
ampersand begins an entity.  Reading the entities back once gives the text.  So
different texts stay different, and a text may be escaped in parts. -/
theorem escapeHtml_keeps_text (text : Text) :
    (forall c, c ∈ text.escapeHtml -> c ≠ '<' ∧ c ≠ '>' ∧ c ≠ '"' ∧ c ≠ '\'') ∧
    (forall before after, text.escapeHtml = before ++ '&' :: after ->
      Exists fun entity => entity ∈ entities ∧ entity.1 <+: '&' :: after) ∧
    text.escapeHtml.unescapeHtml = text ∧
    (forall other : Text, other.escapeHtml = text.escapeHtml -> other = text) ∧
    forall other : Text, (text ++ other).escapeHtml = text.escapeHtml ++ other.escapeHtml := by
  refine ⟨?_, fun _ _ => exists_entity_of_ampersand, unescapeHtml_escapeHtml text, ?_,
    escapeHtml_append text⟩
  · intro c member
    have plain := List.filter_eq_nil_iff.mp (filter_escapeHtml text) c member
    simpa [isSignificant, and_assoc] using plain
  · intro other same
    have inverse : Function.LeftInverse unescapeHtml escapeHtml := unescapeHtml_escapeHtml
    exact inverse.injective same

/-- A text that holds an entity and the beginning of another. -/
example : escapeHtml "&lt;&am".toList = "&amp;lt;&amp;am".toList ∧
    unescapeHtml "&amp;lt;&amp;am".toList = "&lt;&am".toList := by
  decide +kernel

end Text
end MarkupDirectives
