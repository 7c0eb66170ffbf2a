import MarkupDirectives.Cursor

namespace MarkupDirectives

/-!
# Dialects of directives

A dialect chooses the tokens of directives: the marker, the assignment token, and
the pairs of delimiters that may enclose a value, in order of their priority.
A pair with an empty token is no `Delimiter`.
-/

/-- A token that opens a scope and the token that closes it.  The two may be
equal, and neither is empty. -/
structure Delimiter where
  opening : Text
  closing : Text
  opening_ne_nil : opening ≠ []
  closing_ne_nil : closing ≠ []
  deriving DecidableEq

/-- The delimiter with the given tokens, if neither of them is empty. -/
def Delimiter.of? (opening closing : Text) : Option Delimiter :=
  if nonempty : opening ≠ [] ∧ closing ≠ [] then
    some ⟨opening, closing, nonempty.1, nonempty.2⟩
  else none

/-- The tokens by which directives are recognised.  With `ignoreCase` the
ASCII letters of the marker match in either case. -/
structure Dialect where
  marker : Text
  assignment : Text
  delimiters : List Delimiter
  ignoreCase : Bool
  deriving DecidableEq

namespace Dialect

/-- The dialect in force when nothing else is chosen. -/
def standard : Dialect where
  marker := ['b', 'l', 'a', 't', 'e', 'x', ':']
  assignment := ['=']
  delimiters :=
    [⟨['"'], ['"'], by decide, by decide⟩,
     ⟨['('], [')'], by decide, by decide⟩,
     ⟨['\x7b'], ['\x7d'], by decide, by decide⟩,
     ⟨['\''], ['\''], by decide, by decide⟩,
     ⟨['@', '('], [')'], by decide, by decide⟩]
  ignoreCase := false

/-- Another marker.  With the empty one no directive is ever found. -/
def withMarker (dialect : Dialect) (marker : Text) : Dialect :=
  { dialect with marker := marker }

/-- Another assignment token.  With the empty one no directive has a value. -/
def withAssignment (dialect : Dialect) (assignment : Text) : Dialect :=
  { dialect with assignment := assignment }

/-- Other delimiters, in order of priority.  Pairs with an empty token are
left out. -/
def withDelimiters (dialect : Dialect) (pairs : List (Text × Text)) : Dialect :=
  { dialect with delimiters := pairs.filterMap fun pair => Delimiter.of? pair.1 pair.2 }

/-- Whether the ASCII letters of the marker match in either case. -/
def withIgnoreCase (dialect : Dialect) (ignoreCase : Bool) : Dialect :=
  { dialect with ignoreCase := ignoreCase }

/-! ## Tokens ahead of a cursor -/

/-- Whether a text is the marker, in a case that the dialect admits. -/
def isMarker (dialect : Dialect) (text : Text) : Bool :=
  text == dialect.marker ||
    dialect.ignoreCase && text.map Char.toLower == dialect.marker.map Char.toLower

/-- The place after the marker, if the marker lies ahead.  The empty marker is
found nowhere. -/
def afterMarker? (dialect : Dialect) (cursor : Cursor) : Option Cursor :=
  let head := cursor.rest.take dialect.marker.length
  if dialect.marker ≠ [] ∧ dialect.isMarker head = true then
    some ⟨cursor.offset + Text.width head, cursor.rest.drop dialect.marker.length⟩
  else none

/-- The place after the assignment token, if that lies ahead.  The empty token
is found nowhere. -/
def afterAssignment? (dialect : Dialect) (cursor : Cursor) : Option Cursor :=
  if dialect.assignment = [] then none else cursor.after? dialect.assignment

/-- The first delimiter, by priority, whose opening token lies ahead, with the
place after that token. -/
def opening? (dialect : Dialect) (cursor : Cursor) : Option (Delimiter × Cursor) :=
  dialect.delimiters.findSome? fun delimiter =>
    (cursor.after? delimiter.opening).map fun inside => (delimiter, inside)

/-- The first closing token, by priority, that lies ahead. -/
def closing? (dialect : Dialect) (cursor : Cursor) : Option Text :=
  (dialect.delimiters.map (·.closing)).find? (·.isPrefixOf cursor.rest)

theorem length_of_isMarker {dialect : Dialect} {text : Text}
    (same : dialect.isMarker text = true) : text.length = dialect.marker.length := by
  simp only [isMarker, Bool.or_eq_true, Bool.and_eq_true, beq_iff_eq] at same
  rcases same with same | ⟨_, same⟩
  · rw [same]
  · simpa using congrArg List.length same

theorem length_lt_of_afterMarker? {dialect : Dialect} {cursor next : Cursor}
    (found : dialect.afterMarker? cursor = some next) :
    next.rest.length < cursor.rest.length := by
  simp only [afterMarker?] at found
  split at found
  · next starts =>
      cases found
      have positive := List.length_pos_iff.mpr starts.1
      have headLength := length_of_isMarker starts.2
      rw [List.length_take] at headLength
      rw [List.length_drop]
      omega
  · cases found

theorem length_lt_of_afterAssignment? {dialect : Dialect} {cursor next : Cursor}
    (found : dialect.afterAssignment? cursor = some next) :
    next.rest.length < cursor.rest.length := by
  simp only [afterAssignment?] at found
  split at found
  · cases found
  · next nonempty => exact Cursor.length_lt_of_after? nonempty found

theorem opening?_eq_some {dialect : Dialect} {cursor inside : Cursor} {delimiter : Delimiter}
    (found : dialect.opening? cursor = some (delimiter, inside)) :
    delimiter ∈ dialect.delimiters ∧ cursor.after? delimiter.opening = some inside := by
  rcases List.exists_of_findSome?_eq_some found with ⟨candidate, member, follows⟩
  simp only [Option.map_eq_some_iff, Prod.mk.injEq] at follows
  rcases follows with ⟨_, follows, rfl, rfl⟩
  exact ⟨member, follows⟩

theorem length_lt_of_opening? {dialect : Dialect} {cursor inside : Cursor} {delimiter : Delimiter}
    (found : dialect.opening? cursor = some (delimiter, inside)) :
    inside.rest.length < cursor.rest.length :=
  Cursor.length_lt_of_after? delimiter.opening_ne_nil (opening?_eq_some found).2

end Dialect
end MarkupDirectives
