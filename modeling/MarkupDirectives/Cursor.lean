import MarkupDirectives.Text.Basic

namespace MarkupDirectives

/-!
# Cursors

A cursor is a place in a text that is read from left to right.  All scanning goes
from cursor to cursor, so an offset is never computed apart from its text.
-/

/-- A place in a text: its offset, and what lies ahead of it. -/
structure Cursor where
  offset : Nat
  rest : Text
  deriving DecidableEq

namespace Cursor

def start (text : Text) : Cursor := ⟨0, text⟩

/-- The place after the longest run of accepted characters that lies ahead. -/
def skipWhile (cursor : Cursor) (accept : Char -> Bool) : Cursor :=
  ⟨cursor.offset + Text.width (cursor.rest.takeWhile accept), cursor.rest.dropWhile accept⟩

/-- The place after `token`, if the token lies ahead. -/
def after? (cursor : Cursor) (token : Text) : Option Cursor :=
  (cursor.rest.after? token).map fun rest => ⟨cursor.offset + Text.width token, rest⟩

theorem after?_eq_some_iff {cursor next : Cursor} {token : Text} :
    cursor.after? token = some next ↔
      cursor.rest = token ++ next.rest ∧ next.offset = cursor.offset + Text.width token := by
  rcases next with ⟨offset, rest⟩
  simp only [after?, Option.map_eq_some_iff, Text.after?_eq_some_iff, Cursor.mk.injEq]
  constructor
  · rintro ⟨_, ahead, rfl, rfl⟩
    exact ⟨ahead, rfl⟩
  · rintro ⟨ahead, rfl⟩
    exact ⟨rest, ahead, rfl, rfl⟩

theorem length_lt_of_after? {cursor next : Cursor} {token : Text} (nonempty : token ≠ [])
    (found : cursor.after? token = some next) : next.rest.length < cursor.rest.length := by
  rw [(after?_eq_some_iff.mp found).1, List.length_append]
  have := List.length_pos_iff.mpr nonempty
  omega

theorem length_skipWhile_le (cursor : Cursor) (accept : Char -> Bool) :
    (cursor.skipWhile accept).rest.length ≤ cursor.rest.length :=
  (List.dropWhile_sublist accept).length_le

end Cursor
end MarkupDirectives
