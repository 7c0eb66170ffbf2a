import MarkupDirectives.Directive

namespace MarkupDirectives

/-!
# Locating directives

The search for the next marker goes on where the last directive ended, and the
first malformed directive ends it.  A `Locator` is the state of such a search;
`Dialect.locate` takes all of its items.
-/

/-- The part of a text from offset `start` up to offset `stop`. -/
structure Span where
  start : Nat
  stop : Nat
  deriving DecidableEq

namespace Span

/-- The number of bytes in the span, if its ends are in order. -/
def length? (span : Span) : Option Nat :=
  if span.start ≤ span.stop then some (span.stop - span.start) else none

def isEmpty (span : Span) : Bool := span.start == span.stop

/-- The text that the span covers; nothing if the span does not fit the
text. -/
def text (span : Span) (markup : Text) : Text :=
  (markup.slice? span.start span.stop).getD []

end Span

/-- The next place at which a marker begins, and the place after that
marker. -/
def Dialect.findMarker? (dialect : Dialect) (offset : Nat) : Text -> Option (Nat × Cursor)
  | [] => none
  | c :: rest =>
      match dialect.afterMarker? ⟨offset, c :: rest⟩ with
      | some marked => some (offset, marked)
      | none => dialect.findMarker? (offset + c.utf8Size) rest

theorem Dialect.length_lt_of_findMarker? {dialect : Dialect} {offset start : Nat} {rest : Text}
    {marked : Cursor} (found : dialect.findMarker? offset rest = some (start, marked)) :
    marked.rest.length < rest.length := by
  induction rest generalizing offset with
  | nil => cases found
  | cons c rest inductionHypothesis =>
      rw [findMarker?] at found
      split at found
      · next follows =>
          cases found
          exact length_lt_of_afterMarker? follows
      · exact Nat.lt_succ_of_lt (inductionHypothesis found)

/-- What a search finds: a directive, or the error that ends the search. -/
abbrev Finding := Except SyntaxError Span

/-- The state of a search: where it goes on, unless it has ended. -/
structure Locator where
  dialect : Dialect
  cursor : Cursor
  finished : Bool

namespace Locator

def start (dialect : Dialect) (markup : Text) : Locator := ⟨dialect, Cursor.start markup, false⟩

/-- The next item and the state after it.  Once there is none there will be no
other. -/
def next (locator : Locator) : Option Finding × Locator :=
  if locator.finished then (none, locator)
  else
    match locator.dialect.findMarker? locator.cursor.offset locator.cursor.rest with
    | none => (none, { locator with finished := true })
    | some (start, marked) =>
        match locator.dialect.scanDirective marked with
        | .ok stop => (some (.ok ⟨start, stop.offset⟩), { locator with cursor := stop })
        | .error error => (some (.error error), { locator with finished := true })

/-- What bounds the number of items still to come: the characters ahead, and
one for noticing the end. -/
def remaining (locator : Locator) : Nat :=
  if locator.finished then 0 else locator.cursor.rest.length + 1

theorem remaining_lt_of_next {locator later : Locator} {item : Finding}
    (taken : locator.next = (some item, later)) : later.remaining < locator.remaining := by
  simp only [next] at taken
  split at taken
  · cases taken
  · next running =>
      split at taken
      · cases taken
      · next found =>
          have marked := Dialect.length_lt_of_findMarker? found
          split at taken <;> cases taken
          · next scanned =>
              have stopped := Dialect.length_le_of_scanDirective scanned
              simp only [remaining, if_neg running]
              omega
          · simp only [remaining, if_neg running, if_true]
            omega

def items (locator : Locator) : List Finding :=
  match _ : locator.next with
  | (none, _) => []
  | (some item, later) => item :: later.items
termination_by locator.remaining
decreasing_by exact remaining_lt_of_next ‹_›

/-- The item after `skipped` others, if the search goes on as long as that. -/
def nth (locator : Locator) : (skipped : Nat) -> Option Finding × Locator
  | 0 => locator.next
  | skipped + 1 =>
      match locator.next with
      | (none, later) => (none, later)
      | (some _, later) => later.nth skipped

end Locator

/-- Everything that a search for directives finds in a text, in order. -/
def Dialect.locate (dialect : Dialect) (markup : Text) : List Finding :=
  (Locator.start dialect markup).items

end MarkupDirectives
