import MarkupDirectives.Render.Segment

namespace MarkupDirectives

/-!
# Listings of directives

A listing shows each directive with its place by line and column, both counted
from one, its text, and the key and value in it.  Columns count characters.
-/

/-! ## Places -/

/-- A place in a text by line and column. -/
structure Position where
  line : Nat
  column : Nat
  deriving DecidableEq

namespace Position

def first : Position := ⟨1, 1⟩

/-- The place after a character. -/
def past (position : Position) (c : Char) : Position :=
  if c = '\n' then ⟨position.line + 1, 1⟩ else ⟨position.line, position.column + 1⟩

/-- The place of an offset. -/
def ofOffset (text : Text) (offset : Nat) : Position :=
  (text.takeWithin offset).foldl past first

end Position

/-! ## Entries -/

/-- One directive in a listing. -/
structure Entry where
  span : Span
  position : Position
  text : Text
  directive : Directive
  deriving DecidableEq

namespace Dialect

def entry (dialect : Dialect) (markup : Text) (span : Span) : Entry :=
  let text := span.text markup
  ⟨span, Position.ofOffset markup span.start, text, dialect.split text⟩

def scan (dialect : Dialect) (markup : Text) : Except SyntaxError (List Entry) :=
  (dialect.locate markup).mapM fun finding => finding.map (dialect.entry markup)

end Dialect

/-- The error in words, with the file and, if it has one, the place in the
file's text. -/
def RenderError.messageIn (path : String) (markup : Text) (error : RenderError) : String :=
  match error with
  | malformed reason =>
      let place := Position.ofOffset markup reason.position
      s!"{path}:{place.line}:{place.column}: {error.message}"
  | unhandled _ => s!"{path}: {error.message}"

inductive ListingFormat where
  | text
  | json
  deriving DecidableEq

namespace Entry

/-- The line for a directive. -/
def line (entry : Entry) : String :=
  s!"{entry.position.line}:{entry.position.column}\t" ++
    s!"{entry.span.start}..{entry.span.stop}\t{String.ofList entry.text}\n"

end Entry

end MarkupDirectives
