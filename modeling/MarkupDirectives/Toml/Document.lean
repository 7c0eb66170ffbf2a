import MarkupDirectives.Toml.Value

namespace MarkupDirectives
namespace Toml

/-!
# Documents

A line may assign a value to a key, begin a table by a header in brackets, or
begin the next table of an array by a header in double brackets.
-/

/-- What a line says. -/
inductive Statement where
  | assign (path : List Text) (key : Text) (datum : Datum)
  | openTable (path : List Text) (key : Text)
  | openElement (path : List Text) (key : Text)

/-- A statement in front of a text. -/
def statement : Reader Statement
  | '[' :: '[' :: text => do
      let ((path, key), rest) ← dottedKey (skipBlanks text)
      let rest ← afterChar? ']' (skipBlanks rest)
      return (.openElement path key, ← afterChar? ']' rest)
  | '[' :: text => do
      let ((path, key), rest) ← dottedKey (skipBlanks text)
      return (.openTable path key, ← afterChar? ']' (skipBlanks rest))
  | text => do
      let (((path, key), datum), rest) ← assignment skipBlanks (value maxDepth) text
      return (.assign path key datum, rest)

/-- The text after the end of a line, which may be blanks and a comment before
a newline or the end of the document. -/
def afterLine? (text : Text) : Option Text :=
  match skipComment (skipBlanks text) with
  | [] => some []
  | rest => afterNewline? rest

/-- A line, or the end of the document. -/
def lineAhead? (text : Text) : Option (Ahead Statement) :=
  if text = [] then some (.done [])
  else
    match afterLine? text with
    | some rest => some (.part [] rest)
    | none => do
        let (read, rest) ← statement (skipBlanks text)
        return .part [read] (← afterLine? rest)

/-- The part of a document that has been read: the entries of its tables, and
the path of the table to which assignments belong. -/
structure Progress where
  entries : Entries
  current : List Text

/-- The document after one more statement, unless that is at odds with what
stands before it. -/
def Progress.add? (progress : Progress) : Statement -> Option Progress
  | .assign path key datum => do
      let entries ← Entries.changeAt .header (Entries.define path key datum)
        progress.current .header progress.entries
      return { progress with entries := entries }
  | .openTable path key => do
      return ⟨← Entries.openTable path key progress.entries, path ++ [key]⟩
  | .openElement path key => do
      return ⟨← Entries.openElement path key progress.entries, path ++ [key]⟩

/-- The data in a document, if it is valid.  A byte order mark at its front is
passed over. -/
def parse? (text : Text) : Option Datum := do
  let text := (text.after? [Char.ofNat 0xFEFF]).getD text
  let (statements, _) ← repeated lineAhead? text
  let progress ← statements.foldlM Progress.add? ⟨[], []⟩
  return .table (Node.entriesToData progress.entries)

end Toml
end MarkupDirectives
