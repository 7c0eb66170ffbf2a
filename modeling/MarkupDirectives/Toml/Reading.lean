import MarkupDirectives.Text.Basic

namespace MarkupDirectives
namespace Toml

/-!
# Reading from the front of a text

A reader takes something from the front of a text and leaves the rest, or fails.
`repeated` is the loop for parts of one kind, which must use up some text.
-/

/-- Takes an `A` from the front of a text. -/
abbrev Reader (A : Type) := Text -> Option (A × Text)

/-- What is in front of a text while parts are being read. -/
inductive Ahead (A : Type) where
  /-- No further part; the text goes on with `rest`. -/
  | done (rest : Text)
  /-- A part that contributes `items`, before `rest`. -/
  | part (items : List A) (rest : Text)

/-- The items of all parts, read one after the other. -/
def repeated {A : Type} (ahead : Text -> Option (Ahead A)) (text : Text) :
    Option (List A × Text) :=
  match ahead text with
  | none => none
  | some (.done rest) => some ([], rest)
  | some (.part items rest) =>
      if rest.length < text.length then
        (repeated ahead rest).map fun later => (items ++ later.1, later.2)
      else none
termination_by text.length

/-- Spaces and tabs separate what stands on one line. -/
def isBlank (c : Char) : Bool := c == ' ' || c == '\t'

def skipBlanks (text : Text) : Text := text.dropWhile isBlank

/-- Whether a character may stand for itself in a comment or a string: any but
the controls, of which only the tab may. -/
def isPlain (c : Char) : Bool := c == '\t' || (0x20 ≤ c.toNat && c.toNat != 0x7F)

/-- The text after a newline.  A carriage return is part of a newline or of
nothing. -/
def afterNewline? : Text -> Option Text
  | '\n' :: rest => some rest
  | '\r' :: '\n' :: rest => some rest
  | _ => none

def skipBlankLines : Text -> Text
  | '\r' :: '\n' :: rest => skipBlankLines rest
  | c :: rest => if c == '\n' || isBlank c then skipBlankLines rest else c :: rest
  | [] => []

/-- The text after a comment, if one is in front of it. -/
def skipComment : Text -> Text
  | '#' :: rest => rest.dropWhile isPlain
  | text => text

/-- The text after any blanks, newlines and comments in front of it; with
`inComment` it begins inside a comment. -/
def skipFiller (inComment : Bool) : Text -> Text
  | '\r' :: '\n' :: rest => skipFiller false rest
  | c :: rest =>
      if c = '\n' then skipFiller false rest
      else if inComment then
        if isPlain c then skipFiller true rest else c :: rest
      else if isBlank c then skipFiller false rest
      else if c = '#' then skipFiller true rest
      else c :: rest
  | [] => []

end Toml
end MarkupDirectives
