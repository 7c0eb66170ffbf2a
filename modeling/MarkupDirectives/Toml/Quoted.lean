import MarkupDirectives.Toml.Reading

namespace MarkupDirectives
namespace Toml

/-!
# Strings

Between double quotes a backslash begins an escape; between single quotes every
character stands for itself.  With three quotes at both ends a string may extend
over several lines, and have up to two quotes directly before the three.
-/

def hexValue (digits : Text) : Nat :=
  digits.foldl (fun value digit =>
    value * 16 +
      (if digit.isDigit then digit.toNat - '0'.toNat else digit.toLower.toNat - 'a'.toNat + 10)) 0

def isHexDigit (c : Char) : Bool :=
  c.isDigit || ('a' ≤ c && c ≤ 'f') || ('A' ≤ c && c ≤ 'F')

/-- The character whose code point is given by `count` hexadecimal digits.
Code points of surrogates are refused. -/
def codePoint (count : Nat) : Reader Char := fun text =>
  let digits := text.take count
  if digits.length = count ∧ digits.all isHexDigit = true ∧ (hexValue digits).isValidChar then
    some (Char.ofNat (hexValue digits), text.drop count)
  else none

/-- The character for which an escape stands, its backslash having been
read. -/
def escaped : Reader Char
  | 'b' :: rest => some ('\x08', rest)
  | 't' :: rest => some ('\t', rest)
  | 'n' :: rest => some ('\n', rest)
  | 'f' :: rest => some ('\x0c', rest)
  | 'r' :: rest => some ('\r', rest)
  | 'e' :: rest => some ('\x1b', rest)
  | '"' :: rest => some ('"', rest)
  | '\\' :: rest => some ('\\', rest)
  | 'x' :: rest => codePoint 2 rest
  | 'u' :: rest => codePoint 4 rest
  | 'U' :: rest => codePoint 8 rest
  | _ => none

/-- A character between double quotes, or the quote at the end. -/
def basicAhead : Text -> Option (Ahead Char)
  | '"' :: rest => some (.done rest)
  | '\\' :: rest => (escaped rest).map fun read => .part [read.1] read.2
  | c :: rest => if isPlain c then some (.part [c] rest) else none
  | [] => none

def literalAhead : Text -> Option (Ahead Char)
  | '\'' :: rest => some (.done rest)
  | c :: rest => if isPlain c then some (.part [c] rest) else none
  | [] => none

/-- What may stand anywhere in a string of several lines: a newline, which is
kept as it is written, or a plain character. -/
def lineAhead (text : Text) : Option (Ahead Char) :=
  match afterNewline? text, text with
  | some rest, _ => some (.part (text.take (text.length - rest.length)) rest)
  | none, c :: rest => if isPlain c then some (.part [c] rest) else none
  | none, [] => none

/-- A quote inside a string of several lines, or the three at its end. -/
def quotesAhead (quote : Char) (text : Text) : Option (Ahead Char) :=
  let count := (text.takeWhile (· == quote)).length
  if 5 < count then none
  else if count = 3 then some (.done (text.drop 3))
  else some (.part [quote] (text.drop 1))

/-- A character between three double quotes.  A backslash at the end of a line
joins the lines, and all blanks and newlines after it are left out. -/
def basicLinesAhead : Text -> Option (Ahead Char)
  | '\\' :: rest =>
      match afterNewline? (skipBlanks rest) with
      | some later => some (.part [] (skipBlankLines later))
      | none => (escaped rest).map fun read => .part [read.1] read.2
  | text => if text.head? = some '"' then quotesAhead '"' text else lineAhead text

def literalLinesAhead (text : Text) : Option (Ahead Char) :=
  if text.head? = some '\'' then quotesAhead '\'' text else lineAhead text

/-- The text without a newline directly at its front. -/
def skipFirstNewline (text : Text) : Text := (afterNewline? text).getD text

def lineString : Reader Text
  | '"' :: rest => repeated basicAhead rest
  | '\'' :: rest => repeated literalAhead rest
  | _ => none

def string : Reader Text
  | '"' :: '"' :: '"' :: rest => repeated basicLinesAhead (skipFirstNewline rest)
  | '\'' :: '\'' :: '\'' :: rest => repeated literalLinesAhead (skipFirstNewline rest)
  | text => lineString text

end Toml
end MarkupDirectives
