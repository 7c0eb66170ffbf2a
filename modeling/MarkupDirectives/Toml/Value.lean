import MarkupDirectives.Toml.Moment
import MarkupDirectives.Toml.Table

namespace MarkupDirectives
namespace Toml

/-!
# Keys and values

Arrays and inline tables may be nested in one another up to a fixed depth.  An
assignment of its own stands on one line, but in an inline table newlines and
comments may stand around the equals sign.
-/

/-- Whether a character may be part of a key that is not a string. -/
def isKeyChar (c : Char) : Bool := c.isAlphanum || c == '_' || c == '-'

def simpleKey : Reader Text := fun text =>
  if text.head? = some '"' ∨ text.head? = some '\'' then lineString text
  else
    match text.takeWhile isKeyChar with
    | [] => none
    | word => some (word, text.dropWhile isKeyChar)

def maxKeyParts : Nat := 80

/-- A key, as the path of all parts but the last, and the last. -/
def dottedKey : Reader (List Text × Text) := fun text => do
  let (first, rest) ← simpleKey text
  let (later, rest) ← repeated (fun text =>
    match skipBlanks text with
    | '.' :: rest => (simpleKey (skipBlanks rest)).map fun read => .part [read.1] read.2
    | _ => some (.done text)) rest
  guard (later.length < maxKeyParts)
  match (first :: later).reverse with
  | [] => none
  | last :: path => return ((path.reverse, last), rest)

/-- A key and what it is given, by a reader of values.  On both sides of the
equals sign may stand whatever `skipGap` passes over. -/
def assignment (skipGap : Text -> Text) (value : Reader Datum) :
    Reader ((List Text × Text) × Datum) := fun text => do
  let (key, rest) ← dottedKey text
  let rest ← afterChar? '=' (skipGap rest)
  let (datum, rest) ← value (skipGap rest)
  return ((key, datum), rest)

/-- Items with commas between them and perhaps after them, up to a closing
bracket.  Blanks, newlines and comments may stand anywhere between them. -/
def listed {A : Type} (item : Reader A) (closing : Char) : Reader (List A) :=
  repeated fun text => do
    let text := skipFiller false text
    match afterChar? closing text with
    | some rest => return .done rest
    | none =>
        let (read, rest) ← item text
        let rest := skipFiller false rest
        match rest with
        | ',' :: later => return .part [read] later
        | c :: _ => if c = closing then return .part [read] rest else none
        | [] => none

/-- Whether a character belongs to a word: any but white space and the
characters that divide values. -/
def isWordChar (c : Char) : Bool :=
  not (['=', ',', '[', ']', '\x7b', '\x7d', '#', ' ', '\t', '\r', '\n'].contains c)

/-- Whether a word comes next after any blanks.  In front of one a quotation
mark begins a string instead. -/
def wordFollows (text : Text) : Bool :=
  (skipBlanks text).head?.any fun c => isWordChar c && c != '"' && c != '\''

/-- The unquoted value in front of a text: words with blanks between them, such
as a date and a time. -/
def unquoted : Text -> Text × Text
  | [] => ([], [])
  | c :: rest =>
      if isWordChar c || (isBlank c && wordFollows rest) then
        let (later, rest) := unquoted rest
        (c :: later, rest)
      else ([], c :: rest)

/-- The key under which a date or a time stands, as the only entry of a table,
in configuration data. -/
def momentKey : Text := "$__toml_private_datetime".toList

/-- The datum that an unquoted value is. -/
def unquotedDatum? (text : Text) : Option Datum :=
  if text = ['t', 'r', 'u', 'e'] then some (.boolean true)
  else if text = ['f', 'a', 'l', 's', 'e'] then some (.boolean false)
  else if isMoment text then some (.table [(momentKey, .text text)])
  else (number? text).map .number

def scalar : Reader Datum := fun text =>
  if text.head? = some '"' ∨ text.head? = some '\'' then
    (string text).map fun read => (.text read.1, read.2)
  else
    let (value, rest) := unquoted text
    (unquotedDatum? value).map fun datum => (datum, rest)

/-- The inline table with the given assignments. -/
def inlineTable? (assignments : List ((List Text × Text) × Datum)) : Option Datum :=
  (assignments.foldlM (fun entries assigned =>
    Entries.define assigned.1.1 assigned.1.2 assigned.2 .header entries) []).map fun entries =>
      .table (Node.entriesToData entries)

/-- A value in which arrays and inline tables are nested at most `depth`
deep. -/
def value : (depth : Nat) -> Reader Datum
  | 0, text => if text.head? = some '[' ∨ text.head? = some '\x7b' then none else scalar text
  | depth + 1, text =>
      match text with
      | '[' :: rest =>
          (listed (value depth) ']' rest).map fun read => (.list read.1, read.2)
      | '\x7b' :: rest => do
          let (assignments, rest) ← listed (assignment (skipFiller false) (value depth)) '\x7d' rest
          return (← inlineTable? assignments, rest)
      | _ => scalar text

def maxDepth : Nat := 80

end Toml
end MarkupDirectives
