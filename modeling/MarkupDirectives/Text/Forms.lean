import MarkupDirectives.Character.Casing
import MarkupDirectives.Character.Lowercase
import MarkupDirectives.Character.Printable
import MarkupDirectives.Text.Basic

namespace MarkupDirectives
namespace Text

/-!
# Forms of a text

The lowercase form, by which keys are compared, the form between quotes in
messages, and the form in HTML.
-/

/-! ## Lowercase -/

/-- Whether a cased character comes next, case ignorable ones passed over. -/
def casedAhead (text : Text) : Bool :=
  (text.dropWhile Character.isCaseIgnorable).head?.any Character.isCased

/-- The lowercase form of `text`, which stands behind the reverse of
`before`. -/
def lowercaseBehind (before : Text) : (text : Text) -> Text
  | [] => []
  | c :: rest =>
      let lowered :=
        if c = 'Σ' then
          if casedAhead before && !casedAhead rest then ['ς'] else ['σ']
        else Character.lowercase c
      lowered ++ lowercaseBehind (c :: before) rest

def lowercase (text : Text) : Text := lowercaseBehind [] text

/-! ## Quotes -/

/-- The code point of a character in braces, in lowercase hexadecimal digits
without leading zeros. -/
def codePointEscape (c : Char) : Text :=
  ['\\', 'u', '\x7b'] ++ Nat.toDigits 16 c.toNat ++ ['\x7d']

/-- A character as it stands inside double quotes. -/
def quotedChar (c : Char) : Text :=
  if c = '"' ∨ c = '\\' then ['\\', c]
  else if c = '\x00' then ['\\', '0']
  else if c = '\t' then ['\\', 't']
  else if c = '\r' then ['\\', 'r']
  else if c = '\n' then ['\\', 'n']
  else if Character.isVisible c then [c]
  else codePointEscape c

def quoted (text : Text) : String :=
  String.ofList ('"' :: text.flatMap quotedChar ++ ['"'])

/-! ## HTML -/

/-- A character as it stands in HTML. -/
def escapedChar : Char -> Text
  | '&' => ['&', 'a', 'm', 'p', ';']
  | '<' => ['&', 'l', 't', ';']
  | '>' => ['&', 'g', 't', ';']
  | '"' => ['&', 'q', 'u', 'o', 't', ';']
  | '\'' => ['&', '#', 'x', '2', '7', ';']
  | c => [c]

def escapeHtml (text : Text) : Text := text.flatMap escapedChar

theorem escapeHtml_append (left right : Text) :
    escapeHtml (left ++ right) = escapeHtml left ++ escapeHtml right :=
  List.flatMap_append

end Text
end MarkupDirectives
