import MarkupDirectives.Datum
import MarkupDirectives.Toml.Quoted

namespace MarkupDirectives
namespace Toml

/-!
# Numbers

A number is decimal, with a sign, a fraction or an exponent if need be, or has a
base and no sign.  Integers reach from −2¹²⁷ to below 2¹²⁸.

A number out of range has no value.  Two other texts have none either, and are
numbers nevertheless: the beginning of a based number without any digits, and an
integer with an underscore and other characters behind its digits.  Such a number
does no harm until its value is asked for.
-/

/-- The characters without the underscores, each of which must stand between
digits. -/
def ungrouped? (isDigit : Char -> Bool) : Text -> Option Text
  | [] => some []
  | '_' :: _ => none
  | [c] => some [c]
  | c :: '_' :: next :: rest =>
      if isDigit c && isDigit next then (ungrouped? isDigit (next :: rest)).map (c :: ·) else none
  | c :: next :: rest => (ungrouped? isDigit (next :: rest)).map (c :: ·)

def decimalValue (digits : Text) : Nat :=
  digits.foldl (fun value digit => value * 10 + (digit.toNat - '0'.toNat)) 0

/-- Whether a text begins with a minus sign, and the text after any sign. -/
def takeSign : Text -> Bool × Text
  | '-' :: rest => (true, rest)
  | '+' :: rest => (false, rest)
  | text => (false, text)

/-- Whether an integer of this sign and size is within range. -/
def integerInRange (negative : Bool) (size : Nat) : Bool :=
  if negative then size ≤ Nat.pow 2 127 else size < Nat.pow 2 128

/-- Whether `digits` times ten to the power of `exponent` is within the range
of double precision.  The power is only taken when the number of digits leaves
the matter open. -/
def floatInRange (digits : Nat) (exponent : Int) : Bool :=
  let magnitude := (Nat.toDigits 10 digits).length + exponent
  if digits = 0 ∨ magnitude < 300 then true
  else if 320 < magnitude then false
  else if 0 ≤ exponent then digits * Nat.pow 10 exponent.toNat < Nat.pow 2 1024 - Nat.pow 2 970
  else digits < (Nat.pow 2 1024 - Nat.pow 2 970) * Nat.pow 10 (-exponent).toNat

/-- The digits of a fraction after the point in front of a text, and the text
after them.  Without a point there are none. -/
def fraction? : Text -> Option (Text × Text)
  | '.' :: rest =>
      match rest.takeWhile Char.isDigit with
      | [] => none
      | digits => some (digits, rest.dropWhile Char.isDigit)
  | text => some ([], text)

/-- The value of the exponent that a text is.  Nothing is an exponent of
zero. -/
def exponent? : Text -> Option Int
  | [] => some 0
  | mark :: text =>
      let (negative, digits) := takeSign text
      if (mark = 'e' ∨ mark = 'E') ∧ digits ≠ [] ∧ digits.all Char.isDigit = true then
        some (if negative then -(decimalValue digits : Int) else decimalValue digits)
      else none

/-- A decimal number with a fraction or an exponent, its sign left out: whether
it has a value. -/
def float? (size : Text) : Option Bool := do
  let plain ← ungrouped? Char.isDigit size
  let whole := plain.takeWhile Char.isDigit
  guard (whole ≠ [] ∧ ¬(size.head? = some '0' ∧ 1 < whole.length))
  let (fraction, rest) ← fraction? (plain.dropWhile Char.isDigit)
  let exponent ← exponent? rest
  return floatInRange (decimalValue (whole ++ fraction)) (exponent - fraction.length)

/-- A decimal integer, its sign left out: whether it has a value. -/
def integer? (negative : Bool) (size : Text) : Option Bool := do
  guard ((size = ['0'] ∨ size.head? ≠ some '0') ∧ ' ' ∉ size)
  let plain ← ungrouped? isHexDigit size
  return plain.all Char.isDigit && integerInRange negative (decimalValue plain)

def decimal? (negative : Bool) (size : Text) : Option Bool :=
  let rest := size.dropWhile Char.isDigit
  if size = ['i', 'n', 'f'] ∨ size = ['n', 'a', 'n'] then some true
  else if rest.any ['.', 'e', 'E'].contains then float? size
  else if size ≠ [] ∧ (rest = [] ∨ rest.head? = some '_') then integer? negative size
  else none

def basedValue (base : Nat) (digits : Text) : Nat :=
  digits.foldl (fun value digit => value * base + hexValue [digit]) 0

/-- The digits of a based number: whether it has a value. -/
def based? (base : Nat) (isDigit : Char -> Bool) (digits : Text) : Option Bool := do
  let plain ← ungrouped? isDigit digits
  guard (plain.all isDigit = true)
  return plain ≠ [] && integerInRange false (basedValue base plain)

def number? : Text -> Option Bool
  | '0' :: 'x' :: digits => based? 16 isHexDigit digits
  | '0' :: 'o' :: digits => based? 8 (fun c => '0' ≤ c && c ≤ '7') digits
  | '0' :: 'b' :: digits => based? 2 (fun c => c == '0' || c == '1') digits
  | text => decimal? (takeSign text).1 (takeSign text).2

end Toml
end MarkupDirectives
