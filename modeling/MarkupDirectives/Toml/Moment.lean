import MarkupDirectives.Toml.Number

namespace MarkupDirectives
namespace Toml

/-!
# Dates and times

A date, a time of day, or a date with a time and perhaps an offset.  The day
must exist in the month.  Seconds may be left out, and the sixtieth is admitted
for leap seconds.
-/

/-- A number of exactly `count` decimal digits. -/
def fixedNumber (count : Nat) : Reader Nat := fun text =>
  let digits := text.take count
  if digits.length = count ∧ digits.all Char.isDigit = true then
    some (decimalValue digits, text.drop count)
  else none

def afterChar? (expected : Char) : Text -> Option Text
  | c :: rest => if c = expected then some rest else none
  | [] => none

def isLeapYear (year : Nat) : Bool :=
  (year % 4 == 0 && year % 100 != 0) || year % 400 == 0

def daysIn (year month : Nat) : Nat :=
  if month = 2 then if isLeapYear year then 29 else 28
  else if month = 4 ∨ month = 6 ∨ month = 9 ∨ month = 11 then 30
  else 31

def afterDate? (text : Text) : Option Text := do
  let (year, rest) ← fixedNumber 4 text
  let (month, rest) ← fixedNumber 2 (← afterChar? '-' rest)
  let (day, rest) ← fixedNumber 2 (← afterChar? '-' rest)
  guard (1 ≤ month ∧ month ≤ 12 ∧ 1 ≤ day ∧ day ≤ daysIn year month)
  return rest

/-- The text after a point and the digits of a fraction, if a point is in
front. -/
def afterFraction? : Text -> Option Text
  | '.' :: rest =>
      if rest.head?.any Char.isDigit then some (rest.dropWhile Char.isDigit) else none
  | text => some text

/-- The text after an hour and a minute. -/
def afterClock? (text : Text) : Option Text := do
  let (hour, rest) ← fixedNumber 2 text
  let (minute, rest) ← fixedNumber 2 (← afterChar? ':' rest)
  guard (hour ≤ 23 ∧ minute ≤ 59)
  return rest

/-- The text after a time of day. -/
def afterTime? (text : Text) : Option Text := do
  let rest ← afterClock? text
  match rest with
  | ':' :: rest =>
      let (second, rest) ← fixedNumber 2 rest
      guard (second ≤ 60)
      afterFraction? rest
  | _ => return rest

/-- Whether a text is an offset, or nothing. -/
def isOffset : Text -> Bool
  | [] => true
  | ['Z'] => true
  | ['z'] => true
  | '+' :: rest => afterClock? rest == some []
  | '-' :: rest => afterClock? rest == some []
  | _ => false

def isMoment (text : Text) : Bool :=
  match afterDate? text with
  | some [] => true
  | some (separator :: rest) =>
      ['T', 't', ' '].contains separator && (afterTime? rest).any isOffset
  | none => afterTime? text == some []

end Toml
end MarkupDirectives
