import MarkupDirectives.Text.Basic

namespace MarkupDirectives

/-!
# Configuration data

Settings are read from texts, truth values, numbers, lists and tables.  No
setting is a number, so all that is kept of one is whether it has a value at all.
-/

/-- A value in configuration data.  The keys of a table are distinct. -/
inductive Datum where
  | text (value : Text)
  | boolean (value : Bool)
  /-- A number; `readable` says whether it has a value. -/
  | number (readable : Bool)
  /-- A value that is expressly left out. -/
  | absent
  | list (items : List Datum)
  | table (entries : List (Text × Datum))
  deriving Inhabited

namespace Datum

mutual

/-- Whether every number in a datum has a value. -/
def readable : Datum -> Bool
  | text _ => true
  | boolean _ => true
  | number readable => readable
  | absent => true
  | list items => readableItems items
  | table entries => readableEntries entries

def readableItems : List Datum -> Bool
  | [] => true
  | item :: rest => item.readable && readableItems rest

def readableEntries : List (Text × Datum) -> Bool
  | [] => true
  | (_, value) :: rest => value.readable && readableEntries rest

end

def asText? : Datum -> Option Text
  | text value => some value
  | _ => none

def asBoolean? : Datum -> Option Bool
  | boolean value => some value
  | _ => none

def asList? : Datum -> Option (List Datum)
  | list items => some items
  | _ => none

def asTable? : Datum -> Option (List (Text × Datum))
  | table entries => some entries
  | _ => none

end Datum
end MarkupDirectives
