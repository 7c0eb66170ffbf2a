import MarkupDirectives.Datum

namespace MarkupDirectives
namespace Toml

/-!
# Tables under construction

What may still be added to a table depends on where it comes from: from a header
of its own, from the header of a table inside it, or from dotted keys.  Arrays and
tables written as values are complete.
-/

/-- Where a table comes from. -/
inductive Origin where
  /-- Its own header, or the document. -/
  | header
  /-- The header of a table inside it. -/
  | implied
  /-- A dotted key. -/
  | dotted
  deriving DecidableEq

/-- A value under construction. -/
inductive Node where
  /-- A complete value. -/
  | complete (datum : Datum)
  /-- A table to which more may be added. -/
  | table (origin : Origin) (entries : List (Text × Node))
  /-- An array of tables: those before the last, and the entries of the
  last. -/
  | tables (earlier : List Datum) (entries : List (Text × Node))

abbrev Entries := List (Text × Node)

namespace Node

mutual

def toDatum : Node -> Datum
  | complete datum => datum
  | table _ entries => .table (entriesToData entries)
  | tables earlier entries => .list (earlier ++ [.table (entriesToData entries)])

def entriesToData : List (Text × Node) -> List (Text × Datum)
  | [] => []
  | (key, node) :: rest => (key, node.toDatum) :: entriesToData rest

end

end Node

namespace Entries

def set (key : Text) (node : Node) : Entries -> Entries
  | [] => [(key, node)]
  | (other, old) :: rest =>
      if other = key then (key, node) :: rest else (other, old) :: set key node rest

/-- Change the table at the end of a path.  `through` tells whether the path
stands in a header or in a dotted key; tables that are missing on the way come
about by it, and dotted keys make every table on the way their own. -/
def changeAt (through : Origin) (change : Origin -> Entries -> Option Entries) :
    (path : List Text) -> Origin -> Entries -> Option Entries
  | [], origin, entries => change origin entries
  | key :: path, _, entries =>
      let missing := if through = .dotted then Origin.dotted else Origin.implied
      match entries.lookup key with
      | none => do
          let inner ← changeAt through change path missing []
          return set key (.table missing inner) entries
      | some (.table origin inner) => do
          guard ¬(through = .dotted ∧ origin = .header)
          let origin := if through = .dotted then Origin.dotted else origin
          let inner ← changeAt through change path origin inner
          return set key (.table origin inner) entries
      | some (.tables earlier inner) => do
          let inner ← changeAt through change path .header inner
          return set key (.tables earlier inner) entries
      | some (.complete _) => none

/-- Define a value under a dotted key, which is `path` and then `key`.  A key
with a path adds only to tables that came about through dotted keys, and one
without adds only to others. -/
def define (path : List Text) (key : Text) (datum : Datum) (origin : Origin)
    (entries : Entries) : Option Entries :=
  changeAt .dotted (fun origin inner => do
    guard ((origin = .dotted) ↔ path ≠ [])
    guard (inner.lookup key).isNone
    return set key (.complete datum) inner) path origin entries

def openTable (path : List Text) (key : Text) (entries : Entries) : Option Entries :=
  changeAt .header (fun _ inner =>
    match inner.lookup key with
    | none => some (set key (.table .header []) inner)
    | some (.table .implied old) => some (set key (.table .header old) inner)
    | some _ => none) path .header entries

def openElement (path : List Text) (key : Text) (entries : Entries) : Option Entries :=
  changeAt .header (fun _ inner =>
    match inner.lookup key with
    | none => some (set key (.tables [] []) inner)
    | some (.tables earlier last) =>
        some (set key (.tables (earlier ++ [.table (Node.entriesToData last)]) []) inner)
    | some _ => none) path .header entries

end Entries
end Toml
end MarkupDirectives
