import MarkupDirectives.Datum
import MarkupDirectives.Settings.Basic

namespace MarkupDirectives

/-!
# Settings from configuration data

Settings are a table of directive settings, delimiters and templates.  What is
missing takes its standard value, and entries of other names are passed over.  A
group may also be written as a list of its values in their order.
-/

/-- What becomes of the items at the end of a list for which there is no
setting. -/
inductive Surplus where
  | refused
  | ignored
  deriving DecidableEq

/-- The values of a group of settings, in the order of `names`.  Each is absent
or given by the data. -/
def Datum.fields? (surplus : Surplus) (names : List Text) :
    Datum -> Option (List (Option Datum))
  | .table entries =>
      if entries.all fun entry => names.contains entry.1 || entry.2.readable then
        some (names.map fun name => entries.lookup name)
      else none
  | .list items =>
      if items.length ≤ names.length ∨ surplus = .ignored then
        some ((List.range names.length).map fun index => items[index]?)
      else none
  | _ => none

/-- A setting of its own or, if it is missing, the standard one. -/
def Datum.decodeOr {A : Type} (decode : Datum -> Option A) (fallback : A) :
    Option Datum -> Option A
  | some datum => decode datum
  | none => some fallback

def DirectiveSettings.ofDatum? (surplus : Surplus) (datum : Datum) : Option DirectiveSettings := do
  let names := ["prefix", "assignment", "case_insensitive_prefix"].map String.toList
  match ← datum.fields? surplus names with
  | [marker, assignment, ignoreCase] =>
      return {
        marker := ← Datum.decodeOr Datum.asText? standard.marker marker
        assignment := ← Datum.decodeOr Datum.asText? standard.assignment assignment
        ignoreCase := ← Datum.decodeOr Datum.asBoolean? standard.ignoreCase ignoreCase }
  | _ => none

namespace Settings

/-- The two tokens of a delimiter from data.  Neither may be missing. -/
def delimiterOfDatum? (surplus : Surplus) (datum : Datum) : Option (Text × Text) := do
  match ← datum.fields? surplus (["open", "close"].map String.toList) with
  | [some opening, some closing] => return (← opening.asText?, ← closing.asText?)
  | _ => none

/-- The list of delimiters from data, or none if it is expressly left out. -/
def delimitersOfDatum? (surplus : Surplus) : Datum -> Option (Option (List (Text × Text)))
  | .absent => some none
  | datum => do return some (← (← datum.asList?).mapM (delimiterOfDatum? surplus))

def templatesOfDatum? (datum : Datum) : Option (Std.TreeMap Text Text) := do
  let templates ← (← datum.asTable?).mapM fun entry => return (entry.1, ← entry.2.asText?)
  return Std.TreeMap.ofList templates

def ofDatum? (surplus : Surplus) (datum : Datum) : Option Settings := do
  let names := ["directive", "delimiters", "fragments"].map String.toList
  match ← datum.fields? surplus names with
  | [directive, delimiters, templates] =>
      return {
        directive :=
          ← Datum.decodeOr (DirectiveSettings.ofDatum? surplus) standard.directive directive
        delimiters := ← Datum.decodeOr (delimitersOfDatum? surplus) none delimiters
        templates := ← Datum.decodeOr templatesOfDatum? standard.templates templates
        source := none }
  | _ => none

end Settings
end MarkupDirectives
