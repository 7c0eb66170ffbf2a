import Std.Data.TreeMap
import MarkupDirectives.Scope
import MarkupDirectives.Text.Forms

namespace MarkupDirectives

/-!
# Fragments

A factory makes the fragment that takes the place of a directive.  A registry
says which factory serves which key, and compares keys by their lowercase form.
-/

/-- How the fragment for a directive is made. -/
inductive Factory (F : Type) where
  /-- The value makes no difference. -/
  | constant (fragment : F)
  /-- The fragment depends on the value, which is empty if there is none. -/
  | ofValue (make : Text -> F)

/-- The fragment for a directive with the given value. -/
def Factory.invoke {F : Type} : Factory F -> (value : Text) -> F
  | constant fragment, _ => fragment
  | ofValue make, value => make value

/-- Factories by the lowercase forms of their keys. -/
structure Registry (F : Type) where
  factories : Std.TreeMap Text (Factory F)

namespace Registry

variable {F : Type}

def empty : Registry F := ⟨Std.TreeMap.empty⟩

/-- Register a factory, in place of any other for the same key. -/
def insert (registry : Registry F) (key : Text) (factory : Factory F) : Registry F :=
  ⟨registry.factories.insert key.lowercase factory⟩

def get? (registry : Registry F) (key : Text) : Option (Factory F) :=
  registry.factories[key.lowercase]?

def contains (registry : Registry F) (key : Text) : Bool :=
  registry.factories.contains key.lowercase

/-- The registered keys in lowercase, in ascending order. -/
def keys (registry : Registry F) : List Text := registry.factories.keys

def size (registry : Registry F) : Nat := registry.factories.size

def isEmpty (registry : Registry F) : Bool := registry.factories.isEmpty

/-- A registry in a message: its keys between quotes, in ascending order. -/
def description (registry : Registry F) : String :=
  "FragmentRegistry \x7b keys: [" ++ String.intercalate ", " (registry.keys.map Text.quoted) ++
  "] \x7d"

/-- Register factories from the first to the last. -/
def ofList (entries : List (Text × Factory F)) : Registry F :=
  entries.foldl (fun registry entry => registry.insert entry.1 entry.2) empty

/-- Keys of equal lowercase form share the factory registered last. -/
theorem get?_insert (registry : Registry F) (key other : Text) (factory : Factory F) :
    (registry.insert key factory).get? other =
      if key.lowercase = other.lowercase then some factory else registry.get? other := by
  simp only [get?, insert, Std.TreeMap.getElem?_insert, Std.LawfulEqCmp.compare_eq_iff_eq]

theorem contains_eq_isSome_get? (registry : Registry F) (key : Text) :
    registry.contains key = (registry.get? key).isSome := by
  simp [contains, get?]

end Registry

/-! ## Templates

A template is a text with places for the value of a directive, each written
`{value}`.  They are found before any value is known. -/

namespace Template

/-- How the place for the value is written. -/
def placeholder : Text := ['\x7b', 'v', 'a', 'l', 'u', 'e', '\x7d']

theorem placeholder_ne_nil : placeholder ≠ [] := by decide

/-- The texts around the places for the value, from left to right. -/
def pieces (template : Text) : List Text :=
  match _ : template.splitOnce? placeholder with
  | none => [template]
  | some (before, rest) => before :: pieces rest
termination_by template.length
decreasing_by exact Text.length_lt_of_splitOnce? placeholder_ne_nil ‹_›

/-- The template with every place filled by the same text. -/
def fill (template filling : Text) : Text := filling.intercalate (pieces template)

/-- Whether a template has a place for the value. -/
def takesValue (template : Text) : Bool := (template.splitOnce? placeholder).isSome

/-- The factory that a template describes.  Without a place for the value the
value makes no difference. -/
def factory (dialect : Dialect) (template : Text) : Factory Text :=
  if takesValue template then
    .ofValue fun value => fill template (dialect.stripDelimiters value).escapeHtml
  else .constant template

def registry (dialect : Dialect) (templates : List (Text × Text)) : Registry Text :=
  Registry.ofList (templates.map fun entry => (entry.1, factory dialect entry.2))

end Template
end MarkupDirectives
