import MarkupDirectives.Character.Classes
import MarkupDirectives.Settings.Basic
import MarkupDirectives.Text.Forms

namespace MarkupDirectives

/-!
# Validation of settings

Settings are valid if every part of them can take effect.  The first fault, in the
order of these checks, is reported.
-/

/-- What is wrong with a set of settings. -/
inductive SettingsFault where
  | emptyMarker
  | emptyAssignment
  | markerStartsBlank
  | noDelimiters
  | emptyOpening (index : Nat)
  | emptyClosing (index : Nat)
  /-- No directive can have this key. -/
  | unusableKey (key : Text)
  /-- Both keys name the same directive. -/
  | sameKey (key earlier : Text)
  deriving DecidableEq

namespace SettingsFault

def message : SettingsFault -> String
  | emptyMarker => "directive.prefix cannot be empty"
  | emptyAssignment => "directive.assignment cannot be empty"
  | markerStartsBlank => "directive.prefix cannot start with whitespace"
  | noDelimiters => "delimiters list cannot be empty (omit it to use the defaults)"
  | emptyOpening index => s!"delimiters[{index}].open cannot be empty"
  | emptyClosing index => s!"delimiters[{index}].close cannot be empty"
  | unusableKey key =>
      "fragments." ++ String.ofList key ++
        ": key must contain only letters, digits, '-' or '_'"
  | sameKey key earlier =>
      "fragments." ++ String.ofList key ++ " and fragments." ++ String.ofList earlier ++
        " differ only in case"

end SettingsFault

def DirectiveSettings.fault? (directive : DirectiveSettings) : Option SettingsFault :=
  if directive.marker = [] then some .emptyMarker
  else if directive.assignment = [] then some .emptyAssignment
  else if directive.marker.head?.any Character.isWhitespace then some .markerStartsBlank
  else none

namespace Settings

/-- The first empty token in a list of delimiters, which are numbered from
`index`. -/
def delimiterFault? (index : Nat) : List (Text × Text) -> Option SettingsFault
  | [] => none
  | (opening, closing) :: rest =>
      if opening = [] then some (.emptyOpening index)
      else if closing = [] then some (.emptyClosing index)
      else delimiterFault? (index + 1) rest

/-- Whether a character may stand in the key of a template. -/
def isKeyCharacter (c : Char) : Bool :=
  Character.isAlphanumeric c || c == '-' || c == '_'

/-- The first key that no directive can have, or that has the lowercase form
of a key before it. -/
def keyFault? (earlier : List Text) : List Text -> Option SettingsFault
  | [] => none
  | key :: rest =>
      if key = [] ∨ key.all isKeyCharacter = false then some (.unusableKey key)
      else
        match earlier.find? fun other => other.lowercase == key.lowercase with
        | some other => some (.sameKey key other)
        | none => keyFault? (key :: earlier) rest

def fault? (settings : Settings) : Option SettingsFault :=
  settings.directive.fault? <|>
  (match settings.delimiters with
    | none => none
    | some [] => some .noDelimiters
    | some pairs => delimiterFault? 0 pairs) <|>
  keyFault? [] settings.templates.keys

end Settings
end MarkupDirectives
