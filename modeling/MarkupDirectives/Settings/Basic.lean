import Std.Data.TreeMap
import MarkupDirectives.Fragment.Registry
import MarkupDirectives.Render.Segment

namespace MarkupDirectives

/-!
# Settings

The settings choose the dialect and give a template for every directive key.  A
list of delimiters, once given, replaces the standard one entirely.
-/

/-- How a directive begins and how its value is assigned. -/
structure DirectiveSettings where
  marker : Text
  assignment : Text
  ignoreCase : Bool

/-- A complete set of settings.  The keys of the templates are as written, not
in lowercase. -/
structure Settings where
  directive : DirectiveSettings
  delimiters : Option (List (Text × Text))
  templates : Std.TreeMap Text Text
  source : Option Text

def DirectiveSettings.standard : DirectiveSettings where
  marker := Dialect.standard.marker
  assignment := Dialect.standard.assignment
  ignoreCase := Dialect.standard.ignoreCase

namespace Settings

/-- The settings in force without a file: the standard dialect and no
templates. -/
def standard : Settings where
  directive := DirectiveSettings.standard
  delimiters := none
  templates := Std.TreeMap.empty
  source := none

def dialect (settings : Settings) : Dialect :=
  let base :=
    match settings.delimiters with
    | some pairs => Dialect.standard.withDelimiters pairs
    | none => Dialect.standard
  ((base.withMarker settings.directive.marker).withAssignment
    settings.directive.assignment).withIgnoreCase settings.directive.ignoreCase

end Settings

/-! ## Rendering by settings -/

namespace Settings

/-- Every directive is replaced by what the template of its key describes. -/
def renderer (settings : Settings) : Renderer Text where
  dialect := settings.dialect
  registry := Template.registry settings.dialect settings.templates.toList

/-- The text that markup becomes under the settings. -/
def renderMarkup (settings : Settings) (markup : Text) : Except RenderError Text :=
  settings.renderer.renderText id markup

end Settings

/-! ## Overrides -/

/-- Settings given with a command, which take precedence over a file. -/
structure Overrides where
  marker : Option Text
  ignoreCase : Option Bool

/-- The settings with those of the command in place of their own. -/
def Settings.override (settings : Settings) (overrides : Overrides) : Settings :=
  { settings with
    directive :=
      { settings.directive with
        marker := overrides.marker.getD settings.directive.marker
        ignoreCase := overrides.ignoreCase.getD settings.directive.ignoreCase } }

end MarkupDirectives
