import MarkupDirectives.Files.Tree
import MarkupDirectives.Settings.Validate

namespace MarkupDirectives

/-!
# Loading settings

Settings come from the file that is named, or else from the nearest settings
file upwards, or else they are the standard ones.  They must be valid as they are
written, and again with what a command overrides.
-/

/-- Why settings could not be loaded. -/
inductive LoadError where
  /-- There is nothing at the path that was named. -/
  | noSuchFile (path : Text)
  | unreadable (error : FileError)
  /-- The text of the file does not say what settings are. -/
  | malformed
  | invalid (fault : SettingsFault)
  deriving DecidableEq

def LoadError.message : LoadError -> String
  | noSuchFile path => "Configuration file not found: " ++ String.ofList path
  | unreadable error => "I/O error: " ++ error.message
  | malformed => "TOML parse error"
  | invalid fault => "Configuration error: " ++ fault.message

def settingsFileName : Text := "blatex.toml".toList

namespace Settings

/-- The settings themselves if they are valid. -/
def validated (settings : Settings) : Except LoadError Settings :=
  match settings.fault? with
  | some fault => .error (.invalid fault)
  | none => .ok settings

/-- The paths at which a settings file may be found from a directory, the
nearest first. -/
def candidates (directory : Location) : List Text :=
  directory.upwards.map fun above => Location.path (above ++ [settingsFileName])

/-- The path of the nearest settings file. -/
def discover? (workspace : Workspace) : Option Text :=
  (candidates workspace.directory).find? workspace.contains

/-! What the text of a file means is decided by `read?`, and by nothing here. -/

/-- The settings in a file, which must be valid. -/
def ofFile (read? : Text -> Option Settings) (workspace : Workspace) (path : Text) :
    Except LoadError Settings :=
  match workspace.readText path with
  | .error error => .error (.unreadable error)
  | .ok content =>
      match read? content with
      | none => .error .malformed
      | some settings => validated { settings with source := some path }

/-- The settings of the source, before anything is applied to them. -/
def ofSource (read? : Text -> Option Settings) (workspace : Workspace) (named : Option Text) :
    Except LoadError Settings :=
  match named with
  | some path =>
      if workspace.contains path then ofFile read? workspace path else .error (.noSuchFile path)
  | none =>
      match discover? workspace with
      | some path => ofFile read? workspace path
      | none => .ok standard

/-- The settings of the source with those of a command applied. -/
def loadBy (read? : Text -> Option Settings) (workspace : Workspace) (named : Option Text)
    (overrides : Option Overrides) : Except LoadError Settings := do
  let settings ← ofSource read? workspace named
  match overrides with
  | some overrides => (settings.override overrides).validated
  | none => return settings

end Settings
end MarkupDirectives
