import MarkupDirectives.Command.Arguments
import MarkupDirectives.Settings.Decode
import MarkupDirectives.Toml.Document

namespace MarkupDirectives

/-!
# The formats of the program

The program reads its settings from TOML, its command from arguments, and writes
JSON as an array of objects over several lines.
-/

namespace Settings

def ofToml? (content : Text) : Option Settings := do
  ofDatum? .ignored (← Toml.parse? content)

/-- The settings of a TOML file, or the standard ones, with those of a command
applied. -/
def load (workspace : Workspace) (named : Option Text) (overrides : Option Overrides) :
    Except LoadError Settings :=
  loadBy ofToml? workspace named overrides

end Settings

/-! ## JSON -/

/-- A character as it stands in a JSON string.  Only what has to be is escaped. -/
def jsonChar (c : Char) : Text :=
  if c = '"' ∨ c = '\\' then ['\\', c]
  else if c = '\x08' then ['\\', 'b']
  else if c = '\x0c' then ['\\', 'f']
  else if c = '\n' then ['\\', 'n']
  else if c = '\r' then ['\\', 'r']
  else if c = '\t' then ['\\', 't']
  else if c.toNat < 0x20 then
    ['\\', 'u', '0', '0'] ++ [Nat.digitChar (c.toNat / 16), Nat.digitChar (c.toNat % 16)]
  else [c]

def jsonString (text : Text) : String :=
  String.ofList ('"' :: text.flatMap jsonChar ++ ['"'])

/-- Items of JSON, each on lines of its own between two brackets.  The closing
bracket has the given indentation, and the items stand one level deeper. -/
def jsonLines (opening closing indentation : String) (items : List String) : String :=
  match items with
  | [] => opening ++ closing
  | items =>
      let separator := "\n" ++ indentation ++ "  "
      opening ++ separator ++ String.intercalate ("," ++ separator) items ++
        "\n" ++ indentation ++ closing

def Entry.json (entry : Entry) : String :=
  let fields :=
    [("start", toString entry.span.start),
     ("end", toString entry.span.stop),
     ("line", toString entry.position.line),
     ("column", toString entry.position.column),
     ("text", jsonString entry.text),
     ("key", jsonString entry.directive.key),
     ("value", jsonString entry.directive.value)]
  jsonLines "\x7b" "\x7d" "  " (fields.map fun field => "\"" ++ field.1 ++ "\": " ++ field.2)

namespace Formats

def standard : Formats where
  readSettings? := Settings.ofToml?
  writeJson := fun entries => .ok (jsonLines "[" "]" "" (entries.map Entry.json))

end Formats

/-! ## Arguments -/

/-- How the commands are written. -/
def helpText : String :=
  "Usage: blatex scan [OPTIONS] <FILE>\n" ++
  "       blatex render [OPTIONS] <FILE>\n\n" ++
  "Commands:\n" ++
  "  scan    List the directives in a markup file\n" ++
  "  render  Replace directives by the configured fragments\n\n" ++
  "Options:\n" ++
  "  -c, --config <PATH>    Settings file\n" ++
  "      --prefix <PREFIX>  Directive marker, also from BLATEX_PREFIX\n" ++
  "      --ignore-case      Match the marker in either case\n" ++
  "  -v, --verbose          Accepted by both commands\n" ++
  "      --format <FORMAT>  Listing format of scan: text or json\n" ++
  "  -o, --output <PATH>    File that render writes\n" ++
  "  -h, --help             Print this text\n" ++
  "  -V, --version          Print the version\n"

def runArguments (arguments : List Text) (environmentMarker : Option Text)
    (workspace : Workspace) : Outcome :=
  match Invocation.ofArguments arguments environmentMarker with
  | .ok invocation => invocation.run .standard workspace
  | .error .help => ⟨0, helpText, "", workspace.tree⟩
  | .error .version => ⟨0, "blatex 0.3.2\n", "", workspace.tree⟩
  | .error .usage =>
      ⟨2, "", "error: the arguments were not understood\n\n" ++ helpText, workspace.tree⟩

end MarkupDirectives
