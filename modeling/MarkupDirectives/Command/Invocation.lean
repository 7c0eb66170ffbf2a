import MarkupDirectives.Listing
import MarkupDirectives.Settings.Load

namespace MarkupDirectives

/-!
# Commands

A command lists the directives in a file or renders it.  It acts step by step on
its two output streams and on the files, and a step that fails ends it.
-/

/-- What is to be done with a file. -/
inductive Task where
  /-- List its directives. -/
  | scan (format : ListingFormat)
  /-- Render it, into another file if one is named. -/
  | render (output : Option Text)

/-- A command with everything that was given with it. -/
structure Invocation where
  task : Task
  file : Text
  config : Option Text
  /-- A marker from the arguments or from the environment. -/
  marker : Option Text
  ignoreCase : Bool
  verbose : Bool

/-- The formats that a command relies on: what a text says of settings, and how
a listing is written as JSON. -/
structure Formats where
  readSettings? : Text -> Option Settings
  writeJson : List Entry -> Except String String

/-- Why a command fails. -/
inductive CommandError where
  | settings (error : LoadError)
  | file (error : FileError)
  | listing (reason : String)
  /-- A directive in the text of a file cannot be listed or rendered. -/
  | directive (path markup : Text) (error : RenderError)

def CommandError.message : CommandError -> String
  | settings error => error.message
  | file error => error.message
  | listing reason => reason
  | directive path markup error => error.messageIn (String.ofList path) markup

/-! ## Actions -/

/-- What has been written to the two streams, and the files as they are now. -/
structure CommandState where
  stdout : String
  stderr : String
  workspace : Workspace

/-- What a command does.  A failure keeps the state in which it occurs. -/
abbrev CommandAction (A : Type) := ExceptT CommandError (StateM CommandState) A

namespace CommandAction

/-- What comes of an action, and the state in which it ends. -/
def result {A : Type} (action : CommandAction A) (state : CommandState) :
    Except CommandError A × CommandState :=
  action.run.run state

/-- Write lines to the error stream. -/
def report (lines : List String) : CommandAction Unit :=
  modify fun state =>
    { state with stderr := state.stderr ++ String.join (lines.map fun line => line ++ "\n") }

/-- Write to the output stream. -/
def emit (text : String) : CommandAction Unit :=
  modify fun state => { state with stdout := state.stdout ++ text }

/-- Go on with a result, or fail with its error. -/
def ofExcept {A E : Type} (wrap : E -> CommandError) : Except E A -> CommandAction A
  | .ok value => pure value
  | .error error => throw (wrap error)

def readFile (path : Text) : CommandAction Text := do
  ofExcept .file ((← get).workspace.readText path)

/-- A text is written to a file as a whole, or it is not written. -/
def writeFile (path text : Text) : CommandAction Unit := do
  let state ← get
  let tree ← ofExcept .file (state.workspace.writeText path text)
  set { state with workspace := { state.workspace with tree := tree } }

end CommandAction

namespace Invocation

open CommandAction

/-- The file that the command is to write, if any. -/
def output? (invocation : Invocation) : Option Text :=
  match invocation.task with
  | .scan _ => none
  | .render output => output

/-- The settings that the command overrides. -/
def overrides (invocation : Invocation) : Overrides :=
  ⟨invocation.marker, if invocation.ignoreCase then some true else none⟩

/-- What is reported of settings when they have been loaded. -/
def sourceReports (settings : Settings) : List String :=
  match settings.source with
  | some path => [s!"Using config: {String.ofList path}"]
  | none => []

/-- What is reported of settings under which no directive can be rendered. -/
def templateReports (settings : Settings) : List String :=
  if settings.templates.isEmpty then
    ["No [fragments] configured: any directive will be unhandled"]
  else
    []

/-- The settings, and the text of the file. -/
def input (invocation : Invocation) (formats : Formats) : CommandAction (Settings × Text) := do
  let workspace := (← get).workspace
  let settings ← ofExcept .settings
    (Settings.loadBy formats.readSettings? workspace invocation.config (some invocation.overrides))
  report (sourceReports settings)
  let markup ← readFile invocation.file
  return (settings, markup)

/-- Show a listing in a format. -/
def list (formats : Formats) (entries : List Entry) : ListingFormat -> CommandAction Unit
  | .text => forM entries fun entry => emit entry.line
  | .json => do
      let json ← ofExcept .listing (formats.writeJson entries)
      emit (json ++ "\n")

def scan (invocation : Invocation) (formats : Formats) (format : ListingFormat) :
    CommandAction Unit := do
  let (settings, markup) ← invocation.input formats
  let entries ← ofExcept (fun error => .directive invocation.file markup (.malformed error))
    (settings.dialect.scan markup)
  list formats entries format
  report [s!"{entries.length} directive(s) found"]

/-- Write a text to a file if one is named, or show it. -/
def deliver (rendered : Text) : (output : Option Text) -> CommandAction Unit
  | none => emit (String.ofList rendered)
  | some path => do
      writeFile path rendered
      report [s!"Rendered {String.ofList path}"]

def render (invocation : Invocation) (formats : Formats) (output : Option Text) :
    CommandAction Unit := do
  let (settings, markup) ← invocation.input formats
  report (templateReports settings)
  let rendered ← ofExcept (.directive invocation.file markup) (settings.renderMarkup markup)
  deliver rendered output

def execute (invocation : Invocation) (formats : Formats) : CommandAction Unit :=
  match invocation.task with
  | .scan format => invocation.scan formats format
  | .render output => invocation.render formats output

end Invocation

/-! ## Outcomes -/

/-- What a command leaves behind. -/
structure Outcome where
  code : Nat
  stdout : String
  stderr : String
  tree : FileTree

/-- A failure is reported last, and the exit code tells of it. -/
def Outcome.of : Except CommandError Unit × CommandState -> Outcome
  | (.ok (), state) => ⟨0, state.stdout, state.stderr, state.workspace.tree⟩
  | (.error error, state) =>
      ⟨1, state.stdout, state.stderr ++ s!"Error: {error.message}\n", state.workspace.tree⟩

/-- What the command leaves behind in a workspace. -/
def Invocation.run (invocation : Invocation) (formats : Formats) (workspace : Workspace) :
    Outcome :=
  .of ((invocation.execute formats).result ⟨"", "", workspace⟩)

end MarkupDirectives
