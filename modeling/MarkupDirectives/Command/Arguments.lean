import MarkupDirectives.Command.Invocation

namespace MarkupDirectives

/-!
# Arguments of a command

The first argument names the command.  The file, flags, and options that take a
value follow in any order, and nothing may be given twice.

A value is checked when something else follows it or the arguments end; until
then it is pending.  This matters only for a request for help, which is granted
unless an argument before it is at fault.
-/

inductive CommandName where
  | scan
  | render
  deriving DecidableEq

/-- What has a value: the file, and the options. -/
inductive Slot where
  | file
  | config
  | marker
  | format
  | output
  deriving DecidableEq

/-- Options without a value. -/
inductive Flag where
  | ignoreCase
  | verbose
  deriving DecidableEq

/-- What an option asks for. -/
inductive OptionKind where
  | valued (slot : Slot)
  | flag (flag : Flag)
  | help

/-- Why arguments are not carried out. -/
inductive Interruption where
  /-- They are not understood. -/
  | usage
  /-- Help was asked for. -/
  | help
  /-- The version was asked for. -/
  | version
  deriving DecidableEq

namespace CommandName

def ofText? (name : Text) : Option CommandName :=
  if name = "scan".toList then some scan
  else if name = "render".toList then some render
  else none

def longOption? (command : CommandName) (name : Text) : Option OptionKind :=
  if name = "config".toList then some (.valued .config)
  else if name = "prefix".toList then some (.valued .marker)
  else if name = "ignore-case".toList then some (.flag .ignoreCase)
  else if name = "verbose".toList then some (.flag .verbose)
  else if name = "help".toList then some .help
  else if name = "format".toList ∧ command = scan then some (.valued .format)
  else if name = "output".toList ∧ command = render then some (.valued .output)
  else none

def shortOption? (command : CommandName) (letter : Char) : Option OptionKind :=
  if letter = 'c' then some (.valued .config)
  else if letter = 'v' then some (.flag .verbose)
  else if letter = 'h' then some .help
  else if letter = 'o' ∧ command = render then some (.valued .output)
  else none

end CommandName

def ListingFormat.ofText? (name : Text) : Option ListingFormat :=
  if name = "text".toList then some text
  else if name = "json".toList then some json
  else none

/-- Whether a value can be given to a slot.  Paths are not empty. -/
def Slot.accepts : Slot -> Text -> Bool
  | marker, _ => true
  | format, value => (ListingFormat.ofText? value).isSome
  | _, value => value ≠ []

/-- What has been read and not yet been checked. -/
inductive Pending where
  | nothing
  /-- An option whose value is to be the next argument. -/
  | awaited (slot : Slot)
  /-- A value. -/
  | given (slot : Slot) (value : Text)

/-- The arguments read so far. -/
structure Draft where
  values : List (Slot × Text)
  flags : List Flag
  pending : Pending

namespace Draft

def empty : Draft := ⟨[], [], .nothing⟩

def accept (draft : Draft) (slot : Slot) (value : Text) : Except Interruption Draft :=
  if (draft.values.lookup slot).isNone ∧ slot.accepts value = true then
    .ok { draft with values := (slot, value) :: draft.values }
  else .error .usage

def settle (draft : Draft) : Except Interruption Draft :=
  let settled := { draft with pending := .nothing }
  match draft.pending with
  | .nothing => .ok settled
  | .awaited _ => .error .usage
  | .given slot value => settled.accept slot value

def takeOption (draft : Draft) (option : OptionKind) : Except Interruption Draft := do
  let draft ← draft.settle
  match option with
  | .valued slot => return { draft with pending := .awaited slot }
  | .flag flag =>
      if flag ∈ draft.flags then throw .usage
      return { draft with flags := flag :: draft.flags }
  | .help => throw .help

/-- An option with a value attached to it, which is checked at once. -/
def takeAttached (draft : Draft) (option : OptionKind) (value : Text) :
    Except Interruption Draft := do
  match option with
  | .valued slot => (← draft.settle).accept slot value
  | _ => throw .usage

/-- A long option, its hyphens left out. -/
def takeLong (draft : Draft) (command : CommandName) (argument : Text) :
    Except Interruption Draft :=
  let name := argument.takeWhile (· != '=')
  match command.longOption? name, argument.dropWhile (· != '=') with
  | none, _ => .error .usage
  | some option, [] => draft.takeOption option
  | some option, _ :: value => draft.takeAttached option value

/-- Letters of short options, the hyphen left out.  The first option that takes
a value takes all that follows its letter. -/
def takeShort (command : CommandName) : (letters : Text) -> Draft -> Except Interruption Draft
  | [], draft => .ok draft
  | letter :: rest, draft =>
      match command.shortOption? letter with
      | none => .error .usage
      | some (.valued slot) =>
          match rest with
          | [] => draft.takeOption (.valued slot)
          | '=' :: value => draft.takeAttached (.valued slot) value
          | value => draft.takeAttached (.valued slot) value
      | some option => do takeShort command rest (← draft.takeOption option)

def takeFile (draft : Draft) (argument : Text) : Except Interruption Draft := do
  let draft ← draft.settle
  if (draft.values.lookup .file).isSome then throw .usage
  return { draft with pending := .given .file argument }

/-- An argument before the end of the options. -/
def take (command : CommandName) (draft : Draft) (argument : Text) : Except Interruption Draft :=
  match argument with
  | '-' :: '-' :: long => draft.takeLong command long
  | '-' :: letter :: letters => takeShort command (letter :: letters) draft
  | value =>
      match draft.pending with
      | .awaited slot => .ok { draft with pending := .given slot value }
      | _ => draft.takeFile value

def takeAll (command : CommandName) : (arguments : List Text) -> Draft -> Except Interruption Draft
  | [], draft => draft.settle
  | argument :: rest, draft =>
      if argument = ['-', '-'] then do
        (← rest.foldlM takeFile draft).settle
      else do takeAll command rest (← draft.take command argument)

/-- The command with its arguments.  The marker may also come from the
environment. -/
def invocation (draft : Draft) (command : CommandName) (environmentMarker : Option Text) :
    Except Interruption Invocation := do
  let some file := draft.values.lookup .file | throw .usage
  let format := ((draft.values.lookup .format).bind ListingFormat.ofText?).getD .text
  return {
    task := match command with
      | .scan => .scan format
      | .render => .render (draft.values.lookup .output)
    file := file
    config := draft.values.lookup .config
    marker := draft.values.lookup .marker <|> environmentMarker
    ignoreCase := draft.flags.contains .ignoreCase
    verbose := draft.flags.contains .verbose }

end Draft

/-- Whether help can be given about what is named. -/
def knownHelpTopic : List Text -> Bool
  | [] => true
  | [topic] => (CommandName.ofText? topic).isSome || topic = "help".toList
  | _ => false

/-- The invocation that arguments describe. -/
def Invocation.ofArguments (arguments : List Text) (environmentMarker : Option Text) :
    Except Interruption Invocation :=
  match arguments with
  | [] => .error .usage
  | first :: rest =>
      match CommandName.ofText? first with
      | some command => do
          (← Draft.takeAll command rest Draft.empty).invocation command environmentMarker
      | none =>
          if first = "help".toList then .error (if knownHelpTopic rest then .help else .usage)
          else if first = "--help".toList then .error .help
          else if first = "--version".toList then .error .version
          else
            match first with
            | '-' :: 'h' :: _ => .error .help
            | '-' :: 'V' :: _ => .error .version
            | _ => .error .usage

end MarkupDirectives
