import MarkupDirectives.Command.Invocation
import MarkupDirectives.Proofs.Files.Access

namespace MarkupDirectives

/-!
# What commands leave behind

In a command, the steps that can fail come first, then the one that shows or
writes the result, and after that only steps that cannot fail.
-/

/-- Nothing has been shown or written between the two states.  Reports do not
count. -/
structure CommandState.Untouched (before after : CommandState) : Prop where
  stdout : after.stdout = before.stdout
  workspace : after.workspace = before.workspace

namespace CommandState.Untouched

variable {first second third : CommandState}

theorem refl (state : CommandState) : state.Untouched state := ⟨rfl, rfl⟩

theorem trans (earlier : first.Untouched second) (later : second.Untouched third) :
    first.Untouched third :=
  ⟨later.stdout.trans earlier.stdout, later.workspace.trans earlier.workspace⟩

end CommandState.Untouched

open CommandState (Untouched)

/-! ## Actions -/

namespace CommandAction

variable {A B E : Type} {action : CommandAction A} {next : A -> CommandAction B}
  {state after : CommandState} {value : A} {error : CommandError} {wrap : E -> CommandError}

@[simp]
theorem result_pure : (pure value : CommandAction A).result state = (.ok value, state) := rfl

@[simp]
theorem result_get : (get : CommandAction CommandState).result state = (.ok state, state) := rfl

@[simp]
theorem result_set : (set after : CommandAction Unit).result state = (.ok (), after) := rfl

@[simp]
theorem result_report (lines : List String) :
    (report lines).result state =
      (.ok (), { state with
        stderr := state.stderr ++ String.join (lines.map fun line => line ++ "\n") }) := rfl

@[simp]
theorem result_emit (text : String) :
    (emit text).result state = (.ok (), { state with stdout := state.stdout ++ text }) := rfl

@[simp]
theorem result_ofExcept_ok :
    (ofExcept wrap (.ok value)).result state = (.ok value, state) := rfl

@[simp]
theorem result_ofExcept_error (reason : E) :
    (ofExcept wrap (.error reason) : CommandAction A).result state =
      (.error (wrap reason), state) := rfl

/-- An action goes on in the state in which the first part of it ends, unless
that part fails. -/
@[simp]
theorem result_bind :
    (action >>= next).result state =
      match action.result state with
      | (.ok value, after) => (next value).result after
      | (.error error, after) => (.error error, after) := by
  change (ExceptT.bindCont next (action.result state).1).run (action.result state).2 = _
  rcases action.result state with ⟨_ | _, _⟩ <;> rfl

/-- Everything that is emitted for the items is emitted in their order. -/
theorem result_forM_emit (items : List A) (line : A -> String) :
    (forM items fun item => emit (line item)).result state =
      (.ok (), { state with stdout := state.stdout ++ String.join (items.map line) }) := by
  induction items generalizing state with
  | nil => simp
  | cons item items inductionHypothesis =>
      simp [List.forM_cons, inductionHypothesis, String.append_assoc]

/-! ### Actions that fail -/

/-- Whether it fails or not, the action shows and writes nothing. -/
def Quiet (action : CommandAction A) : Prop :=
  forall state : CommandState, state.Untouched (action.result state).2

/-- If it fails, the action has shown and written nothing. -/
def Atomic (action : CommandAction A) : Prop :=
  forall (state after : CommandState) (error : CommandError),
    action.result state = (.error error, after) -> state.Untouched after

def Infallible (action : CommandAction A) : Prop :=
  forall state : CommandState, Exists fun value : A => Exists fun after : CommandState =>
    action.result state = (.ok value, after)

theorem Quiet.atomic (quiet : action.Quiet) : action.Atomic := by
  intro state after error failed
  have untouched := quiet state
  rw [failed] at untouched
  exact untouched

theorem Infallible.atomic (infallible : action.Infallible) : action.Atomic := by
  intro state after error failed
  rcases infallible state with ⟨value, last, succeeds⟩
  rw [succeeds] at failed
  cases failed

theorem quiet_pure : (pure value : CommandAction A).Quiet := Untouched.refl

theorem quiet_get : (get : CommandAction CommandState).Quiet := Untouched.refl

theorem quiet_report (lines : List String) : (report lines).Quiet := fun _ => ⟨rfl, rfl⟩

theorem quiet_ofExcept (outcome : Except E A) : (ofExcept wrap outcome).Quiet := by
  intro state
  cases outcome <;> exact .refl state

theorem quiet_bind (first : action.Quiet) (further : forall value : A, (next value).Quiet) :
    (action >>= next).Quiet := by
  intro state
  have untouched := first state
  rw [result_bind]
  split
  · next value middle same =>
      rw [same] at untouched
      exact untouched.trans (further value middle)
  · next error middle same =>
      rw [same] at untouched
      exact untouched

theorem infallible_pure : (pure value : CommandAction A).Infallible :=
  fun state => ⟨value, state, rfl⟩

theorem infallible_report (lines : List String) : (report lines).Infallible := fun _ => ⟨_, _, rfl⟩

theorem infallible_emit (text : String) : (emit text).Infallible := fun _ => ⟨_, _, rfl⟩

theorem infallible_bind (first : action.Infallible)
    (further : forall value : A, (next value).Infallible) : (action >>= next).Infallible := by
  intro state
  rcases first state with ⟨value, middle, succeeds⟩
  rw [result_bind, succeeds]
  exact further value middle

theorem infallible_forM {items : List A} {each : A -> CommandAction Unit}
    (single : forall item : A, (each item).Infallible) : (forM items each).Infallible := by
  induction items with
  | nil => exact infallible_pure
  | cons item items inductionHypothesis =>
      exact infallible_bind (single item) fun _ => inductionHypothesis

/-- What shows and writes nothing may come first. -/
theorem atomic_bind_of_quiet (first : action.Quiet)
    (further : forall value : A, (next value).Atomic) : (action >>= next).Atomic := by
  intro state after error failed
  have untouched := first state
  rw [result_bind] at failed
  split at failed
  · next value middle same =>
      rw [same] at untouched
      exact untouched.trans (further value middle after error failed)
  · next reason middle same =>
      rw [same] at untouched
      cases failed
      exact untouched

/-- What cannot fail may come last. -/
theorem atomic_bind_of_infallible (first : action.Atomic)
    (further : forall value : A, (next value).Infallible) : (action >>= next).Atomic := by
  intro state after error failed
  rw [result_bind] at failed
  split at failed
  · next value middle same =>
      rcases further value middle with ⟨last, final, succeeds⟩
      rw [succeeds] at failed
      cases failed
  · next reason middle same =>
      cases failed
      exact first _ _ _ same

theorem quiet_readFile (path : Text) : (readFile path).Quiet :=
  quiet_bind quiet_get fun _ => quiet_ofExcept _

theorem atomic_writeFile (path text : Text) : (writeFile path text).Atomic :=
  atomic_bind_of_quiet quiet_get fun _ =>
    atomic_bind_of_quiet (quiet_ofExcept _) fun _ => Infallible.atomic fun _ => ⟨(), _, rfl⟩

end CommandAction

namespace Invocation

open CommandAction

variable {invocation : Invocation} {formats : Formats} {workspace : Workspace}
  {settings : Settings} {markup : Text} {outcome : Outcome}

/-! ## The order of effects -/

theorem quiet_input (invocation : Invocation) (formats : Formats) :
    (invocation.input formats).Quiet := by
  rw [input]
  exact quiet_bind quiet_get fun _ => quiet_bind (quiet_ofExcept _) fun settings =>
    quiet_bind (quiet_report _) fun _ => quiet_bind (quiet_readFile _) fun _ => quiet_pure

theorem atomic_list (formats : Formats) (entries : List Entry) (format : ListingFormat) :
    (list formats entries format).Atomic := by
  cases format with
  | text =>
      rw [list]
      exact Infallible.atomic (infallible_forM fun entry => infallible_emit entry.line)
  | json =>
      rw [list]
      exact atomic_bind_of_quiet (quiet_ofExcept _) fun _ => (infallible_emit _).atomic

theorem atomic_deliver (rendered : Text) (output : Option Text) :
    (deliver rendered output).Atomic := by
  cases output with
  | none => exact (infallible_emit _).atomic
  | some path =>
      exact atomic_bind_of_infallible (atomic_writeFile path rendered) fun _ => infallible_report _

theorem atomic_scan (invocation : Invocation) (formats : Formats) (format : ListingFormat) :
    (invocation.scan formats format).Atomic := by
  rw [scan]
  refine atomic_bind_of_quiet (quiet_input invocation formats) fun _ =>
    atomic_bind_of_quiet (quiet_ofExcept _) fun entries => ?_
  exact atomic_bind_of_infallible (atomic_list formats entries format) fun _ => infallible_report _

theorem atomic_render (invocation : Invocation) (formats : Formats) (output : Option Text) :
    (invocation.render formats output).Atomic := by
  rw [render]
  refine atomic_bind_of_quiet (quiet_input invocation formats) fun _ =>
    atomic_bind_of_quiet (quiet_report _) fun _ =>
      atomic_bind_of_quiet (quiet_ofExcept _) fun rendered => ?_
  exact atomic_deliver rendered output

/-- No command has shown or written anything when it fails. -/
theorem atomic_execute (invocation : Invocation) (formats : Formats) :
    (invocation.execute formats).Atomic := by
  rw [execute]
  cases invocation.task with
  | scan format => exact atomic_scan invocation formats format
  | render output => exact atomic_render invocation formats output

/-! ## What comes of a command -/

/-- The command works under these settings, and on this text of its file. -/
structure WorksOn (invocation : Invocation) (formats : Formats) (workspace : Workspace)
    (settings : Settings) (markup : Text) : Prop where
  loaded : Settings.loadBy formats.readSettings? workspace invocation.config
    (some invocation.overrides) = .ok settings
  read : workspace.readText invocation.file = .ok markup

/-- Something keeps the command from doing its task. -/
inductive Fails (invocation : Invocation) (formats : Formats) (workspace : Workspace) : Prop
  | misconfigured {error : LoadError}
      (refused : Settings.loadBy formats.readSettings? workspace invocation.config
        (some invocation.overrides) = .error error)
  | unreadable {settings : Settings} {error : FileError}
      (loaded : Settings.loadBy formats.readSettings? workspace invocation.config
        (some invocation.overrides) = .ok settings)
      (refused : workspace.readText invocation.file = .error error)
  /-- There is a malformed directive in the text that is to be listed. -/
  | unlisted {settings : Settings} {markup : Text} {format : ListingFormat} {error : SyntaxError}
      (works : invocation.WorksOn formats workspace settings markup)
      (task : invocation.task = .scan format)
      (refused : settings.dialect.scan markup = .error error)
  /-- The listing has no JSON. -/
  | unformatted {settings : Settings} {markup : Text} {entries : List Entry} {reason : String}
      (works : invocation.WorksOn formats workspace settings markup)
      (task : invocation.task = .scan .json)
      (lists : settings.dialect.scan markup = .ok entries)
      (refused : formats.writeJson entries = .error reason)
  /-- There is a malformed directive in the text that is to be rendered, or one
  for whose key there is no template. -/
  | unrendered {settings : Settings} {markup : Text} {output : Option Text} {error : RenderError}
      (works : invocation.WorksOn formats workspace settings markup)
      (task : invocation.task = .render output)
      (refused : settings.renderMarkup markup = .error error)
  | unwritable {settings : Settings} {markup rendered path : Text} {error : FileError}
      (works : invocation.WorksOn formats workspace settings markup)
      (task : invocation.task = .render (some path))
      (renders : settings.renderMarkup markup = .ok rendered)
      (refused : workspace.writeText path rendered = .error error)

/-- The outcome is that of a task done: the result is shown, or it is written to
one file. -/
inductive Done (invocation : Invocation) (formats : Formats) (workspace : Workspace)
    (outcome : Outcome) : Prop
  | listed {settings : Settings} {markup : Text} {entries : List Entry}
      (works : invocation.WorksOn formats workspace settings markup)
      (task : invocation.task = .scan .text)
      (lists : settings.dialect.scan markup = .ok entries)
      (shown : outcome.stdout = String.join (entries.map Entry.line))
      (unchanged : outcome.tree = workspace.tree)
  | formatted {settings : Settings} {markup : Text} {entries : List Entry} {json : String}
      (works : invocation.WorksOn formats workspace settings markup)
      (task : invocation.task = .scan .json)
      (lists : settings.dialect.scan markup = .ok entries)
      (formats : formats.writeJson entries = .ok json)
      (shown : outcome.stdout = json ++ "\n")
      (unchanged : outcome.tree = workspace.tree)
  | rendered {settings : Settings} {markup rendered : Text}
      (works : invocation.WorksOn formats workspace settings markup)
      (task : invocation.task = .render none)
      (renders : settings.renderMarkup markup = .ok rendered)
      (shown : outcome.stdout = String.ofList rendered)
      (unchanged : outcome.tree = workspace.tree)
  | written {settings : Settings} {markup rendered path : Text} {location : Location}
      (works : invocation.WorksOn formats workspace settings markup)
      (task : invocation.task = .render (some path))
      (renders : settings.renderMarkup markup = .ok rendered)
      (silent : outcome.stdout = "")
      (writes : workspace.OnlyWrites path rendered location outcome.tree)

/-- The command has done its task, or nothing. -/
structure AllOrNothing (invocation : Invocation) (formats : Formats) (workspace : Workspace)
    (outcome : Outcome) : Prop where
  code : outcome.code = 0 ∨ outcome.code = 1
  fails : outcome.code = 1 ↔ invocation.Fails formats workspace
  undone : outcome.code = 1 -> outcome.stdout = "" ∧ outcome.tree = workspace.tree
  done : outcome.code = 0 -> invocation.Done formats workspace outcome
  /-- Unless a file is named for the result, no file is changed. -/
  unchanged : invocation.output? = none -> outcome.tree = workspace.tree

theorem Done.unchanged_of_output? (done : invocation.Done formats workspace outcome)
    (nowhere : invocation.output? = none) : outcome.tree = workspace.tree := by
  cases done with
  | listed _ _ _ _ unchanged => exact unchanged
  | formatted _ _ _ _ _ unchanged => exact unchanged
  | rendered _ _ _ _ unchanged => exact unchanged
  | written _ task _ _ _ =>
      rw [output?, task] at nowhere
      cases nowhere

/-- Only reports are made until the settings and the text are there. -/
theorem result_input (works : invocation.WorksOn formats workspace settings markup) :
    Exists fun reports : String =>
      (invocation.input formats).result ⟨"", "", workspace⟩ =
        (.ok (settings, markup), ⟨"", reports, workspace⟩) := by
  simp only [input, readFile, result_bind, result_get, works.loaded, works.read,
    result_ofExcept_ok, result_report, result_pure]
  exact ⟨_, rfl⟩

/-- Whatever keeps a command from its task, the command fails. -/
theorem result_execute_of_fails (fails : invocation.Fails formats workspace) :
    Exists fun error : CommandError =>
      ((invocation.execute formats).result ⟨"", "", workspace⟩).1 = .error error := by
  cases fails with
  | misconfigured refused =>
      cases task : invocation.task <;> simp [execute, task, scan, render, input, refused]
  | unreadable loaded refused =>
      cases task : invocation.task <;>
        simp [execute, task, scan, render, input, readFile, loaded, refused]
  | unlisted works task refused =>
      rcases result_input works with ⟨reports, begun⟩
      simp [execute, task, scan, begun, refused]
  | unformatted works task lists refused =>
      rcases result_input works with ⟨reports, begun⟩
      simp [execute, task, scan, begun, lists, list, refused]
  | unrendered works task refused =>
      rcases result_input works with ⟨reports, begun⟩
      simp [execute, task, render, begun, refused]
  | unwritable works task renders refused =>
      rcases result_input works with ⟨reports, begun⟩
      simp [execute, task, render, begun, renders, deliver, writeFile, refused]

theorem run_of_error {error : CommandError} {after : CommandState}
    (failed : (invocation.execute formats).result ⟨"", "", workspace⟩ = (.error error, after)) :
    invocation.run formats workspace =
      ⟨1, after.stdout, after.stderr ++ s!"Error: {error.message}\n", after.workspace.tree⟩ := by
  rw [run, failed]
  rfl

theorem run_of_ok {after : CommandState}
    (succeeded : (invocation.execute formats).result ⟨"", "", workspace⟩ = (.ok (), after)) :
    invocation.run formats workspace = ⟨0, after.stdout, after.stderr, after.workspace.tree⟩ := by
  rw [run, succeeded]
  rfl

theorem code_run_of_fails (fails : invocation.Fails formats workspace) :
    (invocation.run formats workspace).code = 1 := by
  rcases result_execute_of_fails fails with ⟨error, failed⟩
  rw [run_of_error (Prod.ext failed rfl)]

/-- A command that ends with code 1 has shown and written nothing. -/
theorem undone_of_code (code : (invocation.run formats workspace).code = 1) :
    (invocation.run formats workspace).stdout = "" ∧
      (invocation.run formats workspace).tree = workspace.tree := by
  rcases ended : (invocation.execute formats).result ⟨"", "", workspace⟩ with ⟨error | _, after⟩
  · have untouched := atomic_execute invocation formats _ _ _ ended
    rw [run_of_error ended]
    exact ⟨untouched.stdout, congrArg Workspace.tree untouched.workspace⟩
  · rw [run_of_ok ended] at code
    cases code

theorem fails_or_done_scan {format : ListingFormat}
    (works : invocation.WorksOn formats workspace settings markup)
    (task : invocation.task = .scan format) :
    invocation.Fails formats workspace ∨
      ((invocation.run formats workspace).code = 0 ∧
        invocation.Done formats workspace (invocation.run formats workspace)) := by
  rcases result_input works with ⟨reports, begun⟩
  cases lists : settings.dialect.scan markup with
  | error error => exact Or.inl (.unlisted works task lists)
  | ok entries =>
      cases format with
      | text =>
          refine Or.inr ?_
          simp only [run, execute, task, scan, result_bind, begun, lists, result_ofExcept_ok, list,
            result_forM_emit, result_report, Outcome.of, true_and]
          exact .listed works task lists String.empty_append rfl
      | json =>
          cases written : formats.writeJson entries with
          | error reason => exact Or.inl (.unformatted works task lists written)
          | ok json =>
              refine Or.inr ?_
              simp only [run, execute, task, scan, result_bind, begun, lists, result_ofExcept_ok,
                list, written, result_emit, result_report, Outcome.of, true_and]
              exact .formatted works task lists written String.empty_append rfl

theorem fails_or_done_render {output : Option Text}
    (works : invocation.WorksOn formats workspace settings markup)
    (task : invocation.task = .render output) :
    invocation.Fails formats workspace ∨
      ((invocation.run formats workspace).code = 0 ∧
        invocation.Done formats workspace (invocation.run formats workspace)) := by
  rcases result_input works with ⟨reports, begun⟩
  cases renders : settings.renderMarkup markup with
  | error error => exact Or.inl (.unrendered works task renders)
  | ok rendered =>
      cases output with
      | none =>
          refine Or.inr ?_
          simp only [run, execute, task, render, result_bind, begun, renders, result_ofExcept_ok,
            deliver, result_emit, result_report, Outcome.of, true_and]
          exact .rendered works task renders String.empty_append rfl
      | some path =>
          cases written : workspace.writeText path rendered with
          | error error => exact Or.inl (.unwritable works task renders written)
          | ok after =>
              rcases Workspace.onlyWrites_of_writeText written with ⟨location, writes⟩
              refine Or.inr ?_
              simp only [run, execute, task, render, result_bind, begun, renders,
                result_ofExcept_ok, deliver, writeFile, written, result_get, result_set,
                result_report, Outcome.of, true_and]
              exact .written works task renders rfl writes

theorem fails_or_done (invocation : Invocation) (formats : Formats) (workspace : Workspace) :
    invocation.Fails formats workspace ∨
      ((invocation.run formats workspace).code = 0 ∧
        invocation.Done formats workspace (invocation.run formats workspace)) := by
  cases loaded : Settings.loadBy formats.readSettings? workspace invocation.config
      (some invocation.overrides) with
  | error error => exact Or.inl (.misconfigured loaded)
  | ok settings =>
      cases read : workspace.readText invocation.file with
      | error error => exact Or.inl (.unreadable loaded read)
      | ok markup =>
          cases task : invocation.task with
          | scan format => exact fails_or_done_scan ⟨loaded, read⟩ task
          | render output => exact fails_or_done_render ⟨loaded, read⟩ task

/-- A command ends with code 1 exactly if its settings, its file, a directive, the
listing or the path for the result keeps it from its task; then it has shown and
changed nothing.  Otherwise its result, made from the text as it was read, has
been shown or written to the one file that was named for it. -/
theorem commands_are_all_or_nothing (formats : Formats) (invocation : Invocation)
    (workspace : Workspace) :
    invocation.AllOrNothing formats workspace (invocation.run formats workspace) := by
  rcases fails_or_done invocation formats workspace with fails | ⟨succeeds, done⟩
  · have failed := code_run_of_fails fails
    have undone := undone_of_code failed
    exact ⟨Or.inr failed, iff_of_true failed fails, undone_of_code,
      fun zero => absurd (failed.symm.trans zero) Nat.one_ne_zero, fun _ => undone.2⟩
  · have notOne : (invocation.run formats workspace).code ≠ 1 := by
      rw [succeeds]
      exact Nat.zero_ne_one
    exact ⟨Or.inl succeeds, iff_of_false notOne fun fails => notOne (code_run_of_fails fails),
      undone_of_code, fun _ => done, done.unchanged_of_output?⟩

/-- A file may be rendered into itself, even if it is the settings file too. -/
example :
    let templates := Std.TreeMap.empty.insert ['x'] "<\x7bvalue\x7d>".toList
    let formats : Formats := ⟨fun _ => some { Settings.standard with templates }, fun _ => .ok ""⟩
    let tree := FileTree.empty.insert [['a']] (.file "blatex:x=(1 & 2)".toUTF8)
    let invocation : Invocation :=
      ⟨.render (some "./a".toList), ['a'], some ['a'], none, false, false⟩
    let outcome := invocation.run formats ⟨tree, []⟩
    outcome.code = 0 ∧ outcome.stdout = "" ∧
      (Workspace.readText ⟨outcome.tree, []⟩ ['a']).toOption = some "<1 &amp; 2>".toList := by
  decide +kernel

end Invocation
end MarkupDirectives
