import MarkupDirectives.Fragment.Registry
import MarkupDirectives.Locator

namespace MarkupDirectives

/-!
# Segments of rendered markup

Rendering divides a text into literal text and a fragment for each directive.  A
directive is substituted before the literal text in front of it is given out.
-/

/-- Why markup cannot be rendered. -/
inductive RenderError where
  /-- A directive is malformed. -/
  | malformed (error : SyntaxError)
  /-- No factory is registered for the key of a directive. -/
  | unhandled (key : Text)
  deriving DecidableEq

def RenderError.message : RenderError -> String
  | malformed error => error.message
  | unhandled key => s!"unhandled directive {key.quoted}"

/-- What is needed to render markup: the dialect it is written in and the
factories for its directives. -/
structure Renderer (F : Type) where
  dialect : Dialect
  registry : Registry F

/-- One piece of rendered markup. -/
inductive Segment (F : Type) where
  /-- Text between directives. -/
  | literal (text : Text)
  /-- The fragment that takes the place of the directive at `span`. -/
  | fragment (span : Span) (fragment : F)

namespace Renderer

variable {F : Type}

/-- The fragment for the text of one directive. -/
def substitute (renderer : Renderer F) (text : Text) : Except RenderError F :=
  let directive := renderer.dialect.split text
  match renderer.registry.get? directive.key with
  | some factory => .ok (factory.invoke directive.value)
  | none => .error (.unhandled directive.key)

end Renderer

/-- The state of a division into segments.  What lies before `cursor` has been
divided, up to a fragment that may still be held back in `pending`. -/
structure Segments (F : Type) where
  renderer : Renderer F
  markup : Text
  locator : Locator
  cursor : Nat
  pending : Option (Segment F)
  finished : Bool

namespace Segments

variable {F : Type}

def start (renderer : Renderer F) (markup : Text) : Segments F where
  renderer := renderer
  markup := markup
  locator := Locator.start renderer.dialect markup
  cursor := 0
  pending := none
  finished := false

/-- The text from the last directive up to an offset. -/
def literalUpTo (segments : Segments F) (offset : Nat) : Text :=
  Span.text ⟨segments.cursor, offset⟩ segments.markup

/-- The next segment and the state after it.  Nothing comes after an error, nor
after the end. -/
def next (segments : Segments F) : Option (Except RenderError (Segment F)) × Segments F :=
  match segments.pending with
  | some segment => (some (.ok segment), { segments with pending := none })
  | none =>
      if segments.finished then (none, segments)
      else
        match segments.locator.next with
        | (some (.ok span), later) =>
            match segments.renderer.substitute (span.text segments.markup) with
            | .ok fragment =>
                let segment := Segment.fragment span fragment
                let passed := { segments with locator := later, cursor := span.stop }
                match segments.literalUpTo span.start with
                | [] => (some (.ok segment), passed)
                | literal =>
                    (some (.ok (.literal literal)), { passed with pending := some segment })
            | .error error =>
                (some (.error error),
                  { segments with locator := later, cursor := span.stop, finished := true })
        | (some (.error error), later) =>
            (some (.error (.malformed error)), { segments with locator := later, finished := true })
        | (none, later) =>
            let ended := { segments with locator := later, finished := true }
            match segments.literalUpTo (Text.width segments.markup) with
            | [] => (none, ended)
            | tail => (some (.ok (.literal tail)), ended)

/-- What bounds the number of segments still to come: two for each item of the
locator, one for the text at the end, and the one that is held back. -/
def remaining (segments : Segments F) : Nat :=
  (if segments.finished then 0 else 2 * segments.locator.remaining + 1) +
    (if segments.pending.isSome then 1 else 0)

theorem remaining_lt_of_next {segments later : Segments F}
    {item : Except RenderError (Segment F)} (taken : segments.next = (some item, later)) :
    later.remaining < segments.remaining := by
  simp only [next] at taken
  split at taken
  · next held =>
      cases taken
      simp [remaining, held]
  · next free =>
      split at taken
      · cases taken
      · next running =>
          split at taken
          · next located =>
              have shorter := Locator.remaining_lt_of_next located
              split at taken
              · split at taken <;> cases taken <;> simp [remaining, free, running] <;> omega
              · cases taken
                simp [remaining, free, running]
          · cases taken
            simp [remaining, free, running]
          · split at taken <;> cases taken
            simp [remaining, free, running]

def items (segments : Segments F) : List (Except RenderError (Segment F)) :=
  match _ : segments.next with
  | (none, _) => []
  | (some item, later) => item :: later.items
termination_by segments.remaining
decreasing_by exact remaining_lt_of_next ‹_›

end Segments

/-- All segments of a text, in order, up to the first error. -/
def Renderer.segments {F : Type} (renderer : Renderer F) (markup : Text) :
    List (Except RenderError (Segment F)) :=
  (Segments.start renderer markup).items

/-! ## Sinks -/

/-- A consumer of segments with states of type `State`. -/
structure Sink (F State : Type) where
  literal : State -> Text -> State
  fragment : State -> F -> State

/-- The sink that appends everything to a text, showing fragments by
`display`. -/
def Sink.text {F : Type} (display : F -> Text) : Sink F Text where
  literal := fun written text => written ++ text
  fragment := fun written fragment => written ++ display fragment

variable {F State : Type}

/-- Give segments to a sink up to the first error, counting the fragments. -/
def Sink.feed (sink : Sink F State) :
    List (Except RenderError (Segment F)) -> State -> (count : Nat) ->
      State × Except RenderError Nat
  | [], state, count => (state, .ok count)
  | .error error :: _, state, _ => (state, .error error)
  | .ok (.literal text) :: rest, state, count => sink.feed rest (sink.literal state text) count
  | .ok (.fragment _ fragment) :: rest, state, count =>
      sink.feed rest (sink.fragment state fragment) (count + 1)

/-- Render a text into a sink.  The result is the number of directives that
were substituted. -/
def Renderer.render (renderer : Renderer F) (sink : Sink F State) (markup : Text)
    (state : State) : State × Except RenderError Nat :=
  sink.feed (renderer.segments markup) state 0

/-- The rendered text, unless rendering fails. -/
def Renderer.renderText (renderer : Renderer F) (display : F -> Text) (markup : Text) :
    Except RenderError Text :=
  match renderer.render (Sink.text display) markup [] with
  | (written, .ok _) => .ok written
  | (_, .error error) => .error error

end MarkupDirectives
