import MarkupDirectives.Listing
import MarkupDirectives.Proofs.Fragment.Lookup
import MarkupDirectives.Proofs.Render.Rewriting
import MarkupDirectives.Settings.Basic

namespace MarkupDirectives

open Text Cursor Polling

/-!
# Listing and rendering agree

A listing needs all items before it shows any; rendering takes them one at a time
and stops at the first that it cannot replace.  Nothing is assumed of the settings,
in which several templates may have keys of one lowercase form.
-/

/-! ## Listing -/

/-- A listing has an entry for every span, unless the locator has failed. -/
theorem Dialect.scan_of_locate {dialect : Dialect} {markup : Text} {spans : List Span}
    {failure : Option SyntaxError} (located : dialect.locate markup = outcome spans failure) :
    dialect.scan markup = failure.elim (.ok (spans.map (dialect.entry markup))) .error := by
  rw [scan, located]
  exact mapM_outcome (dialect.entry markup) spans failure

/-! ## Replacing spans -/

namespace Span

/-- The text from the offset on, with another text in the place of every
span. -/
def replace (markup : Text) : (origin : Nat) -> List (Span × Text) -> Text
  | origin, [] => text ⟨origin, width markup⟩ markup
  | origin, (span, replacement) :: rest =>
      text ⟨origin, span.start⟩ markup ++ (replacement ++ replace markup span.stop rest)

theorem replace_eq_rewrite (write : Text -> Text) (markup : Text) (origin : Nat)
    (spans : List Span) :
    replace markup origin (spans.map fun span => (span, write (span.text markup))) =
      rewrite write markup origin spans := by
  induction spans generalizing origin with
  | nil => rfl
  | cons span spans inductionHypothesis => rw [List.map_cons, replace, rewrite, inductionHypothesis]

end Span

/-- If every span that is located is replaced by its own text, then nothing
changes. -/
theorem Dialect.Search.rewrite_id {dialect : Dialect} {markup : Text} {place : Cursor}
    {spans : List Span} {failure : Option SyntaxError} (search : dialect.Search place spans failure)
    (inText : place.LiesIn markup) :
    Span.rewrite id markup place.offset spans = place.rest := by
  induction search with
  | ended => exact Span.text_to_end inText
  | malformed => exact Span.text_to_end inText
  | @located place marked stop start spans failure found scanned _ inductionHypothesis =>
      rcases directiveAt_of_step inText found scanned with ⟨skipped, begun, reads, directive⟩
      have begins : begun.offset = start := directive.starts
      have before : Span.text ⟨place.offset, start⟩ markup = skipped := by
        rw [← begins]
        exact Span.text_of_reads inText reads
      have behind := inductionHypothesis directive.stop_liesIn
      rw [Span.rewrite, before, behind, reads.ahead, directive.reads_text.ahead]
      rfl

namespace Settings

variable {settings : Settings} {markup text key : Text} {spans : List Span} {entries : List Entry}

/-! ## Templates by key -/

/-- Some template has this key, in whatever case. -/
def Serves (settings : Settings) (key : Text) : Prop :=
  Exists fun other => other ∈ settings.templates.keys ∧ other.lowercase = key.lowercase

/-- The template that serves the key: of those whose keys have the same
lowercase form the last one. -/
def templateFor? (settings : Settings) (key : Text) : Option Text :=
  (settings.templates.toList.reverse.find? fun entry => entry.1.lowercase == key.lowercase).map
    Prod.snd

/-- The template for the directive's key, filled with its value.  Without a
template there is nothing. -/
def fragment (settings : Settings) (directive : Directive) : Text :=
  match settings.templateFor? directive.key with
  | some template => (Template.factory settings.dialect template).invoke directive.value
  | none => []

theorem templateFor?_eq_none_iff : settings.templateFor? key = none ↔ ¬ settings.Serves key := by
  simp only [templateFor?, Serves, Option.map_eq_none_iff, List.find?_eq_none, List.mem_reverse,
    beq_iff_eq, ← Std.TreeMap.map_fst_toList_eq_keys, List.mem_map]
  constructor
  · rintro absent ⟨_, ⟨entry, member, rfl⟩, same⟩
    exact absent entry member same
  · intro unserved entry member same
    exact unserved ⟨entry.1, ⟨entry, member, rfl⟩, same⟩

/-- The registry that rendering looks into has the factories of these
templates. -/
theorem get?_renderer_registry (settings : Settings) (key : Text) :
    settings.renderer.registry.get? key =
      (settings.templateFor? key).map (Template.factory settings.dialect) := by
  rw [renderer, Template.registry, Registry.get?_ofList, templateFor?, ← List.map_reverse,
    List.find?_map, Option.map_map, Option.map_map]
  rfl

theorem substitute_eq (settings : Settings) (text : Text) :
    settings.renderer.substitute text =
      match settings.templateFor? (settings.dialect.split text).key with
      | some template =>
          .ok ((Template.factory settings.dialect template).invoke
            (settings.dialect.split text).value)
      | none => .error (.unhandled (settings.dialect.split text).key) := by
  have sameDialect : settings.renderer.dialect = settings.dialect := rfl
  simp only [Renderer.substitute, sameDialect, get?_renderer_registry]
  cases settings.templateFor? (settings.dialect.split text).key <;> rfl

theorem substitute_of_serves (serves : settings.Serves (settings.dialect.split text).key) :
    settings.renderer.substitute text = .ok (settings.fragment (settings.dialect.split text)) := by
  rw [substitute_eq, fragment]
  split
  · rfl
  · next absent => exact absurd serves (templateFor?_eq_none_iff.mp absent)

theorem substitute_of_not_serves (unserved : ¬ settings.Serves (settings.dialect.split text).key) :
    settings.renderer.substitute text = .error (.unhandled (settings.dialect.split text).key) := by
  rw [substitute_eq, templateFor?_eq_none_iff.mpr unserved]

theorem displayed_eq_fragment (settings : Settings) :
    settings.renderer.displayed id =
      fun text => settings.fragment (settings.dialect.split text) := by
  funext text
  rw [Renderer.displayed, substitute_eq, fragment]
  split
  · next substituted =>
      split at substituted <;> cases substituted
      rfl
  · next refused =>
      split at refused <;> cases refused
      rfl

/-! ## Rendering what is listed -/

/-- The entry is the first one in the list whose key no template has. -/
def FirstUnserved (settings : Settings) (entries : List Entry) (entry : Entry) : Prop :=
  Exists fun earlier : List Entry => Exists fun later : List Entry =>
    entries = earlier ++ entry :: later ∧
      (forall other, other ∈ earlier -> settings.Serves other.directive.key) ∧
        ¬ settings.Serves entry.directive.key

theorem exists_firstUnserved
    (unserved : ¬ forall entry, entry ∈ entries -> settings.Serves entry.directive.key) :
    Exists fun entry : Entry => settings.FirstUnserved entries entry := by
  induction entries with
  | nil => exact absurd nofun unserved
  | cons entry entries inductionHypothesis =>
      by_cases serves : settings.Serves entry.directive.key
      · have further : ¬ forall other, other ∈ entries -> settings.Serves other.directive.key :=
          fun all => unserved (List.forall_mem_cons.mpr ⟨serves, all⟩)
        rcases inductionHypothesis further with ⟨first, earlier, later, rfl, allServed, refused⟩
        exact ⟨first, entry :: earlier, later, rfl, List.forall_mem_cons.mpr ⟨serves, allServed⟩,
          refused⟩
      · exact ⟨entry, [], entries, rfl, nofun, serves⟩

theorem handles_of_serves
    (served : forall entry,
      entry ∈ spans.map (settings.dialect.entry markup) -> settings.Serves entry.directive.key) :
    forall span, span ∈ spans -> settings.renderer.Handles (span.text markup) :=
  fun _ member => ⟨_, substitute_of_serves (served _ (List.mem_map_of_mem member))⟩

/-- If all keys are served, then the fragments stand in the place of the listed
spans. -/
theorem renderMarkup_of_serves (located : settings.dialect.locate markup = outcome spans none)
    (served : forall entry,
      entry ∈ spans.map (settings.dialect.entry markup) -> settings.Serves entry.directive.key) :
    settings.renderMarkup markup =
      .ok (Span.replace markup 0 ((spans.map (settings.dialect.entry markup)).map fun entry =>
        (entry.span, settings.fragment entry.directive))) := by
  have rendered :
      settings.renderMarkup markup =
        .ok (Span.rewrite (settings.renderer.displayed id) markup 0 spans) :=
    Renderer.renderText_eq_ok_iff.mpr ⟨spans, located, handles_of_serves served, rfl⟩
  rw [rendered, displayed_eq_fragment, ← Span.replace_eq_rewrite, List.map_map]
  rfl

/-- The first key without a template ends the rendering, whatever follows. -/
theorem renderMarkup_of_firstUnserved {failure : Option SyntaxError} {entry : Entry}
    (located : settings.dialect.locate markup = outcome spans failure)
    (refused : settings.FirstUnserved (spans.map (settings.dialect.entry markup)) entry) :
    settings.renderMarkup markup = .error (.unhandled entry.directive.key) := by
  rcases refused with ⟨earlier, later, listed, served, unserved⟩
  rcases List.map_eq_append_iff.mp listed with ⟨done, left, rfl, rfl, listedLeft⟩
  rcases List.map_eq_cons_iff.mp listedLeft with ⟨span, rest, rfl, rfl, rfl⟩
  have atSpan : settings.renderer.Division markup (Span.endOf 0 done) (span :: rest) failure [] _ :=
    .unhandled (substitute_of_not_serves unserved)
  rcases Renderer.exists_division_append (handles_of_serves served) atSpan with ⟨pieces, division⟩
  exact Renderer.renderText_of_division located division id

/-- If all keys in front of a malformed directive are served, then the malformed
directive ends the rendering. -/
theorem renderMarkup_of_malformed {error : SyntaxError}
    (located : settings.dialect.locate markup = outcome spans (some error))
    (served : forall entry,
      entry ∈ spans.map (settings.dialect.entry markup) -> settings.Serves entry.directive.key) :
    settings.renderMarkup markup = .error (.malformed error) := by
  have atEnd : settings.renderer.Division markup (Span.endOf 0 spans) [] (some error) [] _ :=
    .malformed
  rcases Renderer.exists_division_append (handles_of_serves served) atEnd with ⟨pieces, division⟩
  rw [List.append_nil] at division
  exact Renderer.renderText_of_division located division id

/-- If a text is listed, then it is rendered exactly if every key in the listing is
served, and otherwise the first key that is not served is the error.  If it is
not listed, the first key that is not served in front of the malformed directive
is the error of rendering or, if there is none, that directive is. -/
theorem render_agrees_with_scan (settings : Settings) (markup : Text) :
    (forall entries, settings.dialect.scan markup = .ok entries ->
      (forall html, settings.renderMarkup markup = .ok html ↔
        (forall entry, entry ∈ entries -> settings.Serves entry.directive.key) ∧
          html = Span.replace markup 0
            (entries.map fun entry => (entry.span, settings.fragment entry.directive))) ∧
      Span.replace markup 0 (entries.map fun entry => (entry.span, entry.text)) = markup ∧
      ((¬ forall entry, entry ∈ entries -> settings.Serves entry.directive.key) ->
        Exists fun entry : Entry => settings.FirstUnserved entries entry ∧
          settings.renderMarkup markup = .error (.unhandled entry.directive.key))) ∧
    (forall error, settings.dialect.scan markup = .error error ->
      Exists fun spans : List Span =>
        settings.dialect.locate markup = spans.map .ok ++ [.error error] ∧
        ((forall entry,
          entry ∈ spans.map (settings.dialect.entry markup) ->
            settings.Serves entry.directive.key) ->
          settings.renderMarkup markup = .error (.malformed error)) ∧
        ((¬ forall entry,
          entry ∈ spans.map (settings.dialect.entry markup) ->
            settings.Serves entry.directive.key) ->
          Exists fun entry : Entry =>
            settings.FirstUnserved (spans.map (settings.dialect.entry markup)) entry ∧
            settings.renderMarkup markup = .error (.unhandled entry.directive.key))) := by
  rcases settings.dialect.exists_located markup with ⟨spans, failure, search, located, _⟩
  have listed := Dialect.scan_of_locate located
  have refused : (¬ forall entry, entry ∈ spans.map (settings.dialect.entry markup) ->
        settings.Serves entry.directive.key) ->
      Exists fun entry : Entry =>
        settings.FirstUnserved (spans.map (settings.dialect.entry markup)) entry ∧
        settings.renderMarkup markup = .error (.unhandled entry.directive.key) := by
    intro unserved
    rcases exists_firstUnserved unserved with ⟨entry, first⟩
    exact ⟨entry, first, renderMarkup_of_firstUnserved located first⟩
  cases failure with
  | some error =>
      rw [listed]
      refine ⟨nofun, ?_⟩
      rintro _ ⟨⟩
      exact ⟨spans, located, renderMarkup_of_malformed located, refused⟩
  | none =>
      rw [listed]
      refine ⟨?_, nofun⟩
      rintro _ ⟨⟩
      refine ⟨?_, ?_, refused⟩
      · intro html
        by_cases served : forall entry, entry ∈ spans.map (settings.dialect.entry markup) ->
            settings.Serves entry.directive.key
        · rw [renderMarkup_of_serves located served, Except.ok.injEq, eq_comm, and_iff_right served]
        · rcases refused served with ⟨entry, _, failed⟩
          rw [failed]
          exact iff_of_false nofun fun both => served both.1
      · have unchanged : Span.rewrite id markup 0 spans = markup :=
          search.rewrite_id (liesIn_start markup)
        rw [← Span.replace_eq_rewrite] at unchanged
        rw [List.map_map]
        exact unchanged

/-- Of two templates whose keys differ only in case the last one serves both, and
a key that is not served is the error even if a malformed directive follows. -/
example :
    ({ Settings.standard with templates := .ofList [(['K'], ['1']), (['k'], ['2'])] }).renderMarkup
        "blatex:K, blatex:k".toList = .ok "2, 2".toList ∧
      ({ Settings.standard with templates := .ofList [(['k'], ['2'])] }).renderMarkup
        "blatex:k blatex:a=(x) blatex:k=)".toList = .error (.unhandled ['a']) := by
  decide +kernel

end Settings
end MarkupDirectives
