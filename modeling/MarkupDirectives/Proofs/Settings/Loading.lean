import MarkupDirectives.Proofs.Files.Access
import MarkupDirectives.Proofs.Settings.Validity
import MarkupDirectives.Settings.Load

namespace MarkupDirectives

/-!
# Where settings come from

Settings have one source, which is chosen before anything is read, and it is not
given up again: not for one further up, nor for what a command overrides.
-/

/-! ## Directories upwards -/

namespace Location

variable {directory above : Location}

theorem mem_upwards_iff : above ∈ directory.upwards ↔ above <+: directory := by
  rw [upwards, List.mem_map]
  constructor
  · rintro ⟨count, _, rfl⟩
    exact List.take_prefix _ _
  · intro beginning
    refine ⟨directory.length - above.length,
      List.mem_range.mpr (Nat.lt_succ_of_le (Nat.sub_le _ _)), ?_⟩
    rw [Nat.sub_sub_self beginning.length_le]
    exact (List.prefix_iff_eq_take.mp beginning).symm

/-- Directories upwards have ever shorter locations. -/
theorem pairwise_upwards (directory : Location) :
    directory.upwards.Pairwise fun near far => far.length < near.length := by
  rw [upwards, List.pairwise_map]
  apply List.pairwise_lt_range.imp_of_mem
  intro first second _ inRange before
  have bound := List.mem_range.mp inRange
  rw [List.length_take, List.length_take]
  omega

end Location

namespace Settings

variable {read? : Text -> Option Settings} {workspace : Workspace} {named source : Option Text}
  {overrides : Option Overrides} {written settings : Settings} {path text : Text}
  {error : LoadError}

/-- The path of the settings file in a directory, whether there is one or
not. -/
def pathIn (directory : Location) : Text := Location.path (directory ++ [settingsFileName])

/-- Settings come from this source: a path or, without one, the standard
settings. -/
inductive ComeFrom (workspace : Workspace) : (named source : Option Text) -> Prop
  | named (path : Text) : ComeFrom workspace (some path) (some path)
  /-- There is something of the name in this directory, and nothing in a nearer
  one. -/
  | nearest {above : Location} (upwards : above <+: workspace.directory)
      (present : workspace.contains (pathIn above) = true)
      (nearest : forall nearer : Location,
        nearer <+: workspace.directory -> above.length < nearer.length ->
        workspace.contains (pathIn nearer) = false) : ComeFrom workspace none (some (pathIn above))
  | standard (absent : forall above : Location, above <+: workspace.directory ->
      workspace.contains (pathIn above) = false) : ComeFrom workspace none none

/-- The source says these settings, valid or not.  In a file, they are what is
read from a text whose UTF-8 encoding is stored there. -/
inductive WrittenIn (read? : Text -> Option Settings) (workspace : Workspace) :
    (source : Option Text) -> Settings -> Prop
  | standard : WrittenIn read? workspace none Settings.standard
  | file {path text : Text} {location : Location} {settings : Settings}
      (stored : workspace.resolve path = .ok (location, .file (String.ofList text).toUTF8))
      (permitted : workspace.tree.refusal? .read location = none)
      (means : read? text = some settings) :
      WrittenIn read? workspace (some path) { settings with source := some path }

/-- The settings are those that are written, but for what is overridden. -/
structure Overridden (overrides : Option Overrides) (written settings : Settings) : Prop where
  marker : settings.directive.marker =
    (overrides.bind Overrides.marker).getD written.directive.marker
  ignoreCase : settings.directive.ignoreCase =
    (overrides.bind Overrides.ignoreCase).getD written.directive.ignoreCase
  assignment : settings.directive.assignment = written.directive.assignment
  delimiters : settings.delimiters = written.delimiters
  templates : settings.templates = written.templates
  source : settings.source = written.source

/-- The source is of no use, for this reason.  Nothing that a command overrides
is considered. -/
inductive Unusable (read? : Text -> Option Settings) (workspace : Workspace) :
    (source : Option Text) -> LoadError -> Prop
  | missing {path : Text} (absent : workspace.contains path = false) :
      Unusable read? workspace (some path) (.noSuchFile path)
  | unreadable {path : Text} {reason : FileError} (present : workspace.contains path = true)
      (failed : workspace.readText path = .error reason) :
      Unusable read? workspace (some path) (.unreadable reason)
  | malformed {path text : Text} (read : workspace.readText path = .ok text)
      (meaningless : read? text = none) : Unusable read? workspace (some path) .malformed
  | invalid {path : Text} {written : Settings} {fault : SettingsFault}
      (stated : WrittenIn read? workspace (some path) written)
      (found : written.fault? = some fault) :
      Unusable read? workspace (some path) (.invalid fault)

/-! ## The source -/

/-- The search upwards finds the nearest, if there is any. -/
theorem comeFrom_discover? (workspace : Workspace) :
    ComeFrom workspace none (discover? workspace) := by
  have searched : discover? workspace =
      (workspace.directory.upwards.find? (workspace.contains ∘ pathIn)).map pathIn := List.find?_map
  rw [searched]
  cases found : workspace.directory.upwards.find? (workspace.contains ∘ pathIn) with
  | none =>
      refine .standard ?_
      intro above beginning
      have absent := List.find?_eq_none.mp found above (Location.mem_upwards_iff.mpr beginning)
      exact Bool.eq_false_iff.mpr absent
  | some above =>
      rcases List.find?_eq_some_iff_append.mp found with
        ⟨present, nearer, farther, upwards, skipped⟩
      have member : above ∈ workspace.directory.upwards := List.mem_of_find?_eq_some found
      refine .nearest (Location.mem_upwards_iff.mp member) present ?_
      intro other beginning longer
      have ordered := workspace.directory.pairwise_upwards
      have alsoMember := Location.mem_upwards_iff.mpr beginning
      rw [upwards] at ordered alsoMember
      rcases List.mem_append.mp alsoMember with near | far
      · simpa using skipped other near
      · have shorter := (List.pairwise_cons.mp (List.pairwise_append.mp ordered).2.1).1
        rcases List.mem_cons.mp far with rfl | further
        · exact absurd longer (Nat.lt_irrefl _)
        · exact absurd longer (Nat.lt_asymm (shorter other further))

/-- Settings have one source. -/
theorem ComeFrom.unique {other : Option Text} (chosen : ComeFrom workspace named source)
    (alsoChosen : ComeFrom workspace named other) : source = other := by
  cases chosen with
  | named path =>
      cases alsoChosen
      rfl
  | @nearest above upwards present nearest =>
      generalize unnamed : none = named at alsoChosen
      cases alsoChosen with
      | named => cases unnamed
      | @nearest below alsoUpwards alsoPresent alsoNearest =>
          have notShorter : ¬ above.length < below.length :=
            fun shorter => Bool.eq_false_iff.mp (nearest below alsoUpwards shorter) alsoPresent
          have notLonger : ¬ below.length < above.length :=
            fun longer => Bool.eq_false_iff.mp (alsoNearest above upwards longer) present
          have sameLength : above.length = below.length := by omega
          have same : above = below :=
            (List.prefix_of_prefix_length_le upwards alsoUpwards
              (Nat.le_of_eq sameLength)).eq_of_length sameLength
          rw [same]
      | standard absent => exact absurd present (Bool.eq_false_iff.mp (absent _ upwards))
  | standard absent =>
      generalize unnamed : none = named at alsoChosen
      cases alsoChosen with
      | named => cases unnamed
      | nearest upwards present => exact absurd present (Bool.eq_false_iff.mp (absent _ upwards))
      | standard => rfl

theorem exists_comeFrom (workspace : Workspace) (named : Option Text) :
    Exists fun source : Option Text => ComeFrom workspace named source := by
  cases named with
  | none => exact ⟨_, comeFrom_discover? workspace⟩
  | some path => exact ⟨_, .named path⟩

theorem ofSource_of_comeFrom_some (chosen : ComeFrom workspace named (some path)) :
    ofSource read? workspace named =
      if workspace.contains path then ofFile read? workspace path
      else .error (.noSuchFile path) := by
  cases chosen with
  | named path => rfl
  | @nearest above upwards present nearest =>
      have same := comeFrom_discover? workspace |>.unique (.nearest upwards present nearest)
      simp only [ofSource, same, present, if_true]

theorem ofSource_of_comeFrom_none (chosen : ComeFrom workspace named none) :
    ofSource read? workspace named = .ok Settings.standard := by
  cases chosen with
  | standard absent =>
      have same := comeFrom_discover? workspace |>.unique (.standard absent)
      simp only [ofSource, same]

/-! ## What the source says -/

theorem writtenIn_some_iff :
    WrittenIn read? workspace (some path) written ↔
      Exists fun text : Text => Exists fun settings : Settings =>
        workspace.readText path = .ok text ∧ read? text = some settings ∧
          written = { settings with source := some path } := by
  constructor
  · intro stated
    cases stated with
    | file stored permitted means =>
        exact ⟨_, _, Workspace.readText_eq_ok_iff.mpr ⟨_, stored, permitted⟩, means, rfl⟩
  · rintro ⟨text, settings, read, means, rfl⟩
    rcases Workspace.readText_eq_ok_iff.mp read with ⟨location, stored, permitted⟩
    exact .file stored permitted means

/-- The standard settings are valid. -/
theorem fault?_standard : Settings.standard.fault? = none := by decide +kernel

/-- The source is of no use, or it says settings that are valid. -/
theorem unusable_or_writtenIn (read? : Text -> Option Settings) (workspace : Workspace)
    (source : Option Text) :
    (Exists fun error : LoadError => Unusable read? workspace source error) ∨
      Exists fun written : Settings =>
        WrittenIn read? workspace source written ∧ written.fault? = none := by
  cases source with
  | none => exact Or.inr ⟨_, .standard, fault?_standard⟩
  | some path =>
      cases present : workspace.contains path with
      | false => exact Or.inl ⟨_, .missing present⟩
      | true =>
          cases read : workspace.readText path with
          | error reason => exact Or.inl ⟨_, .unreadable present read⟩
          | ok text =>
              cases means : read? text with
              | none => exact Or.inl ⟨_, .malformed read means⟩
              | some settings =>
                  have stated :
                      WrittenIn read? workspace (some path) { settings with source := some path } :=
                    writtenIn_some_iff.mpr ⟨text, settings, read, means, rfl⟩
                  cases found : ({ settings with source := some path } : Settings).fault? with
                  | some fault => exact Or.inl ⟨_, .invalid stated found⟩
                  | none => exact Or.inr ⟨_, stated, found⟩

/-! ## Loading -/

theorem validated_of_fault?_eq_none (valid : settings.fault? = none) :
    settings.validated = .ok settings := by
  rw [validated, valid]

theorem validated_of_fault?_eq_some {fault : SettingsFault} (found : settings.fault? = some fault) :
    settings.validated = .error (.invalid fault) := by
  rw [validated, found]

/-- A file that is read and says settings has them checked. -/
theorem ofFile_of_writtenIn (stated : WrittenIn read? workspace (some path) written) :
    ofFile read? workspace path = written.validated := by
  rcases writtenIn_some_iff.mp stated with ⟨text, settings, read, means, rfl⟩
  simp only [ofFile, read, means]

theorem contains_of_writtenIn (stated : WrittenIn read? workspace (some path) written) :
    workspace.contains path = true := by
  rcases writtenIn_some_iff.mp stated with ⟨text, settings, read, _⟩
  exact Workspace.contains_of_readText read

theorem ofSource_of_unusable (chosen : ComeFrom workspace named source)
    (unusable : Unusable read? workspace source error) :
    ofSource read? workspace named = .error error := by
  cases unusable with
  | missing absent => rw [ofSource_of_comeFrom_some chosen, absent, if_neg Bool.false_ne_true]
  | unreadable present failed =>
      simp only [ofSource_of_comeFrom_some chosen, present, if_true, ofFile, failed]
  | malformed read meaningless =>
      simp only [ofSource_of_comeFrom_some chosen, Workspace.contains_of_readText read, if_true,
        ofFile, read, meaningless]
  | invalid stated found =>
      rw [ofSource_of_comeFrom_some chosen, contains_of_writtenIn stated, if_pos rfl,
        ofFile_of_writtenIn stated, validated_of_fault?_eq_some found]

theorem ofSource_of_writtenIn (chosen : ComeFrom workspace named source)
    (stated : WrittenIn read? workspace source written)
    (valid : written.fault? = none) : ofSource read? workspace named = .ok written := by
  cases source with
  | none =>
      cases stated
      exact ofSource_of_comeFrom_none chosen
  | some path =>
      rw [ofSource_of_comeFrom_some chosen, contains_of_writtenIn stated, if_pos rfl,
        ofFile_of_writtenIn stated, validated_of_fault?_eq_none valid]

/-- Nothing that is overridden makes up for a source of no use. -/
theorem load_of_unusable (overrides : Option Overrides) (chosen : ComeFrom workspace named source)
    (unusable : Unusable read? workspace source error) :
    loadBy read? workspace named overrides = .error error := by
  rw [loadBy, ofSource_of_unusable chosen unusable]
  rfl

/-- Valid settings are checked again, with what is overridden. -/
theorem load_of_writtenIn (overrides : Option Overrides) (chosen : ComeFrom workspace named source)
    (stated : WrittenIn read? workspace source written) (valid : written.fault? = none) :
    loadBy read? workspace named overrides =
      (overrides.elim written written.override).validated := by
  rw [loadBy, ofSource_of_writtenIn chosen stated valid]
  cases overrides with
  | none => exact (validated_of_fault?_eq_none valid).symm
  | some given => rfl

/-- Overriding replaces what is given, and there is no other way to do so. -/
theorem overridden_iff :
    Overridden overrides written settings ↔ settings = overrides.elim written written.override := by
  constructor
  · rintro ⟨marker, ignoreCase, assignment, delimiters, templates, source⟩
    rcases settings with ⟨⟨_, _, _⟩, _, _, _⟩
    cases overrides <;> cases marker <;> cases ignoreCase <;> cases assignment <;>
      cases delimiters <;> cases templates <;> cases source <;> rfl
  · rintro rfl
    cases overrides <;> exact ⟨rfl, rfl, rfl, rfl, rfl, rfl⟩

theorem WrittenIn.source_eq (stated : WrittenIn read? workspace source written) :
    written.source = source := by
  cases stated <;> rfl

theorem load_eq_ok_iff (chosen : ComeFrom workspace named source) :
    loadBy read? workspace named overrides = .ok settings ↔
      Exists fun written : Settings =>
        WrittenIn read? workspace source written ∧ written.fault? = none ∧
        Overridden overrides written settings ∧ settings.fault? = none := by
  constructor
  · intro loaded
    rcases unusable_or_writtenIn read? workspace source with
      ⟨error, unusable⟩ | ⟨written, stated, valid⟩
    · rw [load_of_unusable overrides chosen unusable] at loaded
      cases loaded
    · rw [load_of_writtenIn overrides chosen stated valid] at loaded
      cases found : (overrides.elim written written.override).fault? with
      | some fault =>
          rw [validated_of_fault?_eq_some found] at loaded
          cases loaded
      | none =>
          rw [validated_of_fault?_eq_none found] at loaded
          cases loaded
          exact ⟨written, stated, valid, overridden_iff.mpr rfl, found⟩
  · rintro ⟨written, stated, valid, overridden, stillValid⟩
    rw [load_of_writtenIn overrides chosen stated valid]
    cases overridden_iff.mp overridden
    exact validated_of_fault?_eq_none stillValid

theorem load_eq_error_iff (chosen : ComeFrom workspace named source) :
    loadBy read? workspace named overrides = .error error ↔
      Unusable read? workspace source error ∨
        Exists fun written : Settings => Exists fun given : Overrides =>
          Exists fun fault : SettingsFault =>
            WrittenIn read? workspace source written ∧ written.fault? = none ∧
            overrides = some given ∧
              (written.override given).fault? = some fault ∧ error = .invalid fault := by
  constructor
  · intro failed
    rcases unusable_or_writtenIn read? workspace source with
      ⟨reason, unusable⟩ | ⟨written, stated, valid⟩
    · rw [load_of_unusable overrides chosen unusable] at failed
      cases failed
      exact Or.inl unusable
    · rw [load_of_writtenIn overrides chosen stated valid] at failed
      cases found : (overrides.elim written written.override).fault? with
      | none =>
          rw [validated_of_fault?_eq_none found] at failed
          cases failed
      | some fault =>
          rw [validated_of_fault?_eq_some found] at failed
          cases failed
          cases overrides with
          | none =>
              change written.fault? = some fault at found
              rw [valid] at found
              cases found
          | some given => exact Or.inr ⟨written, given, fault, stated, valid, rfl, found, rfl⟩
  · rintro (unusable | ⟨written, given, fault, stated, valid, rfl, found, rfl⟩)
    · exact load_of_unusable overrides chosen unusable
    · rw [load_of_writtenIn _ chosen stated valid]
      exact validated_of_fault?_eq_some found

/-- However a text is read, settings have exactly one source.  They are loaded exactly
if it says settings that are valid both as written and as overridden.  A source of
no use is the error, whatever is overridden, and apart from that only overriding
can be one. -/
theorem load_keeps_contract (read? : Text -> Option Settings) (workspace : Workspace)
    (named : Option Text) (overrides : Option Overrides) :
    Exists fun source : Option Text =>
      (ComeFrom workspace named source ∧
        forall other, ComeFrom workspace named other -> other = source) ∧
      (forall settings, loadBy read? workspace named overrides = .ok settings ↔
        Exists fun written : Settings =>
          WrittenIn read? workspace source written ∧ written.fault? = none ∧
          Overridden overrides written settings ∧ settings.fault? = none) ∧
      (forall settings, loadBy read? workspace named overrides = .ok settings ->
        settings.source = source) ∧
      forall error, loadBy read? workspace named overrides = .error error ↔
        Unusable read? workspace source error ∨
          Exists fun written : Settings => Exists fun given : Overrides =>
            Exists fun fault : SettingsFault =>
              WrittenIn read? workspace source written ∧ written.fault? = none ∧
              overrides = some given ∧
                (written.override given).fault? = some fault ∧ error = .invalid fault := by
  rcases exists_comeFrom workspace named with ⟨source, chosen⟩
  refine ⟨source, ⟨chosen, fun other alsoChosen => alsoChosen.unique chosen⟩,
    fun _ => load_eq_ok_iff chosen, ?_, fun _ => load_eq_error_iff chosen⟩
  intro settings loaded
  rcases (load_eq_ok_iff chosen).mp loaded with ⟨written, stated, _, overridden, _⟩
  rw [overridden.source, stated.source_eq]

end Settings
end MarkupDirectives
