import MarkupDirectives.Files.Tree

namespace MarkupDirectives

/-!
# Reading and writing files

A path leads to a location by way of directories.  A text is read exactly from
the bytes that encode it.  Writing one replaces what is stored at one location,
which is no directory, so paths lead where they have led before.
-/

/-! ## Steps that may fail -/

namespace FileError

variable {A B : Type} {first : Except FileError A} {next : A -> Except FileError B} {result : B}

theorem bind_eq_ok_iff :
    (first >>= next) = .ok result ↔
      Exists fun value : A => first = .ok value ∧ next value = .ok result := by
  cases first with
  | error error => exact iff_of_false nofun fun ⟨_, stopped, _⟩ => nomatch stopped
  | ok value =>
      constructor
      · intro reached
        exact ⟨value, rfl, reached⟩
      · rintro ⟨_, same, reached⟩
        cases same
        exact reached

/-- A check lets through exactly where its condition does not hold. -/
theorem check_eq_ok_iff {condition : Prop} [Decidable condition] {error : FileError}
    {next : Unit -> Except FileError B} :
    (if condition then throw error >>= next else next ()) = .ok result ↔
      ¬ condition ∧ next () = .ok result := by
  by_cases holds : condition
  · rw [if_pos holds]
    exact iff_of_false nofun fun ⟨fails, _⟩ => fails holds
  · rw [if_neg holds]
    exact (and_iff_right holds).symm

end FileError

open FileError

namespace FileTree

variable {tree : FileTree} {names more : List Text} {place stop location : Location}
  {stored : Stored}

theorem lookup?_insert_self (apart : location ≠ []) :
    (tree.insert location stored).lookup? location = some stored := by
  cases location with
  | nil => exact absurd rfl apart
  | cons name location => exact Std.TreeMap.getElem?_insert_self

theorem lookup?_insert_of_ne {other : Location} (different : other ≠ location) :
    (tree.insert location stored).lookup? other = tree.lookup? other := by
  cases other with
  | nil => rfl
  | cons name other =>
      change (tree.stored.insert location stored)[name :: other]? = tree.stored[name :: other]?
      rw [Std.TreeMap.getElem?_insert, if_neg]
      intro same
      exact different (Std.LawfulEqCmp.compare_eq_iff_eq.mp same).symm

theorem permit_eq_ok_iff {access : Access} :
    tree.permit access location = .ok () ↔ tree.refusal? access location = none := by
  rw [permit]
  cases tree.refusal? access location with
  | none => exact iff_of_true rfl rfl
  | some reason => exact iff_of_false nofun nofun

/-- Names can be looked up in a directory, unless the system refuses it. -/
theorem pass_eq_ok_iff :
    tree.pass place = .ok () ↔
      tree.lookup? place = some .directory ∧ tree.refusal? .pass place = none := by
  rw [pass, ← permit_eq_ok_iff]
  cases tree.lookup? place with
  | none => exact iff_of_false nofun nofun
  | some stored =>
      cases stored with
      | file content => exact iff_of_false nofun nofun
      | directory => exact (and_iff_right rfl).symm

theorem follow_cons_eq_ok_iff {name : Text} :
    tree.follow (name :: names) place = .ok stop ↔
      tree.pass place = .ok () ∧ name.width ≤ maxNameWidth ∧
        tree.follow names (place.child name) = .ok stop := by
  simp only [follow, bind_eq_ok_iff, check_eq_ok_iff, Nat.not_lt]
  exact ⟨fun ⟨⟨⟩, reached⟩ => reached, fun reached => ⟨(), reached⟩⟩

/-- Names are followed one after the other. -/
theorem follow_append_eq_ok_iff :
    tree.follow (names ++ more) place = .ok stop ↔
      Exists fun between : Location =>
        tree.follow names place = .ok between ∧ tree.follow more between = .ok stop := by
  induction names generalizing place with
  | nil => simp [follow]
  | cons name names inductionHypothesis =>
      rw [List.cons_append, follow_cons_eq_ok_iff, inductionHypothesis]
      simp only [follow_cons_eq_ok_iff]
      constructor
      · rintro ⟨passed, fits, between, first, second⟩
        exact ⟨between, ⟨passed, fits, first⟩, second⟩
      · rintro ⟨between, ⟨passed, fits, first⟩, second⟩
        exact ⟨passed, fits, between, first, second⟩

/-- Directories are passed as before, if something else is stored at a location
that is none. -/
theorem pass_insert (file : tree.lookup? location ≠ some .directory)
    (passed : tree.pass place = .ok ()) : (tree.insert location stored).pass place = .ok () := by
  rw [pass_eq_ok_iff] at passed ⊢
  have different : place ≠ location := fun same => file (same ▸ passed.1)
  rw [lookup?_insert_of_ne different]
  exact passed

/-- Names lead where they have led, if something else is stored at a location
that is no directory. -/
theorem follow_insert (file : tree.lookup? location ≠ some .directory)
    (followed : tree.follow names place = .ok stop) :
    (tree.insert location stored).follow names place = .ok stop := by
  induction names generalizing place with
  | nil => exact followed
  | cons name names inductionHypothesis =>
      rw [follow_cons_eq_ok_iff] at followed ⊢
      rcases followed with ⟨passed, fits, further⟩
      exact ⟨pass_insert file passed, fits, inductionHypothesis further⟩

end FileTree

namespace Workspace

variable {workspace : Workspace} {path text : Text} {location : Location} {stored : Stored}
  {tree : FileTree}

/-- The path leads to the location by way of directories.  Nothing need be at the
location. -/
structure LeadsTo (workspace : Workspace) (path : Text) (location : Location) : Prop where
  nonempty : path ≠ []
  fits : path.width ≤ FileTree.maxPathWidth
  followed : workspace.tree.follow (pathNames path) (workspace.origin path) = .ok location

/-! ## Reading -/

/-- A path is resolved to a file exactly if it leads to one and does not ask for
a directory. -/
theorem resolve_eq_ok_file_iff {content : ByteArray} :
    workspace.resolve path = .ok (location, .file content) ↔
      workspace.LeadsTo path location ∧
        workspace.tree.lookup? location = some (.file content) ∧ asksForDirectory path = false := by
  simp only [resolve, check_eq_ok_iff, bind_eq_ok_iff, Nat.not_lt]
  constructor
  · rintro ⟨nonempty, fits, stop, followed, found⟩
    cases present : workspace.tree.lookup? stop with
    | none =>
        rw [present] at found
        cases found
    | some stored =>
        rw [present] at found
        cases stored with
        | directory => cases found
        | file other =>
            rcases check_eq_ok_iff.mp found with ⟨plain, same⟩
            cases same
            exact ⟨⟨nonempty, fits, followed⟩, present, Bool.eq_false_iff.mpr plain⟩
  · rintro ⟨leads, present, plain⟩
    refine ⟨leads.nonempty, leads.fits, location, leads.followed, ?_⟩
    rw [present, plain]
    rfl

theorem contains_eq_true_iff :
    workspace.contains path = true ↔
      Exists fun found : Location × Stored => workspace.resolve path = .ok found := by
  unfold contains
  cases workspace.resolve path with
  | error error => exact iff_of_false Bool.false_ne_true nofun
  | ok found => exact iff_of_true rfl ⟨found, rfl⟩

/-- Bytes are read as a text exactly if they encode it. -/
theorem utf8Decode?_eq_some_iff {content : ByteArray} {chars : Array Char} :
    content.utf8Decode? = some chars ↔ content = (String.ofList chars.toList).toUTF8 := by
  constructor
  · intro decoded
    have valid : content.utf8Decode?.isSome = true := decoded ▸ rfl
    have whole : (content.utf8Decode?.get valid).toList.utf8Encode = content :=
      ByteArray.utf8Encode_get_utf8Decode?
    have same : content.utf8Decode?.get valid = chars := Option.get_of_eq_some valid decoded
    rw [same] at whole
    exact whole.symm
  · rintro rfl
    exact List.utf8Decode?_utf8Encode

/-- A text is read from a path exactly if a file there has the bytes that encode
the text, and the system does not refuse to read it. -/
theorem readText_eq_ok_iff :
    workspace.readText path = .ok text ↔
      Exists fun location : Location =>
        workspace.resolve path = .ok (location, .file (String.ofList text).toUTF8) ∧
          workspace.tree.refusal? .read location = none := by
  simp only [readText, bind_eq_ok_iff, ← FileTree.permit_eq_ok_iff]
  constructor
  · rintro ⟨⟨location, stored⟩, resolved, ⟨⟩, permitted, decoded⟩
    refine ⟨location, ?_, permitted⟩
    cases stored with
    | directory => cases decoded
    | file content =>
        cases chars : content.utf8Decode? with
        | none =>
            simp only [chars] at decoded
            cases decoded
        | some array =>
            simp only [chars] at decoded
            cases decoded
            rw [resolved, utf8Decode?_eq_some_iff.mp chars]
  · rintro ⟨location, resolved, permitted⟩
    refine ⟨_, resolved, (), permitted, ?_⟩
    have decoded : ((String.ofList text).toUTF8).utf8Decode? = some text.toArray :=
      utf8Decode?_eq_some_iff.mpr rfl
    simp only [decoded]
    rfl

theorem contains_of_readText (read : workspace.readText path = .ok text) :
    workspace.contains path = true := by
  rcases readText_eq_ok_iff.mp read with ⟨location, resolved, _⟩
  exact contains_eq_true_iff.mpr ⟨_, resolved⟩

/-! ## Writing -/

/-- The path names a file in the directory `parent`, or one that could be made
there. -/
structure NamesFile (workspace : Workspace) (path : Text) (parent : Location)
    (name : Text) : Prop where
  nonempty : path ≠ []
  fits : path.width ≤ FileTree.maxPathWidth
  followed : workspace.tree.follow (pathNames path).dropLast (workspace.origin path) = .ok parent
  passed : workspace.tree.pass parent = .ok ()
  last : (pathNames path).getLast? = some name
  plain : asksForDirectory path = false
  proper : name ≠ ['.'] ∧ name ≠ ['.', '.']
  nameFits : name.width ≤ FileTree.maxNameWidth
  file : workspace.tree.lookup? (parent ++ [name]) ≠ some .directory

/-- Only a file in a directory can be written. -/
theorem exists_namesFile_of_writable (found : workspace.writable path = .ok location) :
    Exists fun parent : Location => Exists fun name : Text =>
      workspace.NamesFile path parent name ∧ location = parent ++ [name] := by
  simp only [writable, check_eq_ok_iff, bind_eq_ok_iff, Nat.not_lt] at found
  rcases found with ⟨nonempty, fits, parent, followed, ⟨⟩, passed, found⟩
  cases last : (pathNames path).getLast? with
  | none =>
      rw [last] at found
      cases found
  | some name =>
      simp only [last, check_eq_ok_iff, not_or, Bool.not_eq_true, Nat.not_lt] at found
      rcases found with ⟨⟨plain, proper⟩, nameFits, found⟩
      have file : workspace.tree.lookup? (parent ++ [name]) ≠ some .directory := by
        intro directory
        rw [directory] at found
        cases found
      have named : workspace.NamesFile path parent name :=
        ⟨nonempty, fits, followed, passed, last, plain, proper, nameFits, file⟩
      refine ⟨parent, name, named, ?_⟩
      split at found
      · cases found
      · rcases bind_eq_ok_iff.mp found with ⟨⟨⟩, _, same⟩
        cases same
        rfl
      · rcases bind_eq_ok_iff.mp found with ⟨⟨⟩, _, same⟩
        cases same
        rfl

/-- The path of a file leads to the file's place in the directory. -/
theorem NamesFile.leadsTo {parent : Location} {name : Text}
    (file : workspace.NamesFile path parent name) : workspace.LeadsTo path (parent ++ [name]) := by
  have child : parent.child name = parent ++ [name] := by
    rw [Location.child, if_neg file.proper.1, if_neg file.proper.2]
  have names : pathNames path = (pathNames path).dropLast ++ [name] := by
    rcases List.getLast?_eq_some_iff.mp file.last with ⟨above, split⟩
    rw [split, List.dropLast_concat]
  have step : workspace.tree.follow [name] parent = .ok (parent ++ [name]) :=
    FileTree.follow_cons_eq_ok_iff.mpr ⟨file.passed, file.nameFits, congrArg Except.ok child⟩
  refine ⟨file.nonempty, file.fits, ?_⟩
  rw [names]
  exact FileTree.follow_append_eq_ok_iff.mpr ⟨parent, file.followed, step⟩

/-- A path leads to the same location after something has been stored at a
location that is no directory. -/
theorem LeadsTo.insert {other : Location} (leads : workspace.LeadsTo path location)
    (file : workspace.tree.lookup? other ≠ some .directory) :
    LeadsTo { workspace with tree := workspace.tree.insert other stored } path location :=
  ⟨leads.nonempty, leads.fits, FileTree.follow_insert file leads.followed⟩

/-- `after` differs from the tree of the workspace at most in what is stored at
the location to which the path leads.  That has been no directory, and is now a
file with the bytes of the text. -/
structure OnlyWrites (workspace : Workspace) (path text : Text) (location : Location)
    (after : FileTree) : Prop where
  leads : workspace.LeadsTo path location
  file : workspace.tree.lookup? location ≠ some .directory
  content : after.lookup? location = some (.file (String.ofList text).toUTF8)
  unchanged : forall other : Location, other ≠ location ->
    after.lookup? other = workspace.tree.lookup? other
  refusals : after.refusal? = workspace.tree.refusal?
  /-- Who may read the file reads the text from it. -/
  read : workspace.tree.refusal? .read location = none ->
    readText { workspace with tree := after } path = .ok text

/-- Writing a text to a path changes nothing else. -/
theorem onlyWrites_of_writeText {after : FileTree}
    (written : workspace.writeText path text = .ok after) :
    Exists fun location : Location => workspace.OnlyWrites path text location after := by
  rcases bind_eq_ok_iff.mp written with ⟨location, found, same⟩
  cases same
  rcases exists_namesFile_of_writable found with ⟨parent, name, named, rfl⟩
  have apart : parent ++ [name] ≠ [] :=
    List.append_ne_nil_of_right_ne_nil _ (List.cons_ne_nil _ _)
  refine ⟨_, named.leadsTo, named.file, FileTree.lookup?_insert_self apart,
    fun other => FileTree.lookup?_insert_of_ne, rfl, ?_⟩
  intro permitted
  refine readText_eq_ok_iff.mpr ⟨_, resolve_eq_ok_file_iff.mpr ?_, permitted⟩
  exact ⟨named.leadsTo.insert named.file, FileTree.lookup?_insert_self apart, named.plain⟩

end Workspace
end MarkupDirectives
