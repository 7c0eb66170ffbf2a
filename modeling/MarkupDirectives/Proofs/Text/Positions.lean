import Mathlib.Data.List.DropRight
import Mathlib.Data.Prod.Lex
import Mathlib.Data.Set.Function
import Mathlib.Order.Bounds.Defs
import Mathlib.Order.Monotone.Defs
import MarkupDirectives.Proofs.Locator.Contract
import MarkupDirectives.Proofs.Settings.Listing

namespace MarkupDirectives

open Text Cursor Polling

/-!
# Places are exact

A place by line and column stands for one offset of the text, and is found again
past the lines in front of it and then past the characters in its line.  What
lies further back has the later place.
-/

/-! ## Lines and columns of offsets -/

/-- The characters within the width of a first part are those of that part. -/
theorem Text.takeWithin_append (before rest : Text) :
    takeWithin (before ++ rest) (width before) = before := by
  induction before with
  | nil =>
      cases rest with
      | nil => rfl
      | cons c rest =>
          have across : ¬ c.utf8Size ≤ 0 := Nat.not_le_of_gt c.utf8Size_pos
          rw [List.nil_append, width_nil, takeWithin, if_neg across]
  | cons c before inductionHypothesis =>
      rw [List.cons_append, width_cons, takeWithin, if_pos (Nat.le_add_right _ _),
        Nat.add_sub_cancel_left, inductionHypothesis]

namespace Position

/-- The place behind a text, as seen from its beginning. -/
def after (text : Text) : Position :=
  ⟨text.count '\n' + 1, (text.rtakeWhile fun c => c ≠ '\n').length + 1⟩

theorem foldl_past (text : Text) : text.foldl past first = after text := by
  induction text using List.reverseRecOn with
  | nil => rfl
  | append_singleton text c inductionHypothesis =>
      rw [List.foldl_append, inductionHypothesis]
      change past (after text) c = after (text ++ [c])
      by_cases newline : c = '\n'
      · simp [past, after, newline]
      · simp [past, after, newline]

/-- The place of an offset is that behind the text in front of it. -/
theorem ofOffset_width (before rest : Text) :
    ofOffset (before ++ rest) (width before) = after before := by
  rw [ofOffset, takeWithin_append, foldl_past]

end Position

/-! ## Offsets inside characters -/

namespace Text

theorem takeWithin_prefix (text : Text) (limit : Nat) : text.takeWithin limit <+: text := by
  induction text generalizing limit with
  | nil => exact List.nil_prefix
  | cons c text inductionHypothesis =>
      rw [takeWithin]
      split
      · exact (List.prefix_cons_inj c).mpr (inductionHypothesis _)
      · exact List.nil_prefix

theorem width_takeWithin_le (text : Text) (limit : Nat) :
    width (text.takeWithin limit) ≤ limit := by
  induction text generalizing limit with
  | nil => exact Nat.zero_le _
  | cons c text inductionHypothesis =>
      rw [takeWithin]
      split
      · next fits =>
          have further := inductionHypothesis (limit - c.utf8Size)
          rw [width_cons]
          omega
      · exact Nat.zero_le _

/-- A first part that fits is taken. -/
theorem prefix_takeWithin {before rest : Text} {limit : Nat} (fits : width before ≤ limit) :
    before <+: takeWithin (before ++ rest) limit := by
  induction before generalizing limit with
  | nil => exact List.nil_prefix
  | cons c before inductionHypothesis =>
      rw [width_cons] at fits
      have first : c.utf8Size ≤ limit := Nat.le_trans (Nat.le_add_right _ _) fits
      rw [List.cons_append, takeWithin, if_pos first, List.prefix_cons_inj]
      exact inductionHypothesis (by omega)

/-- The characters within an offset end at the last boundary up to that
offset. -/
theorem isGreatest_width_takeWithin (text : Text) (offset : Nat) :
    IsGreatest {place | text.IsBoundary place ∧ place ≤ min offset (width text)}
      (width (text.takeWithin offset)) := by
  rcases takeWithin_prefix text offset with ⟨rest, whole⟩
  have inside : width (text.takeWithin offset) ≤ width text := by
    rw [← congrArg width whole, width_append]
    exact Nat.le_add_right _ _
  constructor
  · exact ⟨⟨_, rest, whole.symm, rfl⟩, Nat.le_min.mpr ⟨width_takeWithin_le text offset, inside⟩⟩
  · rintro _ ⟨⟨before, after, rfl, rfl⟩, fits⟩
    have taken : before <+: takeWithin (before ++ ([] ++ after)) offset :=
      prefix_takeWithin (Nat.le_min.mp fits).1
    rcases taken with ⟨further, whole⟩
    rw [← congrArg width whole, width_append]
    exact Nat.le_add_right _ _

/-! ## The last line of a text -/

/-- Nothing follows the last newline. -/
def CompleteLines (text : Text) : Prop := (text.rtakeWhile fun c => c ≠ '\n') = []

/-- The last line of a text is also the last line of what follows any newline in
it. -/
theorem rtakeWhile_append_newline (before after : Text) :
    ((before ++ '\n' :: after).rtakeWhile fun c => c ≠ '\n') = after.rtakeWhile fun c => c ≠
      '\n' := by
  induction after using List.reverseRecOn with
  | nil => exact List.rtakeWhile_concat_neg _ _ _ (by decide)
  | append_singleton after c inductionHypothesis =>
      rw [← List.cons_append, ← List.append_assoc, List.rtakeWhile_concat, List.rtakeWhile_concat,
        inductionHypothesis]

/-- Behind complete lines the last line is what follows them. -/
theorem CompleteLines.rtakeWhile_append {lines run : Text} (complete : CompleteLines lines)
    (unbroken : '\n' ∉ run) :
    ((lines ++ run).rtakeWhile fun c => c ≠ '\n') = run := by
  induction run using List.reverseRecOn with
  | nil => rwa [List.append_nil]
  | append_singleton run c inductionHypothesis =>
      rw [List.mem_append, not_or, List.mem_singleton] at unbroken
      have kept : decide (c ≠ '\n') = true := decide_eq_true (Ne.symm unbroken.2)
      rw [← List.append_assoc, List.rtakeWhile_concat, if_pos kept, inductionHypothesis unbroken.1]

/-- Complete lines without a newline are no lines. -/
theorem CompleteLines.eq_nil {lines : Text} (complete : CompleteLines lines)
    (unbroken : '\n' ∉ lines) : lines = [] := by
  have noLines : CompleteLines [] := rfl
  exact (noLines.rtakeWhile_append unbroken).symm.trans complete

/-- Every text consists of complete lines and a last line. -/
theorem exists_completeLines (text : Text) :
    Exists fun lines : Text => Exists fun run : Text =>
      text = lines ++ run ∧ CompleteLines lines ∧ '\n' ∉ run := by
  refine ⟨text.rdropWhile fun c => c ≠ '\n', text.rtakeWhile fun c => c ≠ '\n', ?_, ?_, ?_⟩
  · exact List.rdropWhile_append_rtakeWhile.symm
  · exact List.rtakeWhile_eq_nil_iff.mpr fun nonempty => List.rdropWhile_last_not _ _ nonempty
  · intro member
    have kept := List.mem_rtakeWhile_imp member
    simp at kept

end Text

/-! ## Going to a place -/

namespace Cursor

/-- The place behind the next newline. -/
def pastLine? (cursor : Cursor) : Option Cursor :=
  (cursor.skipWhile fun c => c ≠ '\n').after? ['\n']

/-- The place behind as many newlines. -/
def pastLines? : (count : Nat) -> (cursor : Cursor) -> Option Cursor
  | 0, cursor => some cursor
  | count + 1, cursor => cursor.pastLine?.bind (pastLines? count)

/-- The place behind the next character, if that is no newline. -/
def pastColumn? : (cursor : Cursor) -> Option Cursor
  | ⟨_, []⟩ => none
  | ⟨offset, c :: rest⟩ => if c = '\n' then none else some ⟨offset + c.utf8Size, rest⟩

/-- The place behind as many characters, none of which is a newline. -/
def pastColumns? : (count : Nat) -> (cursor : Cursor) -> Option Cursor
  | 0, cursor => some cursor
  | count + 1, cursor => cursor.pastColumn?.bind (pastColumns? count)

theorem pastLine?_eq_some_iff {cursor later : Cursor} :
    cursor.pastLine? = some later ↔
      Exists fun line : Text => cursor.Reads (line ++ ['\n']) later ∧ '\n' ∉ line := by
  rw [pastLine?]
  constructor
  · intro found
    have line := (reads_skipWhile cursor fun c => c ≠ '\n').trans (reads_of_after? found)
    exact ⟨_, line, fun member => by simpa using List.mem_takeWhile_imp member⟩
  · rintro ⟨line, reads, unbroken⟩
    rcases reads.exists_between with ⟨ending, first, newline⟩
    have skipped : (cursor.skipWhile fun c => c ≠ '\n') = ending := by
      apply skipWhile_eq_of_reads first
      · intro c member
        exact decide_eq_true fun same => unbroken (same ▸ member)
      · intro c here
        rw [newline.ahead] at here
        cases here
        rfl
    rw [skipped]
    exact after?_eq_some_iff.mpr ⟨newline.ahead, newline.offset⟩

/-- What lies behind as many newlines is reached by reading as many complete
lines. -/
theorem pastLines?_eq_some_iff {count : Nat} {cursor later : Cursor} :
    cursor.pastLines? count = some later ↔
      Exists fun lines : Text =>
        cursor.Reads lines later ∧ CompleteLines lines ∧ lines.count '\n' = count := by
  induction count generalizing cursor with
  | zero =>
      rw [pastLines?, Option.some.injEq]
      constructor
      · rintro rfl
        exact ⟨[], Reads.refl cursor, rfl, rfl⟩
      · rintro ⟨lines, reads, complete, unbroken⟩
        have nothing : lines = [] := complete.eq_nil (List.count_eq_zero.mp unbroken)
        subst nothing
        exact (Reads.refl cursor).later_unique reads
  | succ count inductionHypothesis =>
      rw [pastLines?, Option.bind_eq_some_iff]
      constructor
      · rintro ⟨next, found, further⟩
        rcases pastLine?_eq_some_iff.mp found with ⟨line, first, unbroken⟩
        rcases inductionHypothesis.mp further with ⟨lines, reads, complete, counted⟩
        refine ⟨_, first.trans reads, ?_, ?_⟩
        · rw [CompleteLines, List.append_assoc, List.singleton_append, rtakeWhile_append_newline]
          exact complete
        · rw [List.count_append, List.count_append, List.count_eq_zero.mpr unbroken,
            List.count_singleton_self, counted]
          omega
      · rintro ⟨lines, reads, complete, counted⟩
        have broken : '\n' ∈ lines := List.count_pos_iff.mp (by omega)
        rcases List.eq_append_cons_of_mem broken with ⟨line, others, rfl, unbroken⟩
        rw [CompleteLines, rtakeWhile_append_newline] at complete
        rw [List.count_append, List.count_cons_self, List.count_eq_zero.mpr unbroken] at counted
        rw [List.append_cons] at reads
        rcases reads.exists_between with ⟨next, first, rest⟩
        exact ⟨next, pastLine?_eq_some_iff.mpr ⟨line, first, unbroken⟩,
          inductionHypothesis.mpr ⟨others, rest, complete, by omega⟩⟩

theorem pastColumn?_eq_some_iff {cursor later : Cursor} :
    cursor.pastColumn? = some later ↔ Exists fun c : Char => cursor.Reads [c] later ∧ c ≠ '\n' := by
  rcases cursor with ⟨offset, _ | ⟨c, rest⟩⟩
  · refine iff_of_false nofun ?_
    rintro ⟨c, ⟨ahead, _⟩, _⟩
    cases ahead
  · have reads := reads_cons offset c rest
    rw [pastColumn?]
    split
    · next newline =>
        refine iff_of_false nofun ?_
        rintro ⟨d, ⟨ahead, _⟩, solid⟩
        exact solid ((List.cons.inj ahead).1.symm.trans newline)
    · next solid =>
        rw [Option.some.injEq]
        constructor
        · rintro rfl
          exact ⟨c, reads, solid⟩
        · rintro ⟨d, further, _⟩
          cases (List.cons.inj further.ahead).1
          exact reads.later_unique further

/-- What lies behind as many characters of a line is reached by reading as many
characters, none of which is a newline. -/
theorem pastColumns?_eq_some_iff {count : Nat} {cursor later : Cursor} :
    cursor.pastColumns? count = some later ↔
      Exists fun run : Text => cursor.Reads run later ∧ '\n' ∉ run ∧ run.length = count := by
  induction count generalizing cursor with
  | zero =>
      rw [pastColumns?, Option.some.injEq]
      constructor
      · rintro rfl
        exact ⟨[], Reads.refl cursor, List.not_mem_nil, rfl⟩
      · rintro ⟨run, reads, _, counted⟩
        cases List.length_eq_zero_iff.mp counted
        exact (Reads.refl cursor).later_unique reads
  | succ count inductionHypothesis =>
      rw [pastColumns?, Option.bind_eq_some_iff]
      constructor
      · rintro ⟨next, found, further⟩
        rcases pastColumn?_eq_some_iff.mp found with ⟨c, first, solid⟩
        rcases inductionHypothesis.mp further with ⟨run, reads, unbroken, counted⟩
        refine ⟨_, first.trans reads, ?_, congrArg Nat.succ counted⟩
        rw [List.singleton_append, List.mem_cons, not_or]
        exact ⟨Ne.symm solid, unbroken⟩
      · rintro ⟨run, reads, unbroken, counted⟩
        rcases List.exists_cons_of_length_eq_add_one counted with ⟨c, run, rfl⟩
        rw [List.mem_cons, not_or] at unbroken
        rw [← List.singleton_append] at reads
        rcases reads.exists_between with ⟨next, first, rest⟩
        exact ⟨next, pastColumn?_eq_some_iff.mpr ⟨c, first, Ne.symm unbroken.1⟩,
          inductionHypothesis.mpr ⟨run, rest, unbroken.2, Nat.succ.inj counted⟩⟩

end Cursor

namespace Position

/-- The offset of a place: past the lines in front of it, and then past the
characters in front of it in its line.  Both are counted from one. -/
def offsetIn? : (position : Position) -> (text : Text) -> Option Nat
  | ⟨line + 1, column + 1⟩, text =>
      (((Cursor.start text).pastLines? line).bind (Cursor.pastColumns? column)).map (·.offset)
  | _, _ => none

theorem after_append {lines run : Text} (complete : CompleteLines lines) (unbroken : '\n' ∉ run) :
    after (lines ++ run) = ⟨lines.count '\n' + 1, run.length + 1⟩ := by
  rw [after, List.count_append, List.count_eq_zero.mpr unbroken,
    complete.rtakeWhile_append unbroken]

/-- A place leads to the boundary of which it is the place, and nowhere else. -/
theorem offsetIn?_eq_some_iff {position : Position} {text : Text} {offset : Nat} :
    position.offsetIn? text = some offset ↔
      text.IsBoundary offset ∧ ofOffset text offset = position := by
  constructor
  · intro found
    unfold offsetIn? at found
    split at found
    · next line column =>
        rcases Option.map_eq_some_iff.mp found with ⟨place, reached, rfl⟩
        rcases Option.bind_eq_some_iff.mp reached with ⟨lineStart, passed, further⟩
        rcases Cursor.pastLines?_eq_some_iff.mp passed with ⟨lines, reads, complete, rfl⟩
        rcases Cursor.pastColumns?_eq_some_iff.mp further with ⟨run, goesOn, unbroken, rfl⟩
        have inText := (liesIn_start text).of_reads (reads.trans goesOn)
        have whole : text = (lines ++ run) ++ place.rest := (reads.trans goesOn).ahead
        have wide : place.offset = width (lines ++ run) :=
          ((reads.trans goesOn).offset).trans (Nat.zero_add _)
        refine ⟨inText.isBoundary, ?_⟩
        rw [wide, whole, ofOffset_width, after_append complete unbroken]
    · cases found
  · rintro ⟨⟨before, rest, rfl, rfl⟩, rfl⟩
    rcases exists_completeLines before with ⟨lines, run, rfl, complete, unbroken⟩
    have reads :
        (Cursor.start (lines ++ run ++ ([] ++ rest))).Reads lines ⟨0 + width lines, run ++ rest⟩ :=
      ⟨List.append_assoc _ _ _, rfl⟩
    have goesOn : Reads ⟨0 + width lines, run ++ rest⟩ run ⟨0 + width lines + width run, rest⟩ :=
      ⟨rfl, rfl⟩
    rw [ofOffset_width, after_append complete unbroken, offsetIn?,
      Cursor.pastLines?_eq_some_iff.mpr ⟨lines, reads, complete, rfl⟩, Option.bind_some,
      Cursor.pastColumns?_eq_some_iff.mpr ⟨run, goesOn, unbroken, rfl⟩, Option.map_some,
      Nat.zero_add, width_append]

/-! ## The order of places -/

/-- Places in the order of reading: by line first, and by column within a
line. -/
def inOrder (position : Position) : Lex (Nat × Nat) := toLex (position.line, position.column)

theorem inOrder_lt_past (position : Position) (c : Char) :
    position.inOrder < (position.past c).inOrder := by
  unfold past inOrder
  rw [Prod.Lex.toLex_lt_toLex]
  split
  · exact Or.inl (Nat.lt_succ_self _)
  · exact Or.inr ⟨rfl, Nat.lt_succ_self _⟩

theorem inOrder_lt_foldl_past (position : Position) {passed : Text} (nonempty : passed ≠ []) :
    position.inOrder < (passed.foldl past position).inOrder := by
  induction passed using List.reverseRecOn with
  | nil => exact absurd rfl nonempty
  | append_singleton passed c inductionHypothesis =>
      rw [List.foldl_append]
      have last := inOrder_lt_past (passed.foldl past position) c
      by_cases empty : passed = []
      · subst empty
        exact last
      · exact lt_trans (inductionHypothesis empty) last

/-- Of two boundaries the further one has the later place. -/
theorem strictMonoOn_inOrder_ofOffset (text : Text) :
    StrictMonoOn (fun offset => (ofOffset text offset).inOrder)
      {offset | text.IsBoundary offset} := by
  rintro _ ⟨before, rest, rfl, rfl⟩ _ ⟨other, after, same, rfl⟩ further
  rw [List.nil_append] at same ⊢
  rcases List.append_eq_append_iff.mp same with ⟨passed, rfl, _⟩ | ⟨passed, rfl, _⟩
  · rw [width_append] at further
    have nonempty : passed ≠ [] := fun empty => by
      rw [empty, width_nil] at further
      omega
    change (ofOffset (before ++ rest) (width before)).inOrder <
      (ofOffset (before ++ rest) _).inOrder
    rw [ofOffset_width, same, List.nil_append, ofOffset_width, ← foldl_past, ← foldl_past,
      List.foldl_append]
    exact inOrder_lt_foldl_past _ nonempty
  · rw [width_append] at further
    omega

end Position

/-- The entries of a listing stand in it as their directives stand in the
text. -/
theorem Dialect.pairwise_of_scan {dialect : Dialect} {markup : Text} {entries : List Entry}
    (listed : dialect.scan markup = .ok entries) :
    entries.Pairwise fun earlier later =>
      earlier.span.start < later.span.start ∧
      earlier.position.inOrder < later.position.inOrder := by
  rcases dialect.exists_located markup with ⟨spans, failure, _, items, located⟩
  rw [scan_of_locate items] at listed
  cases failure with
  | some error => cases listed
  | none =>
      cases listed
      rw [List.pairwise_map]
      refine located.ordered.imp_of_mem ?_
      intro earlier later member alsoMember ordered
      have further : earlier.start < later.start :=
        Nat.lt_of_lt_of_le (located.bounded earlier member).1 ordered
      exact ⟨further,
        Position.strictMonoOn_inOrder_ofOffset markup (located.boundaries earlier member).1
        (located.boundaries later alsoMember).1 further⟩

namespace Position

/-- The place of an offset is that of the last boundary up to it, and leads back to
this boundary and to no other.  Of two boundaries the further one has the later
place.  The entries of a listing are in the order of their places. -/
theorem ofOffset_is_exact (text : Text) :
    (forall offset, Exists fun boundary : Nat =>
      IsGreatest {place | text.IsBoundary place ∧ place ≤ min offset (width text)} boundary ∧
        ofOffset text offset = ofOffset text boundary ∧
        (ofOffset text offset).offsetIn? text = some boundary) ∧
    (forall (position : Position) (offset : Nat),
      position.offsetIn? text = some offset ↔
        text.IsBoundary offset ∧ ofOffset text offset = position) ∧
    StrictMonoOn (fun offset => (ofOffset text offset).inOrder) {offset | text.IsBoundary offset} ∧
    Set.InjOn (ofOffset text) {offset | text.IsBoundary offset} ∧
    forall (dialect : Dialect) (entries : List Entry), dialect.scan text = .ok entries ->
      entries.Pairwise fun earlier later =>
        earlier.span.start < later.span.start ∧
        earlier.position.inOrder < later.position.inOrder := by
  refine ⟨?_, fun _ _ => offsetIn?_eq_some_iff, strictMonoOn_inOrder_ofOffset text, ?_, ?_⟩
  · intro offset
    have greatest := isGreatest_width_takeWithin text offset
    have same : ofOffset text offset = ofOffset text (width (text.takeWithin offset)) := by
      rcases takeWithin_prefix text offset with ⟨rest, whole⟩
      have place := ofOffset_width (text.takeWithin offset) rest
      rw [whole] at place
      rw [place, ofOffset, foldl_past]
    exact ⟨_, greatest, same, offsetIn?_eq_some_iff.mpr ⟨greatest.1.1, same.symm⟩⟩
  · intro first boundary second alsoBoundary same
    exact (strictMonoOn_inOrder_ofOffset text).injOn boundary alsoBoundary (congrArg inOrder same)
  · intro dialect entries listed
    exact Dialect.pairwise_of_scan listed

/-- The offset of the second byte of a character has the place of that
character, and from there back the offset of its first byte is found. -/
example : ofOffset "é\nxüy".toList 5 = ⟨2, 2⟩ ∧
    (⟨2, 2⟩ : Position).offsetIn? "é\nxüy".toList = some 4 := by decide +kernel

end Position
end MarkupDirectives
