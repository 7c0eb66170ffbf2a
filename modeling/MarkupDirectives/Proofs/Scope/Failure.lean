import MarkupDirectives.Proofs.Scope.Grammar

namespace MarkupDirectives

open Text Cursor

/-!
# How a scope fails

A scope that does not end has been read up to some place, and there the loop is
stuck.  `Awaits` says which token is waited for at a place, and `ScopeFails` is
the counterpart of `Scope` with an error in place of an end.
-/

/-- Reading a scope that waits for `closing` from the offset `start` on leads to
the offset `place`, and there the innermost open scope waits for `awaited`. -/
inductive Awaits (dialect : Dialect) (text : Text) :
    (closing : Text) -> (start place : Nat) -> (awaited : Text) -> Prop where
  /-- Nothing of the scope has been read. -/
  | here {closing : Text} {start : Nat} : Awaits dialect text closing start start closing
  /-- An inner scope begins, which is open at the place. -/
  | inside {closing awaited : Text} {start place : Nat} {delimiter : Delimiter} :
      ¬ text.HasAt start closing ->
      dialect.OpensAt text start delimiter ->
      Awaits dialect text delimiter.closing (start + width delimiter.opening) place awaited ->
      Awaits dialect text closing start place awaited
  /-- An inner scope begins, which has ended at the place or before. -/
  | behind {closing awaited : Text} {start inner place : Nat} {delimiter : Delimiter} :
      ¬ text.HasAt start closing ->
      dialect.OpensAt text start delimiter ->
      Scope dialect text delimiter.closing (start + width delimiter.opening) inner ->
      Awaits dialect text closing inner place awaited ->
      Awaits dialect text closing start place awaited
  /-- A character at which no token stands is part of the scope. -/
  | plain {closing awaited : Text} {start place : Nat} {c : Char} :
      text.HasAt start [c] ->
      ¬ text.HasAt start closing ->
      (forall delimiter, delimiter ∈ dialect.delimiters ->
        ¬ text.HasAt start delimiter.opening ∧ ¬ text.HasAt start delimiter.closing) ->
      Awaits dialect text closing (start + c.utf8Size) place awaited ->
      Awaits dialect text closing start place awaited

/-- Where a scope waits for `awaited`, the error says truly why it cannot be read
further. -/
def Dialect.StuckAt (dialect : Dialect) (text awaited : Text) : SyntaxError -> Prop
  | .outOfRange position expected => position = width text ∧ expected = awaited
  | .unexpectedClosing position token =>
      ¬ text.HasAt position awaited ∧
        (forall delimiter, delimiter ∈ dialect.delimiters ->
          ¬ text.HasAt position delimiter.opening) ∧
          dialect.ClosesAt text position token

/-- From the offset `start` on a scope that waits for `closing` fails with the
error. -/
def ScopeFails (dialect : Dialect) (text closing : Text) (start : Nat) (error : SyntaxError) :
    Prop :=
  Exists fun awaited : Text =>
    Awaits dialect text closing start error.position awaited ∧ dialect.StuckAt text awaited error

/-- From the offset `start` on one of the scopes fails with the error, after the
scopes inside it have ended.  The innermost scope comes first. -/
def OneFails (dialect : Dialect) (text : Text) :
    (scopes : List Delimiter) -> (start : Nat) -> SyntaxError -> Prop
  | [], _, _ => False
  | innermost :: outer, start, error =>
      ScopeFails dialect text innermost.closing start error ∨
        Exists fun inner : Nat =>
          Scope dialect text innermost.closing start inner ∧ OneFails dialect text outer inner error

variable {dialect : Dialect} {text closing awaited : Text} {start place stop : Nat}
  {delimiter : Delimiter} {error : SyntaxError}

namespace Scope

/-- A scope takes up some of the text. -/
theorem lt (scope : Scope dialect text closing start stop) (nonempty : closing ≠ []) :
    start < stop := by
  induction scope with
  | @close closing start stands =>
      have positive := Nat.pos_of_ne_zero (mt width_eq_zero_iff.mp nonempty)
      omega
  | @nest closing start inner stop delimiter _ _ _ _ insideHypothesis outsideHypothesis =>
      have first := insideHypothesis delimiter.closing_ne_nil
      have second := outsideHypothesis nonempty
      omega
  | plain _ _ _ _ inductionHypothesis =>
      have further := inductionHypothesis nonempty
      omega

end Scope

namespace Awaits

/-! ## One step of the grammar at a time -/

theorem le (awaits : Awaits dialect text closing start place awaited) : start ≤ place := by
  induction awaits with
  | here => exact Nat.le_refl _
  | inside _ _ _ inductionHypothesis => omega
  | @behind _ _ _ _ _ delimiter _ _ scope _ inductionHypothesis =>
      have closed := scope.lt delimiter.closing_ne_nil
      omega
  | plain _ _ _ _ inductionHypothesis => omega

/-- No scope waits for the empty token. -/
theorem awaited_ne_nil (awaits : Awaits dialect text closing start place awaited)
    (nonempty : closing ≠ []) :
    awaited ≠ [] := by
  induction awaits with
  | here => exact nonempty
  | @inside _ _ _ _ delimiter _ _ _ inductionHypothesis =>
      exact inductionHypothesis delimiter.closing_ne_nil
  | behind _ _ _ _ inductionHypothesis => exact inductionHypothesis nonempty
  | plain _ _ _ _ inductionHypothesis => exact inductionHypothesis nonempty

/-- A scope that has ended waits for nothing. -/
theorem eq_of_hasAt (awaits : Awaits dialect text closing start place awaited)
    (stands : text.HasAt start closing) :
    place = start ∧ awaited = closing := by
  cases awaits with
  | here => exact ⟨rfl, rfl⟩
  | inside absent => exact absurd stands absent
  | behind absent => exact absurd stands absent
  | plain _ absent => exact absurd stands absent

theorem cases_of_opensAt (awaits : Awaits dialect text closing start place awaited)
    (opens : dialect.OpensAt text start delimiter) :
    (place = start ∧ awaited = closing) ∨
      Awaits dialect text delimiter.closing (start + width delimiter.opening) place awaited ∨
        Exists fun inner : Nat =>
          Scope dialect text delimiter.closing (start + width delimiter.opening) inner ∧
            Awaits dialect text closing inner place awaited := by
  cases awaits with
  | here => exact Or.inl ⟨rfl, rfl⟩
  | inside _ alsoOpens further =>
      cases opens.unique alsoOpens
      exact Or.inr (Or.inl further)
  | behind _ alsoOpens scope further =>
      cases opens.unique alsoOpens
      exact Or.inr (Or.inr ⟨_, scope, further⟩)
  | plain _ _ bare => exact absurd opens.1 (bare delimiter opens.mem).1

theorem cases_of_unopened (awaits : Awaits dialect text closing start place awaited)
    (unopened : forall delimiter,
      delimiter ∈ dialect.delimiters -> ¬ text.HasAt start delimiter.opening) :
    (place = start ∧ awaited = closing) ∨
      Exists fun c : Char =>
        text.HasAt start [c] ∧
          (forall delimiter, delimiter ∈ dialect.delimiters ->
            ¬ text.HasAt start delimiter.closing) ∧
            Awaits dialect text closing (start + c.utf8Size) place awaited := by
  cases awaits with
  | here => exact Or.inl ⟨rfl, rfl⟩
  | inside _ opens => exact absurd opens.1 (unopened _ opens.mem)
  | behind _ opens => exact absurd opens.1 (unopened _ opens.mem)
  | plain standing _ bare further =>
      exact Or.inr ⟨_, standing, fun other member => (bare other member).2, further⟩

/-! ## The innermost open scope -/

/-- A scope is open at a place in front of its end. -/
theorem lt_of_scope (awaits : Awaits dialect text closing start place awaited)
    (nonempty : closing ≠ []) (scope : Scope dialect text closing start stop) : place < stop := by
  induction awaits generalizing stop with
  | here => exact scope.lt nonempty
  | @inside _ _ _ _ delimiter absent opens _ inductionHypothesis =>
      rcases (Scope.iff_of_opensAt absent opens).mp scope with ⟨inner, within, outside⟩
      exact Nat.lt_trans (inductionHypothesis delimiter.closing_ne_nil within) (outside.lt nonempty)
  | behind absent opens within _ inductionHypothesis =>
      rcases (Scope.iff_of_opensAt absent opens).mp scope with ⟨inner, alsoWithin, outside⟩
      cases within.unique alsoWithin
      exact inductionHypothesis nonempty outside
  | plain standing absent bare _ inductionHypothesis =>
      exact inductionHypothesis nonempty ((Scope.iff_of_plain standing absent bare).mp scope)

/-- Where nothing has been read, the scope itself is the innermost one. -/
theorem eq_of_place_eq (awaits : Awaits dialect text closing start start awaited) :
    awaited = closing := by
  generalize same : start = place at awaits
  cases awaits with
  | here => rfl
  | @inside _ _ _ _ delimiter _ opens further =>
      have positive := Nat.pos_of_ne_zero (mt width_eq_zero_iff.mp delimiter.opening_ne_nil)
      have beyond := further.le
      omega
  | @behind _ _ _ _ _ delimiter _ _ scope further =>
      have closed := scope.lt delimiter.closing_ne_nil
      have beyond := further.le
      omega
  | @plain _ _ _ _ c _ _ _ further =>
      have positive := c.utf8Size_pos
      have beyond := further.le
      omega

/-- At a place there is only one token that is waited for. -/
theorem unique {other : Text} (awaits : Awaits dialect text closing start place awaited)
    (alsoAwaits : Awaits dialect text closing start place other) : awaited = other := by
  induction awaits with
  | here => exact alsoAwaits.eq_of_place_eq.symm
  | @inside _ _ _ _ delimiter absent opens further inductionHypothesis =>
      rcases alsoAwaits.cases_of_opensAt opens with
        ⟨rfl, rfl⟩ | alsoFurther | ⟨inner, scope, alsoFurther⟩
      · exact (Awaits.inside absent opens further).eq_of_place_eq
      · exact inductionHypothesis alsoFurther
      · exact absurd alsoFurther.le
          (Nat.not_le_of_gt (further.lt_of_scope delimiter.closing_ne_nil scope))
  | @behind _ _ _ _ _ delimiter absent opens scope further inductionHypothesis =>
      rcases alsoAwaits.cases_of_opensAt opens with
        ⟨rfl, rfl⟩ | alsoFurther | ⟨inner, alsoScope, alsoFurther⟩
      · exact (Awaits.behind absent opens scope further).eq_of_place_eq
      · exact absurd further.le
          (Nat.not_le_of_gt (alsoFurther.lt_of_scope delimiter.closing_ne_nil scope))
      · cases scope.unique alsoScope
        exact inductionHypothesis alsoFurther
  | plain standing absent bare further inductionHypothesis =>
      rcases alsoAwaits.cases_of_unopened fun other member => (bare other member).1 with
        ⟨rfl, rfl⟩ | ⟨d, alsoStanding, _, alsoFurther⟩
      · exact (Awaits.plain standing absent bare further).eq_of_place_eq
      · cases standing.char_unique alsoStanding
        exact inductionHypothesis alsoFurther

end Awaits

namespace Dialect.StuckAt

theorem not_hasAt (stuck : dialect.StuckAt text awaited error) (nonempty : awaited ≠ []) :
    ¬ text.HasAt error.position awaited := by
  cases error with
  | outOfRange position expected =>
      intro stands
      exact absurd stuck.1 (Nat.ne_of_lt (stands.lt_width nonempty))
  | unexpectedClosing position token => exact stuck.1

theorem unopened (stuck : dialect.StuckAt text awaited error) (delimiter : Delimiter)
    (member : delimiter ∈ dialect.delimiters) : ¬ text.HasAt error.position delimiter.opening := by
  cases error with
  | outOfRange position expected =>
      intro stands
      exact absurd stuck.1 (Nat.ne_of_lt (stands.lt_width delimiter.opening_ne_nil))
  | unexpectedClosing position token => exact stuck.2.1 delimiter member

/-- Unless the text ends, a closing token stands where reading is stuck. -/
theorem eq_width_or_closesAt (stuck : dialect.StuckAt text awaited error) :
    (error = .outOfRange (width text) awaited) ∨
      Exists fun token : Text =>
        error = .unexpectedClosing error.position token ∧
        dialect.ClosesAt text error.position token := by
  cases error with
  | outOfRange position expected =>
      rcases stuck with ⟨rfl, rfl⟩
      exact Or.inl rfl
  | unexpectedClosing position token => exact Or.inr ⟨token, rfl, stuck.2.2⟩

end Dialect.StuckAt

namespace ScopeFails

/-! ## One step of the grammar at a time -/

theorem not_of_hasAt (nonempty : closing ≠ []) (stands : text.HasAt start closing) :
    ¬ ScopeFails dialect text closing start error := by
  rintro ⟨awaited, awaits, stuck⟩
  rcases awaits.eq_of_hasAt stands with ⟨same, rfl⟩
  exact stuck.not_hasAt nonempty (same ▸ stands)

/-- Where a delimiter opens, the inner scope fails or the rest of the outer
one. -/
theorem iff_of_opensAt (absent : ¬ text.HasAt start closing)
    (opens : dialect.OpensAt text start delimiter) :
    ScopeFails dialect text closing start error ↔
      ScopeFails dialect text delimiter.closing (start + width delimiter.opening) error ∨
        Exists fun inner : Nat =>
          Scope dialect text delimiter.closing (start + width delimiter.opening) inner ∧
            ScopeFails dialect text closing inner error := by
  constructor
  · rintro ⟨awaited, awaits, stuck⟩
    rcases awaits.cases_of_opensAt opens with ⟨same, rfl⟩ | further | ⟨inner, scope, further⟩
    · exact absurd (same ▸ opens.1) (stuck.unopened delimiter opens.mem)
    · exact Or.inl ⟨awaited, further, stuck⟩
    · exact Or.inr ⟨inner, scope, awaited, further, stuck⟩
  · rintro (⟨awaited, further, stuck⟩ | ⟨inner, scope, awaited, further, stuck⟩)
    · exact ⟨awaited, .inside absent opens further, stuck⟩
    · exact ⟨awaited, .behind absent opens scope further, stuck⟩

theorem iff_of_plain {c : Char} (standing : text.HasAt start [c])
    (absent : ¬ text.HasAt start closing)
    (bare : forall delimiter, delimiter ∈ dialect.delimiters ->
      ¬ text.HasAt start delimiter.opening ∧ ¬ text.HasAt start delimiter.closing) :
    ScopeFails dialect text closing start error ↔
      ScopeFails dialect text closing (start + c.utf8Size) error := by
  constructor
  · rintro ⟨awaited, awaits, stuck⟩
    rcases awaits.cases_of_unopened fun other member => (bare other member).1 with
      ⟨same, rfl⟩ | ⟨d, alsoStanding, _, further⟩
    · rcases stuck.eq_width_or_closesAt with rfl | ⟨token, _, closes⟩
      · exact absurd same.symm (Nat.ne_of_lt (standing.lt_width (List.cons_ne_nil c [])))
      · rcases closes.exists_mem with ⟨delimiter, member, rfl⟩
        exact absurd (same ▸ closes.1) (bare delimiter member).2
    · cases standing.char_unique alsoStanding
      exact ⟨awaited, further, stuck⟩
  · rintro ⟨awaited, further, stuck⟩
    exact ⟨awaited, .plain standing absent bare further, stuck⟩

/-- At a closing token that is not waited for there is this one error. -/
theorem iff_of_closesAt {token : Text} (absent : ¬ text.HasAt start closing)
    (unopened : forall delimiter,
      delimiter ∈ dialect.delimiters -> ¬ text.HasAt start delimiter.opening)
    (closes : dialect.ClosesAt text start token) :
    ScopeFails dialect text closing start error ↔ error = .unexpectedClosing start token := by
  constructor
  · rintro ⟨awaited, awaits, stuck⟩
    rcases awaits.cases_of_unopened unopened with ⟨same, rfl⟩ | ⟨_, _, unclosed, _⟩
    · rcases closes.exists_mem with ⟨delimiter, _, rfl⟩
      rcases stuck.eq_width_or_closesAt with rfl | ⟨other, named, alsoCloses⟩
      · exact absurd same.symm (Nat.ne_of_lt (closes.1.lt_width delimiter.closing_ne_nil))
      · rw [same] at named alsoCloses
        rw [named, alsoCloses.unique closes]
    · rcases closes.exists_mem with ⟨delimiter, member, rfl⟩
      exact absurd closes.1 (unclosed delimiter member)
  · rintro rfl
    exact ⟨closing, .here, absent, unopened, closes⟩

/-- At the end of the text there is this one error. -/
theorem iff_of_end (ended : start = width text) :
    ScopeFails dialect text closing start error ↔ error = .outOfRange start closing := by
  have nothing : forall token : Text, token ≠ [] -> ¬ text.HasAt start token :=
    fun token nonempty stands => Nat.ne_of_lt (stands.lt_width nonempty) ended
  constructor
  · rintro ⟨awaited, awaits, stuck⟩
    rcases awaits.cases_of_unopened fun other _ => nothing _ other.opening_ne_nil with
      ⟨same, rfl⟩ | ⟨c, standing, _⟩
    · rcases stuck.eq_width_or_closesAt with rfl | ⟨token, _, closes⟩
      · rw [ended]
      · rcases closes.exists_mem with ⟨delimiter, _, rfl⟩
        exact absurd (same ▸ closes.1) (nothing _ delimiter.closing_ne_nil)
    · exact absurd standing (nothing _ (List.cons_ne_nil c []))
  · rintro rfl
    exact ⟨closing, .here, ended, rfl⟩

end ScopeFails

namespace Dialect

variable {scopes : List Delimiter} {cursor : Cursor}

/-! ## The loop and the grammar -/

/-- The loop gives an error exactly if the grammar has it. -/
theorem closeScopes_eq_error_iff (inText : cursor.LiesIn text) :
    dialect.closeScopes scopes cursor = .error error ↔
      OneFails dialect text scopes cursor.offset error := by
  fun_induction dialect.closeScopes scopes cursor with
  | case1 cursor =>
      constructor
      · intro failed
        cases failed
      · exact False.elim
  | case2 innermost outer cursor next closes inductionHypothesis =>
      have reads := reads_of_after? closes
      have stands := inText.hasAt_of_reads reads
      rw [inductionHypothesis (inText.of_reads reads), reads.offset]
      simp only [OneFails, ScopeFails.not_of_hasAt innermost.closing_ne_nil stands,
        Scope.iff_of_hasAt stands, false_or, exists_eq_left]
  | case3 innermost outer cursor waits delimiter inside opens inductionHypothesis =>
      have reads := reads_of_opening? opens
      have opensHere := (opensAt_iff inText).mpr ⟨inside, opens⟩
      rw [inductionHypothesis (inText.of_reads reads), reads.offset]
      simp only [OneFails, ScopeFails.iff_of_opensAt (inText.not_hasAt waits) opensHere,
        Scope.iff_of_opensAt (inText.not_hasAt waits) opensHere]
      constructor
      · rintro (first | ⟨inner, scope, second | ⟨middle, further, fails⟩⟩)
        · exact Or.inl (Or.inl first)
        · exact Or.inl (Or.inr ⟨inner, scope, second⟩)
        · exact Or.inr ⟨middle, ⟨inner, scope, further⟩, fails⟩
      · rintro ((first | ⟨inner, scope, second⟩) | ⟨middle, ⟨inner, scope, further⟩, fails⟩)
        · exact Or.inl first
        · exact Or.inr ⟨inner, scope, Or.inl second⟩
        · exact Or.inr ⟨inner, scope, Or.inr ⟨middle, further, fails⟩⟩
  | case4 innermost outer cursor waits unopened token stray =>
      have absent := inText.not_hasAt waits
      have nowhere := (unopened_iff inText).mpr unopened
      have closes := (closesAt_iff inText).mpr stray
      rcases closes.exists_mem with ⟨delimiter, member, rfl⟩
      have endless : forall inner, ¬ Scope dialect text innermost.closing cursor.offset inner :=
        fun _ => Scope.not_of_stuck absent nowhere (Or.inl ⟨delimiter, member, closes.1⟩)
      simp only [OneFails, ScopeFails.iff_of_closesAt absent nowhere closes, endless, false_and,
        exists_false, or_false, Except.error.injEq, eq_comm]
  | case5 innermost outer cursor waits unopened _ ended =>
      have atEnd : cursor.offset = width text := by
        rw [← inText.offset_add_width, ended]
        rfl
      have nothing : forall c, ¬ text.HasAt cursor.offset [c] :=
        fun c standing => Nat.ne_of_lt (standing.lt_width (List.cons_ne_nil c [])) atEnd
      have endless : forall inner, ¬ Scope dialect text innermost.closing cursor.offset inner :=
        fun _ => Scope.not_of_stuck (inText.not_hasAt waits)
          ((unopened_iff inText).mpr unopened) (Or.inr nothing)
      simp only [OneFails, ScopeFails.iff_of_end atEnd, endless, false_and, exists_false, or_false,
        Except.error.injEq, eq_comm]
  | case6 innermost outer cursor waits unopened unclosed c rest ahead inductionHypothesis =>
      have reads : cursor.Reads [c] ⟨cursor.offset + c.utf8Size, rest⟩ := ⟨ahead, rfl⟩
      have bare := (bare_iff inText).mpr ⟨unopened, unclosed⟩
      rw [inductionHypothesis (inText.of_reads reads)]
      simp only [OneFails,
        ScopeFails.iff_of_plain (inText.hasAt_of_reads reads) (inText.not_hasAt waits) bare,
        Scope.iff_of_plain (inText.hasAt_of_reads reads) (inText.not_hasAt waits) bare]

theorem closeScopes_eq_error_iff_scopeFails (inText : cursor.LiesIn text) :
    dialect.closeScopes [delimiter] cursor = .error error ↔
      ScopeFails dialect text delimiter.closing cursor.offset error := by
  rw [closeScopes_eq_error_iff inText]
  simp only [OneFails, and_false, exists_false, or_false]

/-- A scope either ends or fails. -/
theorem exists_scopeFails_iff (dialect : Dialect) (inText : cursor.LiesIn text)
    (delimiter : Delimiter) :
    (Exists fun error : SyntaxError =>
      ScopeFails dialect text delimiter.closing cursor.offset error) ↔
      ¬ Exists fun stop : Nat => Scope dialect text delimiter.closing cursor.offset stop := by
  constructor
  · rintro ⟨error, fails⟩ ⟨stop, scope⟩
    have failed := (closeScopes_eq_error_iff_scopeFails inText).mpr fails
    rcases (closeScopes_iff_scope inText).mpr scope with ⟨place, closed, _⟩
    rw [failed] at closed
    cases closed
  · intro endless
    cases result : dialect.closeScopes [delimiter] cursor with
    | error error => exact ⟨error, (closeScopes_eq_error_iff_scopeFails inText).mp result⟩
    | ok place =>
        exact absurd ⟨place.offset, (closeScopes_iff_scope inText).mp ⟨place, result, rfl⟩⟩ endless

end Dialect

end MarkupDirectives
