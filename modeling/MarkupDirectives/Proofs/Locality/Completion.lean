import MarkupDirectives.Proofs.Scope.Standard

namespace MarkupDirectives

open Text Cursor Character

/-!
# Scanning a text that goes on

In the standard dialect, two results last when a text goes on: a closing token
that is not expected, and an end behind which, and behind white space there, two
more characters stand.  If the end of the text is noticed, then the closing of
the scopes that are open there decides.
-/

namespace Cursor

variable {cursor : Cursor} {accept : Char -> Bool}

theorem two_le_of_skipWhile (long : 2 ≤ (cursor.skipWhile accept).rest.length) :
    2 ≤ cursor.rest.length :=
  Nat.le_trans long (cursor.length_skipWhile_le accept)

theorem rest_ne_nil_of_two_le (long : 2 ≤ cursor.rest.length) : cursor.rest ≠ [] :=
  List.ne_nil_of_length_pos (Nat.lt_of_lt_of_le Nat.two_pos long)

end Cursor

namespace Dialect

/-- The dialect is the standard one, with or without ignoring the case of the
marker. -/
def IsStandard (dialect : Dialect) : Prop :=
  Exists fun ignoreCase : Bool => dialect = standard.withIgnoreCase ignoreCase

namespace IsStandard

variable {dialect : Dialect} {cursor : Cursor}

theorem delimiters (usual : dialect.IsStandard) : dialect.delimiters = standard.delimiters := by
  rcases usual with ⟨_, rfl⟩
  rfl

theorem assignment (usual : dialect.IsStandard) : dialect.assignment = ['='] := by
  rcases usual with ⟨_, rfl⟩
  rfl

theorem marker (usual : dialect.IsStandard) : dialect.marker = standard.marker := by
  rcases usual with ⟨_, rfl⟩
  rfl

/-- No token of a delimiter is longer than two characters. -/
theorem length_le (usual : dialect.IsStandard) : forall delimiter, delimiter ∈ dialect.delimiters ->
    delimiter.opening.length ≤ 2 ∧ delimiter.closing.length ≤ 2 := by
  rw [usual.delimiters]
  decide

theorem opening?_extend (usual : dialect.IsStandard) (long : 2 ≤ cursor.rest.length) (more : Text) :
    dialect.opening? (cursor.extend more) =
      (dialect.opening? cursor).map fun found => (found.1, found.2.extend more) := by
  apply Dialect.opening?_extend
  intro delimiter inside found
  have short := (usual.length_le delimiter (opening?_eq_some found).1).1
  exact offset_le_textEnd_of_length_le (reads_of_opening? found) (Nat.le_trans short long)

theorem closing?_extend (usual : dialect.IsStandard) (long : 2 ≤ cursor.rest.length) (more : Text) :
    dialect.closing? (cursor.extend more) = dialect.closing? cursor := by
  apply Dialect.closing?_extend
  intro token found
  rcases closing?_eq_some found with ⟨⟨delimiter, member, rfl⟩, rest, ahead⟩
  have reads :
      (cursor.extend more).Reads delimiter.closing
        ⟨cursor.offset + width delimiter.closing, rest⟩ :=
    ⟨ahead.symm, rfl⟩
  exact offset_le_textEnd_of_length_le reads
    (Nat.le_trans (usual.length_le delimiter member).2 long)

theorem afterAssignment?_extend (usual : dialect.IsStandard) (long : 2 ≤ cursor.rest.length)
    (more : Text) :
    dialect.afterAssignment? (cursor.extend more) =
      (dialect.afterAssignment? cursor).map fun next => next.extend more := by
  apply Dialect.afterAssignment?_extend
  intro next found
  have reads := reads_of_afterAssignment? found
  rw [usual.assignment] at reads
  exact offset_le_textEnd_of_length_le reads (Nat.le_trans (Nat.le_succ 1) long)

end IsStandard

/-! ## Results that last -/

/-- The result does not change if the text goes on. -/
def Lasting : Except SyntaxError Cursor -> Prop
  | .ok stop => 2 ≤ (stop.skipWhile isWhitespace).rest.length
  | .error (.outOfRange _ _) => False
  | .error (.unexpectedClosing _ _) => True

variable {dialect : Dialect} {assigned marked inside : Cursor} {delimiter : Delimiter}
  {left : List Delimiter}

/-- Behind an assignment token the scan of the longer text goes on as that of
the value. -/
theorem scanDirective_extend_of_assigned
    (found : dialect.afterAssignment? ((marked.skipWhile isIdentifier).skipWhile isWhitespace) =
      some assigned)
    (more : Text) :
    dialect.scanDirective (marked.extend more) = dialect.scanValue (assigned.extend more) := by
  have gapLeft : ((marked.skipWhile isIdentifier).skipWhile isWhitespace).rest ≠ [] := by
    intro ended
    rw [afterAssignment?_of_end ended] at found
    cases found
  have keyLeft : (marked.skipWhile isIdentifier).rest ≠ [] := by
    intro ended
    apply gapLeft
    rw [skipWhile, ended]
    rfl
  simp only [scanDirective, skipWhile_extend_of_ne_nil keyLeft, skipWhile_extend_of_ne_nil gapLeft,
    afterAssignment?_extend_of_some found]

/-- Behind an opening token it goes on with the scope that is opened. -/
theorem scanValue_extend_of_opening (usual : dialect.IsStandard)
    (opens : dialect.opening? (assigned.skipWhile isWhitespace) = some (delimiter, inside))
    (more : Text) :
    dialect.scanValue (assigned.extend more) =
      dialect.closeScopes [delimiter] (inside.extend more) := by
  have valueLeft : (assigned.skipWhile isWhitespace).rest ≠ [] := by
    intro ended
    rw [opening?_of_end ended] at opens
    cases opens
  have alsoOpens :=
    opening?_of_reads usual.delimiters (opening?_eq_some opens).1
      ((reads_of_opening? opens).extend more)
  simp only [scanValue, skipWhile_extend_of_ne_nil valueLeft, alsoOpens]

theorem scanValue_extend_of_lasting (usual : dialect.IsStandard)
    (lasting : Lasting (dialect.scanValue assigned)) (more : Text) :
    dialect.scanValue (assigned.extend more) =
      (dialect.scanValue assigned).map fun stop => stop.extend more := by
  cases opens : dialect.opening? (assigned.skipWhile isWhitespace) with
  | some opened =>
      rcases opened with ⟨delimiter, inside⟩
      have short : dialect.scanValue assigned = dialect.closeScopes [delimiter] inside := by
        simp only [scanValue, opens]
      rw [scanValue_extend_of_opening usual opens, short]
      refine closeScopes_extend_of_complete usual.delimiters
        (List.forall_mem_singleton.mpr (opening?_eq_some opens).1) ?_ more
      intro position expected unfinished
      rw [short, unfinished] at lasting
      exact lasting
  | none =>
      cases stray : dialect.closing? (assigned.skipWhile isWhitespace) with
      | some token =>
          have valueLeft : (assigned.skipWhile isWhitespace).rest ≠ [] := by
            intro ended
            rw [closing?_of_end ended] at stray
            cases stray
          rcases closing?_extend_of_some usual.delimiters opens stray more with
            ⟨alsoUnopened, alsoStray⟩
          simp only [scanValue, skipWhile_extend_of_ne_nil valueLeft, opens, stray, alsoUnopened,
            alsoStray]
          rfl
      | none =>
          generalize value_eq : assigned.skipWhile isWhitespace = value at opens stray
          have short : dialect.scanValue assigned =
              if value.rest.head?.any isIdentifier = true then .ok (value.skipWhile isIdentifier)
                  else .ok assigned := by
            simp only [scanValue, value_eq, opens, stray]
          rw [short] at lasting ⊢
          have long : 2 ≤ value.rest.length := by
            split at lasting
            · exact two_le_of_skipWhile (two_le_of_skipWhile lasting)
            · exact value_eq ▸ lasting
          have valueLeft := rest_ne_nil_of_two_le long
          have spaceSkipped :
              (assigned.extend more).skipWhile isWhitespace = value.extend more := by
            rw [skipWhile_extend_of_ne_nil (value_eq ▸ valueLeft), value_eq]
          have begins :
              (value.extend more).rest.head?.any isIdentifier =
                value.rest.head?.any isIdentifier := by
            rcases List.exists_cons_of_ne_nil valueLeft with ⟨c, rest, ahead⟩
            rw [extend_rest, ahead]
            rfl
          simp only [scanValue, spaceSkipped, usual.opening?_extend long,
            usual.closing?_extend long, opens, stray, Option.map_none, begins]
          split at lasting
          · next starts =>
              have runLeft : (value.skipWhile isIdentifier).rest ≠ [] :=
                rest_ne_nil_of_two_le (two_le_of_skipWhile lasting)
              rw [if_pos starts, if_pos starts, skipWhile_extend_of_ne_nil runLeft]
              rfl
          · next starts =>
              rw [if_neg starts, if_neg starts]
              rfl

theorem scanDirective_extend_of_lasting (usual : dialect.IsStandard)
    (lasting : Lasting (dialect.scanDirective marked)) (more : Text) :
    dialect.scanDirective (marked.extend more) =
      (dialect.scanDirective marked).map fun stop => stop.extend more := by
  cases found :
      dialect.afterAssignment? ((marked.skipWhile isIdentifier).skipWhile isWhitespace) with
  | some assigned =>
      have short : dialect.scanDirective marked = dialect.scanValue assigned := by
        simp only [scanDirective, found]
      rw [scanDirective_extend_of_assigned found, short]
      exact scanValue_extend_of_lasting usual (short ▸ lasting) more
  | none =>
      have short : dialect.scanDirective marked = .ok (marked.skipWhile isIdentifier) := by
        simp only [scanDirective, found]
      rw [short] at lasting ⊢
      have long : 2 ≤ ((marked.skipWhile isIdentifier).skipWhile isWhitespace).rest.length :=
        lasting
      have gapLeft := rest_ne_nil_of_two_le long
      have keyLeft := rest_ne_nil_of_two_le (two_le_of_skipWhile long)
      simp only [scanDirective, skipWhile_extend_of_ne_nil keyLeft,
        skipWhile_extend_of_ne_nil gapLeft, usual.afterAssignment?_extend long, found]
      rfl

/-! ## Values that are not finished -/

/-- A marker has been read, and at the end of the text the scopes in `left` of
the value of its directive are open. -/
def LeavesOpen (dialect : Dialect) (marked : Cursor) (left : List Delimiter) : Prop :=
  Exists fun assigned : Cursor => Exists fun delimiter : Delimiter => Exists fun inside : Cursor =>
    dialect.afterAssignment? ((marked.skipWhile isIdentifier).skipWhile isWhitespace) =
      some assigned ∧
      dialect.opening? (assigned.skipWhile isWhitespace) = some (delimiter, inside) ∧
      dialect.ReadsScopes [delimiter] inside left ⟨marked.textEnd, []⟩

/-- Only one list of scopes is left open behind a marker. -/
theorem LeavesOpen.unique {others : List Delimiter} (leavesOpen : dialect.LeavesOpen marked left)
    (alsoLeavesOpen : dialect.LeavesOpen marked others) : left = others := by
  rcases leavesOpen with ⟨assigned, delimiter, inside, found, opens, reads⟩
  rcases alsoLeavesOpen with
    ⟨alsoAssigned, alsoDelimiter, alsoInside, alsoFound, alsoOpens, alsoReads⟩
  cases found.symm.trans alsoFound
  cases opens.symm.trans alsoOpens
  exact reads.left_unique rfl alsoReads rfl

/-- The end of the text is noticed exactly if scopes are open there, and the
closing token of the innermost one is missed. -/
theorem scanDirective_eq_outOfRange_iff {position : Nat} {expected : Text} :
    dialect.scanDirective marked = .error (.outOfRange position expected) ↔
      Exists fun innermost : Delimiter => Exists fun outer : List Delimiter =>
        dialect.LeavesOpen marked (innermost :: outer) ∧ position = marked.textEnd ∧
        expected = innermost.closing := by
  constructor
  · intro failed
    have atEnd : position = marked.textEnd := by
      have bounds := dialect.scanDirective_bounds marked
      rwa [failed] at bounds
    simp only [scanDirective] at failed
    split at failed
    · next assigned found =>
        simp only [scanValue] at failed
        split at failed
        · next delimiter inside opens =>
            rcases dialect.exists_endsScopes [delimiter] inside with ⟨left, place, reads, ends⟩
            rw [failed] at ends
            cases ends with
            | @unfinished innermost outer place ended =>
                rcases place with ⟨offset, rest⟩
                cases ended
                change offset = marked.textEnd at atEnd
                subst atEnd
                exact ⟨innermost, outer, ⟨assigned, delimiter, inside, found, opens, reads⟩, rfl,
                  rfl⟩
        · split at failed
          · cases failed
          · split at failed <;> cases failed
    · cases failed
  · rintro ⟨innermost, outer, ⟨assigned, delimiter, inside, found, opens, reads⟩, rfl, rfl⟩
    simp only [scanDirective, found, scanValue, opens]
    rw [reads.closeScopes_eq, closeScopes_of_end rfl]

/-- If the text goes on, then the scopes that were open at its end have to be
closed in what was added. -/
theorem LeavesOpen.scanDirective_extend (usual : dialect.IsStandard)
    (leavesOpen : dialect.LeavesOpen marked left) (more : Text) :
    dialect.scanDirective (marked.extend more) =
      dialect.closeScopes left ⟨marked.textEnd, more⟩ := by
  rcases leavesOpen with ⟨assigned, delimiter, inside, found, opens, reads⟩
  rw [scanDirective_extend_of_assigned found, scanValue_extend_of_opening usual opens]
  exact reads.closeScopes_extend usual.delimiters
    (List.forall_mem_singleton.mpr (opening?_eq_some opens).1) more

end Dialect
end MarkupDirectives
