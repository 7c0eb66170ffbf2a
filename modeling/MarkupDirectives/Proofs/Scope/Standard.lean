import MarkupDirectives.Proofs.Scope.Reading

namespace MarkupDirectives

open Text Cursor

/-!
# The standard delimiters

Of the standard tokens none begins with another, so no priority is needed.  All
are single characters, except the `@(` that opens what the parenthesis alone
would open too; so its `@` may as well be passed over.
-/

namespace Dialect

/-- The tokens that open and close scopes. -/
def scopeTokens (dialect : Dialect) : List Text :=
  dialect.delimiters.flatMap fun delimiter => [delimiter.opening, delimiter.closing]

/-- The quotes and brackets of which the standard tokens consist, up to the `@`
in front of a parenthesis. -/
def quotesAndBrackets : List Char := ['"', '\'', '(', ')', '\x7b', '\x7d']

variable {dialect : Dialect}

theorem mem_scopeTokens_iff {token : Text} :
    token ∈ dialect.scopeTokens ↔
      Exists fun delimiter => delimiter ∈ dialect.delimiters ∧
        (delimiter.opening = token ∨ delimiter.closing = token) := by
  simp only [scopeTokens, List.mem_flatMap, List.mem_cons, List.not_mem_nil, or_false, eq_comm]

theorem opening_mem_scopeTokens {delimiter : Delimiter} (member : delimiter ∈ dialect.delimiters) :
    delimiter.opening ∈ dialect.scopeTokens :=
  mem_scopeTokens_iff.mpr ⟨delimiter, member, Or.inl rfl⟩

theorem closing_mem_scopeTokens {delimiter : Delimiter} (member : delimiter ∈ dialect.delimiters) :
    delimiter.closing ∈ dialect.scopeTokens :=
  mem_scopeTokens_iff.mpr ⟨delimiter, member, Or.inr rfl⟩

/-- A token that consists of quotes and brackets begins no text whose first
character is none. -/
theorem not_prefix_cons {token rest : Text} {c : Char} (nonempty : token ≠ [])
    (within : token ⊆ quotesAndBrackets) (foreign : c ∉ quotesAndBrackets) :
    ¬ token <+: c :: rest := by
  rcases List.exists_cons_of_ne_nil nonempty with ⟨t, token, rfl⟩
  intro begins
  rcases List.cons_prefix_cons.mp begins with ⟨rfl, _⟩
  exact foreign (within List.mem_cons_self)

variable (usual : dialect.delimiters = standard.delimiters)
  {innermost delimiter : Delimiter} {scopes left outer : List Delimiter}
  {cursor inside next place : Cursor}
include usual

/-! ## One token at a place -/

theorem scopeTokens_eq : dialect.scopeTokens = standard.scopeTokens :=
  congrArg (List.flatMap fun delimiter : Delimiter => [delimiter.opening, delimiter.closing]) usual

/-- At most one token stands at the beginning of a text. -/
theorem scopeTokens_unique {first second text : Text} (member : first ∈ dialect.scopeTokens)
    (alsoMember : second ∈ dialect.scopeTokens) (begins : first <+: text)
    (alsoBegins : second <+: text) :
    first = second := by
  have prefixFree :
      forall first, first ∈ standard.scopeTokens -> forall second, second ∈ standard.scopeTokens ->
      first <+: second -> first = second := by decide
  rw [scopeTokens_eq usual] at member alsoMember
  rcases List.prefix_or_prefix_of_prefix begins alsoBegins with shorter | longer
  · exact prefixFree first member second alsoMember shorter
  · exact (prefixFree second alsoMember first member longer).symm

/-- The delimiter whose opening token can be read is the one that is found. -/
theorem opening?_of_reads (member : delimiter ∈ dialect.delimiters)
    (reads : cursor.Reads delimiter.opening inside) :
    dialect.opening? cursor = some (delimiter, inside) := by
  have injective :
      forall first, first ∈ standard.delimiters -> forall second, second ∈ standard.delimiters ->
      first.opening = second.opening -> first = second := by decide
  have begins : delimiter.opening <+: cursor.rest := ⟨inside.rest, reads.ahead.symm⟩
  cases found : dialect.opening? cursor with
  | none => exact absurd begins (opening?_eq_none_iff.mp found delimiter member)
  | some opened =>
      rcases opened with ⟨other, alsoInside⟩
      have listed := (opening?_eq_some found).1
      have alsoReads := reads_of_opening? found
      have tokens :=
        scopeTokens_unique usual (opening_mem_scopeTokens listed) (opening_mem_scopeTokens member)
        ⟨alsoInside.rest, alsoReads.ahead.symm⟩ begins
      rw [usual] at listed member
      cases injective other listed delimiter member tokens
      rw [alsoReads.later_unique reads]

/-- Where a delimiter opens, no scope ends that waits for another token. -/
theorem closeScopes_nest_of_reads (listed : innermost ∈ dialect.delimiters)
    (member : delimiter ∈ dialect.delimiters) (different : delimiter.opening ≠ innermost.closing)
    (reads : cursor.Reads delimiter.opening inside) :
    dialect.closeScopes (innermost :: outer) cursor =
      dialect.closeScopes (delimiter :: innermost :: outer) inside := by
  refine closeScopes_nest ?_ (opening?_of_reads usual member reads)
  apply after?_eq_none_iff.mpr
  intro begins
  exact different
    (scopeTokens_unique usual (opening_mem_scopeTokens member) (closing_mem_scopeTokens listed)
    ⟨inside.rest, reads.ahead.symm⟩ begins)

/-! ## Plain characters -/

/-- A character that is no quote and no bracket makes no difference, not even
the `@` in front of a parenthesis. -/
theorem closeScopes_plain_of_not_mem {c : Char} (listed : innermost ∈ dialect.delimiters)
    (foreign : c ∉ quotesAndBrackets) (reads : cursor.Reads [c] next) :
    dialect.closeScopes (innermost :: outer) cursor =
      dialect.closeScopes (innermost :: outer) next := by
  have closingWithin : forall delimiter, delimiter ∈ dialect.delimiters ->
      delimiter.closing ⊆ quotesAndBrackets := by
    rw [usual]
    decide
  have unread :
      forall delimiter, delimiter ∈ dialect.delimiters -> ¬ delimiter.closing <+: cursor.rest := by
    intro delimiter member
    rw [reads.ahead]
    exact not_prefix_cons delimiter.closing_ne_nil (closingWithin delimiter member) foreign
  have waits := after?_eq_none_iff.mpr (unread innermost listed)
  cases opens : dialect.opening? cursor with
  | none => exact closeScopes_plain waits opens (closing?_eq_none_iff.mpr unread) reads
  | some opened =>
      rcases opened with ⟨delimiter, inside⟩
      -- A token that begins with a plain character goes on like the one of another delimiter.
      have shortened : forall delimiter, delimiter ∈ dialect.delimiters ->
          delimiter.opening ⊆ quotesAndBrackets ∨
            Exists fun other =>
              other ∈ dialect.delimiters ∧ delimiter.opening.tail = other.opening ∧
              delimiter.closing = other.closing ∧
              forall scope, scope ∈ dialect.delimiters -> other.opening ≠ scope.closing := by
        rw [usual]
        decide
      have member := (opening?_eq_some opens).1
      have ahead : [c] ++ next.rest = delimiter.opening ++ inside.rest :=
        reads.ahead.symm.trans (reads_of_opening? opens).ahead
      rcases shortened delimiter member with
        within | ⟨other, alsoMember, opening, closing, different⟩
      · exact absurd ⟨inside.rest, ahead.symm⟩
          (not_prefix_cons delimiter.opening_ne_nil within foreign)
      · have token : delimiter.opening = [c] ++ other.opening := by
          rcases List.exists_cons_of_ne_nil delimiter.opening_ne_nil with ⟨t, token, same⟩
          rw [same] at ahead
          rcases List.cons.inj ahead with ⟨rfl, _⟩
          rw [← opening, same]
          rfl
        have whole := reads_of_opening? opens
        rw [token] at whole
        rcases whole.exists_between with ⟨middle, first, further⟩
        cases first.later_unique reads
        rw [closeScopes_nest waits opens,
          closeScopes_nest_of_reads usual listed alsoMember (different innermost listed) further]
        exact closeScopes_congr (congrArg (· :: _) closing)

/-! ## Texts that go on -/

/-- What the loop has read is read in the same way if the text goes on. -/
theorem ReadsScopes.closeScopes_extend (reads : dialect.ReadsScopes scopes cursor left place)
    (listed : forall scope, scope ∈ scopes -> scope ∈ dialect.delimiters) (more : Text) :
    dialect.closeScopes scopes (cursor.extend more) =
      dialect.closeScopes left (place.extend more) := by
  induction reads with
  | refl => rfl
  | close closes _ inductionHypothesis =>
      rw [closeScopes_close ((reads_of_after? closes).extend more)]
      exact inductionHypothesis fun scope member => listed scope (List.mem_cons_of_mem _ member)
  | @nest innermost delimiter outer left cursor inside place waits opens _ inductionHypothesis =>
      have member := (opening?_eq_some opens).1
      have first := reads_of_opening? opens
      have different : delimiter.opening ≠ innermost.closing := by
        intro same
        exact after?_eq_none_iff.mp waits ⟨inside.rest, same ▸ first.ahead.symm⟩
      rw [closeScopes_nest_of_reads usual (listed innermost List.mem_cons_self) member different
        (first.extend more)]
      exact inductionHypothesis (List.forall_mem_cons.mpr ⟨member, listed⟩)
  | @plain innermost outer left cursor next place c waits unopened unclosed first _
    inductionHypothesis =>
      have foreign : c ∉ quotesAndBrackets := by
        have tokens : quotesAndBrackets.map (fun q => [q]) ⊆ standard.scopeTokens := by decide
        intro member
        have begins : [c] <+: cursor.rest := ⟨next.rest, first.ahead.symm⟩
        have token : [c] ∈ dialect.scopeTokens := by
          rw [scopeTokens_eq usual]
          exact tokens (List.mem_map_of_mem member)
        rcases mem_scopeTokens_iff.mp token with ⟨delimiter, member, opening | closing⟩
        · exact opening?_eq_none_iff.mp unopened delimiter member (opening ▸ begins)
        · exact closing?_eq_none_iff.mp unclosed delimiter member (closing ▸ begins)
      rw [closeScopes_plain_of_not_mem usual (listed innermost List.mem_cons_self) foreign
        (first.extend more)]
      exact inductionHypothesis listed

/-- If a token stands at a place, then no other stands there because the text
goes on. -/
theorem prefix_of_prefix_extend {token other more : Text} (member : token ∈ dialect.scopeTokens)
    (alsoMember : other ∈ dialect.scopeTokens) (begins : token <+: place.rest)
    (alsoBegins : other <+: (place.extend more).rest) : other <+: place.rest := by
  rwa [scopeTokens_unique usual alsoMember member alsoBegins
    (begins.trans (List.prefix_append _ _))]

/-- A closing token at which no scope opens remains one. -/
theorem closing?_extend_of_some {token : Text} (unopened : dialect.opening? place = none)
    (stray : dialect.closing? place = some token) (more : Text) :
    dialect.opening? (place.extend more) = none ∧
    dialect.closing? (place.extend more) = some token := by
  rcases closing?_eq_some stray with ⟨⟨delimiter, member, rfl⟩, begins⟩
  have listed := closing_mem_scopeTokens member
  constructor
  · apply opening?_eq_none_iff.mpr
    intro other alsoMember alsoBegins
    exact opening?_eq_none_iff.mp unopened other alsoMember
      (prefix_of_prefix_extend usual listed (opening_mem_scopeTokens alsoMember) begins alsoBegins)
  · have longer : delimiter.closing <+: (place.extend more).rest :=
      begins.trans (List.prefix_append _ _)
    cases found : dialect.closing? (place.extend more) with
    | none => exact absurd longer (closing?_eq_none_iff.mp found delimiter member)
    | some token =>
        rcases closing?_eq_some found with ⟨⟨other, alsoMember, rfl⟩, alsoBegins⟩
        rw [scopeTokens_unique usual (closing_mem_scopeTokens alsoMember) listed alsoBegins longer]

/-- Unless it has noticed the end of the text, the loop ends in the same way if
the text goes on. -/
theorem closeScopes_extend_of_complete
    (listed : forall scope, scope ∈ scopes -> scope ∈ dialect.delimiters)
    (complete : forall position expected,
      dialect.closeScopes scopes cursor ≠ .error (.outOfRange position expected))
    (more : Text) :
    dialect.closeScopes scopes (cursor.extend more) =
      (dialect.closeScopes scopes cursor).map fun stop => stop.extend more := by
  rcases dialect.exists_endsScopes scopes cursor with ⟨left, place, reads, ends⟩
  rw [reads.closeScopes_extend usual listed]
  generalize dialect.closeScopes scopes cursor = result at ends complete ⊢
  cases ends with
  | closed => exact closeScopes_nil
  | @stray innermost outer _ token waits unopened stray =>
      rcases closing?_extend_of_some usual unopened stray more with ⟨alsoUnopened, alsoStray⟩
      refine closeScopes_stray ?_ alsoUnopened alsoStray
      apply after?_eq_none_iff.mpr
      intro begins
      rcases closing?_eq_some stray with ⟨⟨delimiter, member, rfl⟩, stands⟩
      have awaited := closing_mem_scopeTokens (reads.listed listed innermost List.mem_cons_self)
      exact after?_eq_none_iff.mp waits
        (prefix_of_prefix_extend usual (closing_mem_scopeTokens member) awaited stands begins)
  | unfinished => exact absurd rfl (complete _ _)

end Dialect

/-! ## What can be written into a scope -/

/-- The text can be written into a scope that is closed by the token. -/
inductive Content : (closing : Text) -> Text -> Prop where
  | empty (closing : Text) : Content closing []
  | plain {closing content : Text} {c : Char} :
      c ∉ Dialect.quotesAndBrackets ->
      Content closing content ->
      Content closing (c :: content)
  | nest {closing inner content : Text} {delimiter : Delimiter} :
      delimiter ∈ Dialect.standard.delimiters ->
      delimiter.opening ≠ closing ->
      Content delimiter.closing inner ->
      Content closing content ->
      Content closing (delimiter.opening ++ (inner ++ (delimiter.closing ++ content)))

namespace Dialect

variable {dialect : Dialect} {scope : Delimiter}

/-- A scope ends behind what is written into it and its closing token. -/
theorem closeScopes_of_content (usual : dialect.delimiters = standard.delimiters) {content : Text}
    (listed : scope ∈ dialect.delimiters) (written : Content scope.closing content)
    {outer : List Delimiter}
    {cursor next : Cursor} (reads : cursor.Reads (content ++ scope.closing) next) :
    dialect.closeScopes (scope :: outer) cursor = dialect.closeScopes outer next := by
  generalize awaited : scope.closing = closing at written
  induction written generalizing scope outer cursor next with
  | empty => exact closeScopes_close reads
  | @plain closing content c foreign _ inductionHypothesis =>
      have whole : cursor.Reads ([c] ++ (content ++ scope.closing)) next := reads
      rcases whole.exists_between with ⟨inside, first, further⟩
      rw [closeScopes_plain_of_not_mem usual listed foreign first]
      exact inductionHypothesis listed further awaited
  | @nest closing inner content delimiter member different _ _ innerHypothesis
    inductionHypothesis =>
      simp only [List.append_assoc] at reads
      rcases reads.exists_between with ⟨inside, opens, further⟩
      rw [← List.append_assoc] at further
      rcases further.exists_between with ⟨behind, closes, further⟩
      have alsoListed : delimiter ∈ dialect.delimiters := usual ▸ member
      rw [closeScopes_nest_of_reads usual listed alsoListed (awaited ▸ different) opens,
        innerHypothesis alsoListed closes rfl]
      exact inductionHypothesis listed further awaited

end Dialect
end MarkupDirectives
