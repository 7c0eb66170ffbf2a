import Mathlib.Logic.Function.Iterate

namespace MarkupDirectives

/-!
# Polling

A locator and a division into segments are both states from which one item at a
time is taken.  As long as nothing comes after the end, the answers to any number
of polls are read off the list of all items.
-/

namespace Polling

variable {State Item Value Failure : Type}

/-- The answer to the poll after `count` others, whatever those have answered. -/
def answer (next : State -> Option Item × State) (count : Nat) (state : State) : Option Item :=
  (next ((fun earlier => (next earlier).2)^[count] state)).1

/-- The state after `count` polls, whatever those have answered. -/
def stateAfter (next : State -> Option Item × State) (count : Nat) (state : State) : State :=
  (fun earlier => (next earlier).2)^[count] state

theorem stateAfter_succ (next : State -> Option Item × State) (count : Nat) (state : State) :
    stateAfter next (count + 1) state = (next (stateAfter next count state)).2 :=
  Function.iterate_succ_apply' _ _ _

/-- What holds at first, and of the state after a poll if it holds of the state
before, holds of the state after any number of polls. -/
theorem stateAfter_induction {next : State -> Option Item × State} {state : State}
    (holds : Nat -> State -> Prop) (first : holds 0 state)
    (step : forall count earlier, holds count earlier -> holds (count + 1) (next earlier).2)
    (count : Nat) : holds count (stateAfter next count state) := by
  induction count with
  | zero => exact first
  | succ count inductionHypothesis =>
      rw [stateAfter_succ]
      exact step count _ inductionHypothesis

/-- If the list of items follows the polls, and nothing changes once there is
no answer, then the list has the answers to all polls. -/
theorem answer_eq_getElem? {next : State -> Option Item × State} {items : State -> List Item}
    (ended : forall state, (next state).1 = none -> items state = [])
    (taken : forall state item,
      (next state).1 = some item -> items state = item :: items (next state).2)
    (still : forall state, (next state).1 = none -> (next (next state).2).1 = none)
    (count : Nat) (state : State) : answer next count state = (items state)[count]? := by
  induction count generalizing state with
  | zero =>
      cases first : (next state).1 with
      | none =>
          rw [ended state first]
          exact first
      | some item =>
          rw [taken state item first]
          exact first
  | succ count inductionHypothesis =>
      have later : answer next (count + 1) state = answer next count (next state).2 := by
        unfold answer
        rw [Function.iterate_succ_apply]
      rw [later, inductionHypothesis]
      cases first : (next state).1 with
      | none =>
          rw [ended state first, ended _ (still state first)]
          rfl
      | some item =>
          rw [taken state item first, List.getElem?_cons_succ]

/-! ## Items that end with the first error -/

/-- Values one after the other, and an error at the end if there is one. -/
def outcome (values : List Value) (failure : Option Failure) : List (Except Failure Value) :=
  values.map .ok ++ failure.toList.map .error

theorem outcome_cons (value : Value) (values : List Value) (failure : Option Failure) :
    outcome (value :: values) failure = .ok value :: outcome values failure := rfl

/-- The values and the error can be read off the items. -/
theorem outcome_inj {values others : List Value} {failure other : Option Failure}
    (same : outcome values failure = outcome others other) : values = others ∧ failure = other := by
  induction values generalizing others with
  | nil =>
      cases others with
      | nil => cases failure <;> cases other <;> cases same <;> exact ⟨rfl, rfl⟩
      | cons value others => cases failure <;> cases same
  | cons value values inductionHypothesis =>
      cases others with
      | nil => cases other <;> cases same
      | cons alsoValue others =>
          rw [outcome_cons, outcome_cons, List.cons.injEq, Except.ok.injEq] at same
          rcases same with ⟨rfl, rest⟩
          rcases inductionHypothesis rest with ⟨rfl, rfl⟩
          exact ⟨rfl, rfl⟩

theorem mem_outcome_iff {values : List Value} {failure : Option Failure} {value : Value} :
    .ok value ∈ outcome values failure ↔ value ∈ values := by
  unfold outcome
  rw [List.mem_append, List.mem_map, List.mem_map]
  constructor
  · rintro (⟨_, member, same⟩ | ⟨_, _, impossible⟩)
    · cases same
      exact member
    · cases impossible
  · intro member
    exact Or.inl ⟨value, member, rfl⟩

theorem error_mem_outcome_iff {values : List Value} {failure : Option Failure} {error : Failure} :
    .error error ∈ outcome values failure ↔ failure = some error := by
  cases failure <;> simp [outcome, eq_comm]

/-- Going through the items stops at the error, and otherwise goes through all of
the values. -/
theorem mapM_outcome {Result : Type} (make : Value -> Result) (values : List Value)
    (failure : Option Failure) :
    (outcome values failure).mapM (fun item => item.map make) =
      failure.elim (.ok (values.map make)) .error := by
  induction values with
  | nil => cases failure <;> rfl
  | cons value values inductionHypothesis =>
      rw [outcome_cons, List.mapM_cons, inductionHypothesis]
      cases failure <;> rfl

/-- The values among the items. -/
theorem filterMap_toOption_outcome (values : List Value) (failure : Option Failure) :
    (outcome values failure).filterMap Except.toOption = values := by
  induction values with
  | nil => cases failure <;> rfl
  | cons value values inductionHypothesis => exact congrArg (List.cons value) inductionHypothesis

theorem getElem?_outcome_eq_none {values : List Value} {failure : Option Failure}
    {count later : Nat} (before : count < later)
    (past : (outcome values failure)[count]? = none ∨
      Exists fun error : Failure => (outcome values failure)[count]? = some (.error error)) :
    (outcome values failure)[later]? = none := by
  have length : (outcome values failure).length ≤ values.length + 1 := by
    cases failure <;> simp [outcome]
  have beyond : values.length ≤ count := by
    by_contra short
    have inside : count < values.length := Nat.lt_of_not_le short
    have present : (outcome values failure)[count]? = some (.ok values[count]) := by
      unfold outcome
      rw [List.getElem?_append_left (by rw [List.length_map]; exact inside), List.getElem?_map,
        List.getElem?_eq_getElem inside]
      rfl
    rw [present] at past
    rcases past with impossible | ⟨_, impossible⟩ <;> cases impossible
  exact List.getElem?_eq_none (by omega)

/-- A state whose answers end with the first error has no answer after it, nor
after the end. -/
theorem answer_eq_none {next : State -> Option (Except Failure Value) × State} {state : State}
    {values : List Value} {failure : Option Failure} {count later : Nat}
    (answers : forall count, answer next count state = (outcome values failure)[count]?)
    (before : count < later) (past : answer next count state = none ∨
      Exists fun error : Failure => answer next count state = some (.error error)) :
    answer next later state = none := by
  rw [answers] at past ⊢
  exact getElem?_outcome_eq_none before past

end Polling
end MarkupDirectives
