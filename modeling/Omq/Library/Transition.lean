import Mathlib.Logic.Relation
import Mathlib.Data.List.Forall2
import Mathlib.Logic.Function.Basic

/-!
# Guarded transitions

A system is a partial step function on states and actions.  A run takes steps which all meet a
condition on the state before the step; what such steps keep holds in every state of the run.
-/

namespace Transition

variable {State Action : Type*}

def Runs (step : State → Action → Option State) (condition : State → Action → Prop) :
    State → State → Prop :=
  Relation.ReflTransGen fun before after =>
    ∃ action, condition before action ∧ step before action = some after

/-- The condition which every step meets. -/
def Anything (_ : State) (_ : Action) : Prop := True

/-- A state reached by any steps at all. -/
abbrev Reaches (step : State → Action → Option State) : State → State → Prop := Runs step Anything

variable {step : State → Action → Option State} {condition : State → Action → Prop}
  {start final : State} {actions : List Action} {α β : Type*}

theorem Runs.invariant {property : State → Prop}
    (kept : ∀ {before after action}, condition before action → step before action = some after →
      property before → property after) {start final : State}
    (runs : Runs step condition start final) (holds : property start) : property final := by
  induction runs with
  | refl => exact holds
  | tail _ turn induction =>
    obtain ⟨action, met, stepped⟩ := turn
    exact kept met stepped induction

/-- Steps one after the other. -/
def run (step : State → Action → Option State) : List Action → State → Option State
  | [], state => some state
  | action :: actions, state => (step state action).bind (run step actions)

/-- Steps one after the other, each checked before it is taken. -/
def runChecked (step : State → Action → Option State) (check : State → Action → Bool) :
    List Action → State → Option State
  | [], state => some state
  | action :: actions, state =>
    if check state action then (step state action).bind (runChecked step check actions)
    else none

theorem Reaches.of_run (ran : run step actions start = some final) : Reaches step start final := by
  induction actions generalizing start with
  | nil => exact Option.some.inj ran ▸ .refl
  | cons action actions induction =>
    obtain ⟨next, stepped, rest⟩ := Option.bind_eq_some_iff.mp ran
    exact (induction rest).head ⟨action, trivial, stepped⟩

theorem Runs.reaches (runs : Runs step condition start final) : Reaches step start final :=
  Relation.ReflTransGen.mono (fun _ _ ⟨action, _, stepped⟩ => ⟨action, trivial, stepped⟩) _ _ runs

theorem Runs.of_runChecked {check : State → Action → Bool}
    (sound : ∀ state action, check state action = true → condition state action)
    (ran : runChecked step check actions start = some final) : Runs step condition start final := by
  induction actions generalizing start with
  | nil => exact Option.some.inj ran ▸ .refl
  | cons action actions induction =>
    obtain ⟨checked, ran⟩ := Option.ite_none_right_eq_some.mp ran
    obtain ⟨next, stepped, rest⟩ := Option.bind_eq_some_iff.mp ran
    exact (induction rest).head ⟨action, sound start action checked, stepped⟩

/-- A computed run leads to the state it computes. -/
theorem Reaches.computed (actions : List Action) (ended : (run step actions start).isSome = true) :
    Reaches step start ((run step actions start).get ended) :=
  .of_run (Option.some_get ended).symm

theorem Runs.computed [∀ state, DecidablePred (condition state)] (actions : List Action)
    (ended : (runChecked step (fun state action => condition state action) actions
      start).isSome = true) :
    Runs step condition start ((runChecked step _ actions start).get ended) :=
  .of_runChecked (fun _ _ => of_decide_eq_true) (Option.some_get ended).symm

variable {property : State → Prop} [DecidablePred property]

/-- What is seen at the end of a computed run can be reached. -/
theorem exists_reaches (actions : List Action)
    (seen : (run step actions start).any (fun final => property final) = true) :
    ∃ final, Reaches step start final ∧ property final := by
  obtain ⟨final, ran, holds⟩ := (Option.any_eq_true ..).mp seen
  exact ⟨final, .of_run ran, of_decide_eq_true holds⟩

/-- The same for a run whose steps meet the condition. -/
theorem exists_runs [∀ state, DecidablePred (condition state)] (actions : List Action)
    (seen : (runChecked step (fun state action => condition state action) actions start).any
      (fun final => property final) = true) :
    ∃ final, Runs step condition start final ∧ property final := by
  obtain ⟨final, ran, holds⟩ := (Option.any_eq_true ..).mp seen
  exact ⟨final, .of_runChecked (fun _ _ => of_decide_eq_true) ran, of_decide_eq_true holds⟩

theorem Runs.simulated {Abstract Move : Type*} {move : Abstract → Move → Option Abstract}
    {allowed : Abstract → Move → Prop} {related : State → Abstract → Prop}
    (followed : ∀ {before after action view}, condition before action →
      step before action = some after → related before view →
        ∃ next, Runs move allowed view next ∧ related after next)
    (runs : Runs step condition start final) {view : Abstract} (matching : related start view) :
    ∃ next, Runs move allowed view next ∧ related final next := by
  induction runs with
  | refl => exact ⟨view, .refl, matching⟩
  | tail _ turn induction =>
    obtain ⟨action, met, stepped⟩ := turn
    obtain ⟨middle, first, matching⟩ := induction
    obtain ⟨next, second, matching⟩ := followed met stepped matching
    exact ⟨next, first.trans second, matching⟩

theorem Runs.single {before after : State} (action : Action) (met : condition before action)
    (stepped : step before action = some after) : Runs step condition before after :=
  Relation.ReflTransGen.single ⟨action, met, stepped⟩

/-- Lists stay related when an entry changes within its relation. -/
theorem forall₂_modify {relation : α → β → Prop} {left : List α} {right : List β}
    (related : List.Forall₂ relation left right) (index : Nat) {change : β → β}
    (kept : ∀ {first second}, relation first second → relation first (change second)) :
    List.Forall₂ relation left (right.modify index change) := by
  induction related generalizing index with
  | nil => simp
  | cons head tail induction =>
    cases index with
    | zero => exact .cons (kept head) tail
    | succ index => exact .cons head (induction index)

theorem exists_of_forall₂_of_mem {relation : α → β → Prop} {left : List α} {right : List β}
    (related : List.Forall₂ relation left right) {second : β} (member : second ∈ right) :
    ∃ first ∈ left, relation first second := by
  obtain ⟨index, in_range, rfl⟩ := List.getElem_of_mem member
  obtain ⟨same_length, pointwise⟩ := List.forall₂_iff_get.mp related
  exact ⟨left[index], List.getElem_mem _, pointwise index (same_length ▸ in_range) in_range⟩

theorem mem_update {Party : Type*} [DecidableEq Party] {held : Party → Option α}
    {changed party : Party} {value : Option α} {entry : α} :
    entry ∈ Function.update held changed value party ↔
      (party = changed ∧ entry ∈ value) ∨ (party ≠ changed ∧ entry ∈ held party) := by
  by_cases same : party = changed
  · simp [same]
  · simp [same]

end Transition
