import Mathlib.Tactic

/-!
# Fallible state updates

`EStateM ε σ` is the monad of computations which update a state in place and may fail; what was
changed before a failure stays changed.  This module has its evaluation rules and a logic of
invariants: `Preserves P m` says that `m` keeps `P`, whether it returns or fails.
-/

namespace Attempt

variable {ε σ α β : Type}

/-- The state reached by a computation, returned or failed. -/
def finalState : EStateM.Result ε σ α → σ
  | .ok _ state => state
  | .error _ state => state

@[simp]
theorem finalState_ok (value : α) (state : σ) :
    finalState (.ok value state : EStateM.Result ε σ α) = state := rfl

@[simp]
theorem finalState_error (error : ε) (state : σ) :
    finalState (.error error state : EStateM.Result ε σ α) = state := rfl

def returned : EStateM.Result ε σ α → Bool
  | .ok _ _ => true
  | .error _ _ => false

theorem eq_ok_of_returned {result : EStateM.Result ε σ Unit} (ok : returned result = true) :
    result = .ok () (finalState result) := by
  cases result with
  | ok value state => rfl
  | error error state => cases ok

@[simp]
theorem run_pure (value : α) (state : σ) :
    (pure value : EStateM ε σ α) state = .ok value state := rfl

@[simp]
theorem run_bind (first : EStateM ε σ α) (next : α → EStateM ε σ β) (state : σ) :
    (first >>= next) state =
      match first state with
      | .ok value after => next value after
      | .error error after => .error error after := rfl

@[simp]
theorem run_map (f : α → β) (first : EStateM ε σ α) (state : σ) :
    (f <$> first) state =
      match first state with
      | .ok value after => .ok (f value) after
      | .error error after => .error error after := rfl

@[simp]
theorem run_get (state : σ) : (get : EStateM ε σ σ) state = .ok state state := rfl

@[simp]
theorem run_set (replacement state : σ) :
    (set replacement : EStateM ε σ PUnit) state = .ok ⟨⟩ replacement := rfl

@[simp]
theorem run_modify (f : σ → σ) (state : σ) :
    (modify f : EStateM ε σ PUnit) state = .ok ⟨⟩ (f state) := rfl

@[simp]
theorem run_throw (error : ε) (state : σ) :
    (throw error : EStateM ε σ α) state = .error error state := rfl

/-- Raise the error of a pure computation. -/
def ofExcept : Except ε α → EStateM ε σ α
  | .ok value => pure value
  | .error error => throw error

@[simp]
theorem run_ofExcept_ok (value : α) (state : σ) :
    (ofExcept (.ok value) : EStateM ε σ α) state = .ok value state := rfl

@[simp]
theorem run_ofExcept_error (error : ε) (state : σ) :
    (ofExcept (.error error) : EStateM ε σ α) state = .error error state := rfl

variable {first : EStateM ε σ α} {state : σ} {result : β} {value : α} {related : σ → σ → Prop}
  {next : α → EStateM ε σ β} {after : σ} {error : ε}

/-- A sequence returns when its first part returns and the rest does from there. -/
theorem bind_eq_ok :
    (first >>= next) state = .ok result after ↔
      ∃ value middle, first state = .ok value middle ∧ next value middle = .ok result after := by
  rw [run_bind]
  cases first state with
  | ok value middle => simp
  | error error middle => simp

theorem ofExcept_eq_ok {result : Except ε α} :
    (ofExcept result : EStateM ε σ α) state = .ok value after ↔
      result = .ok value ∧ state = after := by
  cases result <;> simp [ofExcept]

/-- A guarded computation returns when the guard does not raise and the rest returns. -/
theorem guard_eq_ok {condition : Prop} [Decidable condition] {rest : EStateM ε σ β} :
    (if condition then throw error >>= next else rest) state = .ok result after ↔
      ¬condition ∧ rest state = .ok result after := by
  by_cases raised : condition <;> simp [raised]

theorem pure_eq_ok {result : α} :
    (pure value : EStateM ε σ α) state = .ok result after ↔ value = result ∧ state = after := by
  simp

theorem throw_ne_ok {result : α} : (throw error : EStateM ε σ α) state ≠ .ok result after := by
  simp

/-! ## Triples -/

/-- From every state with the precondition, the computation returns with the postcondition or
fails with the failure condition. -/
def Triple (pre : σ → Prop) (computation : EStateM ε σ α) (post : α → σ → Prop)
    (failed : ε → σ → Prop) : Prop :=
  ∀ state, pre state →
    match computation state with
    | .ok value after => post value after
    | .error error after => failed error after

namespace Triple

variable {pre : σ → Prop} {post : α → σ → Prop} {failed : ε → σ → Prop}

theorem bind {next : α → EStateM ε σ β} {middle : α → σ → Prop} {last : β → σ → Prop}
    (first_triple : Triple pre first middle failed)
    (next_triple : ∀ value, Triple (middle value) (next value) last failed) :
    Triple pre (first >>= next) last failed := by
  intro state holds
  have result := first_triple state holds
  rw [run_bind]
  cases returned : first state with
  | ok value after =>
    rw [returned] at result
    exact next_triple value after result
  | error error after =>
    rw [returned] at result
    exact result

theorem ofExcept {result : Except ε α} (returned : ∀ value, result = .ok value → ∀ state,
    pre state → post value state) (raised : ∀ error state, pre state → failed error state) :
    Triple pre (Attempt.ofExcept result) post failed := by
  intro state holds
  cases result with
  | ok value => exact returned value rfl state holds
  | error error => exact raised error state holds

end Triple

/-! ## Invariants -/

/-- Every run from a state with the property ends in a state with it, returned or failed. -/
def Preserves (property : σ → Prop) (computation : EStateM ε σ α) : Prop :=
  Triple property computation (fun _ => property) (fun _ => property)

namespace Preserves

variable {property : σ → Prop} {computation : EStateM ε σ α}

theorem finalState (preserves : Preserves property computation) (holds : property state) :
    property (Attempt.finalState (computation state)) := by
  have result := preserves state holds
  cases returned : computation state with
  | ok value after => rwa [returned] at result
  | error error after => rwa [returned] at result

theorem of_finalState
    (keeps : ∀ state, property state → property (Attempt.finalState (computation state))) :
    Preserves property computation := by
  intro state holds
  have result := keeps state holds
  cases returned : computation state with
  | ok value after => rwa [returned] at result
  | error error after => rwa [returned] at result

theorem pure (value : α) : Preserves property (Pure.pure value : EStateM ε σ α) :=
  fun _ holds => holds

theorem throw (error : ε) : Preserves property (MonadExcept.throw error : EStateM ε σ α) :=
  fun _ holds => holds

theorem get : Preserves property (MonadState.get : EStateM ε σ σ) := fun _ holds => holds

theorem ofExcept (result : Except ε α) :
    Preserves property (Attempt.ofExcept result : EStateM ε σ α) :=
  Triple.ofExcept (fun _ _ _ holds => holds) (fun _ _ holds => holds)

theorem bind {next : α → EStateM ε σ β} (first_keeps : Preserves property first)
    (next_keeps : ∀ value, Preserves property (next value)) : Preserves property (first >>= next) :=
  Triple.bind first_keeps next_keeps

/-- What the first part has established, and the rest keeps, holds at the end of a sequence. -/
theorem finalState_bind {next : α → EStateM ε σ β}
    (next_keeps : ∀ value, Preserves property (next value))
    (holds : property (Attempt.finalState (first state))) :
    property (Attempt.finalState ((first >>= next) state)) := by
  rw [run_bind]
  cases result : first state with
  | ok value after =>
    rw [result] at holds
    exact (next_keeps value).finalState holds
  | error error after => rwa [result] at holds

theorem guard {condition : Prop} [Decidable condition] {error : ε} {next : α → EStateM ε σ β}
    {rest : EStateM ε σ β} (rest_keeps : Preserves property rest) :
    Preserves property (if condition then MonadExcept.throw error >>= next else rest) := by
  split
  · exact fun _ holds => holds
  · exact rest_keeps

end Preserves

/-- The computation does not change an observation of the state. -/
def Leaves {γ : Type} (observe : σ → γ) (computation : EStateM ε σ α) : Prop :=
  ∀ seen, Preserves (fun state => observe state = seen) computation

namespace Leaves

variable {γ δ : Type} {observe : σ → γ} {computation : EStateM ε σ α} {state : σ}

theorem finalState (leaves : Leaves observe computation) (state : σ) :
    observe (Attempt.finalState (computation state)) = observe state :=
  (leaves _).finalState rfl

variable {after : σ}

theorem of_ok (leaves : Leaves observe computation)
    (returned : computation state = .ok value after) : observe after = observe state := by
  simpa [returned] using leaves.finalState state

theorem of_finalState
    (same : ∀ state, observe (Attempt.finalState (computation state)) = observe state) :
    Leaves observe computation := by
  intro seen state holds
  have result := same state
  cases returned : computation state with
  | ok value after =>
    rw [returned] at result
    exact result.trans holds
  | error error after =>
    rw [returned] at result
    exact result.trans holds

/-- What holds of the observation keeps holding. -/
theorem preserves (leaves : Leaves observe computation) (property : γ → Prop) :
    Preserves (fun state => property (observe state)) computation :=
  .of_finalState fun state holds => (leaves.finalState state).symm ▸ holds

theorem pure (value : α) : Leaves observe (Pure.pure value : EStateM ε σ α) :=
  fun _ => Preserves.pure value

theorem throw (error : ε) : Leaves observe (MonadExcept.throw error : EStateM ε σ α) :=
  fun _ => Preserves.throw error

theorem ofExcept (result : Except ε α) : Leaves observe (Attempt.ofExcept result : EStateM ε σ α) :=
  fun _ => Preserves.ofExcept result

theorem bind {next : α → EStateM ε σ β} (first_leaves : Leaves observe first)
    (next_leaves : ∀ value, Leaves observe (next value)) : Leaves observe (first >>= next) :=
  fun seen => (first_leaves seen).bind fun value => next_leaves value seen

theorem guard {condition : Prop} [Decidable condition] {error : ε} {next : α → EStateM ε σ β}
    {rest : EStateM ε σ β} (rest_leaves : Leaves observe rest) :
    Leaves observe (if condition then MonadExcept.throw error >>= next else rest) :=
  fun seen => .guard (rest_leaves seen)

end Leaves

/-! ## Two runs side by side -/

/-- Two runs end alike: with the same value or the same error, in related states. -/
def Matches (related : σ → σ → Prop) :
    EStateM.Result ε σ α → EStateM.Result ε σ α → Prop
  | .ok value left, .ok other right => value = other ∧ related left right
  | .error error left, .error other right => error = other ∧ related left right
  | _, _ => False

/-- Runs which match both return or both fail. -/
theorem Matches.cases {first second : EStateM.Result ε σ α}
    (matched : Matches related first second) :
    (∃ value left right, first = .ok value left ∧ second = .ok value right ∧
        related left right) ∨
      ∃ error left right, first = .error error left ∧ second = .error error right ∧
        related left right := by
  cases first with
  | ok value left =>
    cases second with
    | ok other right =>
      obtain ⟨rfl, states⟩ := matched
      exact .inl ⟨value, left, right, rfl, rfl, states⟩
    | error error right => exact matched.elim
  | error error left =>
    cases second with
    | ok other right => exact matched.elim
    | error other right =>
      obtain ⟨rfl, states⟩ := matched
      exact .inr ⟨error, left, right, rfl, rfl, states⟩

theorem Matches.bind {second : EStateM ε σ α} {following : α → EStateM ε σ β} {left right : σ}
    (matched : Matches related (first left) (second right))
    (go_on : ∀ {value after counterpart}, related after counterpart →
      Matches related (next value after) (following value counterpart)) :
    Matches related ((first >>= next) left) ((second >>= following) right) := by
  rw [run_bind, run_bind]
  obtain ⟨value, after, counterpart, left_eq, right_eq, states⟩ |
    ⟨error, after, counterpart, left_eq, right_eq, states⟩ := matched.cases
  · rw [left_eq, right_eq]
    exact go_on states
  · rw [left_eq, right_eq]
    exact ⟨rfl, states⟩

end Attempt
