import Mathlib.Data.List.Basic
import Mathlib.Tactic

/-!
# Incremental machines

A machine looks at the input received so far and either stalls, moves on with the rest of the
input, or fails.  Its laws say that a decision once taken is not revised when more input follows
and that a move consumes input.  From these two laws alone, how a stream is cut into pieces does
not matter: `feed_eq_settle` reduces every schedule of deliveries to one delivery.
-/

namespace Incremental

/-- What a machine does with the input at hand. -/
inductive Outcome (σ α ε : Type)
  | stall
  | move (state : σ) (rest : List α)
  | fail (state : σ) (rest : List α) (error : ε)

/-- The outcome with more input behind the unread part. -/
def Outcome.extend {σ α ε : Type} (more : List α) : Outcome σ α ε → Outcome σ α ε
  | .stall => .stall
  | .move state rest => .move state (rest ++ more)
  | .fail state rest error => .fail state (rest ++ more) error

def Outcome.final {σ α ε : Type} (state : σ) : Outcome σ α ε → σ
  | .stall => state
  | .move after _ => after
  | .fail after _ _ => after

/-- Two outcomes which differ at most in related states. -/
def Outcome.Related {σ α ε : Type} (related : σ → σ → Prop) :
    Outcome σ α ε → Outcome σ α ε → Prop
  | .stall, .stall => True
  | .move left unread, .move right rest => related left right ∧ unread = rest
  | .fail left unread error, .fail right rest failure =>
    related left right ∧ unread = rest ∧ error = failure
  | _, _ => False

/-- A machine whose decisions are final. -/
structure Machine (σ α ε : Type) where
  step : σ → List α → Outcome σ α ε
  /-- A decision is not revised when more input follows. -/
  step_append : ∀ (state : σ) (input more : List α), step state input ≠ .stall →
    step state (input ++ more) = (step state input).extend more
  move_shorter : ∀ {state after : σ} {input rest : List α},
    step state input = .move after rest → rest.length < input.length

/-- Where a machine stops: its state, the unread input, and the failure if there was one. -/
structure Stop (σ α ε : Type) where
  state : σ
  rest : List α
  error : Option ε

namespace Machine

variable {σ α ε : Type} (machine : Machine σ α ε)

/-- Step until the machine stalls or fails, at most `fuel` times. -/
def run : (fuel : Nat) → σ → List α → Stop σ α ε
  | 0, state, input => ⟨state, input, none⟩
  | fuel + 1, state, input =>
    match machine.step state input with
    | .stall => ⟨state, input, none⟩
    | .move after rest => run fuel after rest
    | .fail after rest error => ⟨after, rest, some error⟩

/-- Step until the machine stalls or fails. -/
def settle (state : σ) (input : List α) : Stop σ α ε := machine.run (input.length + 1) state input

variable {input : List α} {state : σ}

/-- Fuel beyond the length of the input changes nothing. -/
theorem run_congr {left right : Nat} (left_enough : input.length < left)
    (right_enough : input.length < right) (state : σ) :
    machine.run left state input = machine.run right state input := by
  induction left generalizing right state input with
  | zero => omega
  | succ left ih =>
    cases right with
    | zero => omega
    | succ right =>
      rw [run, run]
      cases result : machine.step state input with
      | stall => rfl
      | fail after rest error => rfl
      | move after rest =>
        have shorter := machine.move_shorter result
        exact ih (by omega) (by omega) after

theorem settle_of_stall (stalled : machine.step state input = .stall) :
    machine.settle state input = ⟨state, input, none⟩ := by
  rw [settle, run, stalled]

variable {after : σ} {rest : List α}

theorem settle_of_fail {error : ε} (failed : machine.step state input = .fail after rest error) :
    machine.settle state input = ⟨after, rest, some error⟩ := by
  rw [settle, run, failed]

theorem settle_of_move (moved : machine.step state input = .move after rest) :
    machine.settle state input = machine.settle after rest := by
  rw [settle, run, moved]
  exact machine.run_congr (machine.move_shorter moved) (Nat.lt_succ_self _) after

/-- Settling by cases on the first decision, with the recursive fact for a move. -/
theorem settle_induction {motive : σ → List α → Stop σ α ε → Prop}
    (stalled : ∀ state input, machine.step state input = .stall →
      motive state input ⟨state, input, none⟩)
    (failed : ∀ state input after rest error,
      machine.step state input = .fail after rest error →
        motive state input ⟨after, rest, some error⟩)
    (moved : ∀ state input after rest, machine.step state input = .move after rest →
      motive after rest (machine.settle after rest) →
        motive state input (machine.settle after rest))
    (state : σ) (input : List α) : motive state input (machine.settle state input) := by
  induction length_eq : input.length using Nat.strong_induction_on generalizing state input with
  | _ length ih =>
    subst length_eq
    cases result : machine.step state input with
    | stall =>
      rw [machine.settle_of_stall result]
      exact stalled state input result
    | fail after rest error =>
      rw [machine.settle_of_fail result]
      exact failed state input after rest error result
    | move after rest =>
      rw [machine.settle_of_move result]
      exact moved state input after rest result
        (ih rest.length (machine.move_shorter result) after rest rfl)

/-- Before the last piece of an input which is consumed as a whole the machine stalls. -/
theorem stall_of_move_append {more : List α}
    (moved : machine.step state (input ++ more) = .move after []) (missing : more ≠ []) :
    machine.step state input = .stall := by
  by_contra decided
  have whole := machine.step_append state input more decided
  rw [moved] at whole
  cases result : machine.step state input with
  | stall => exact decided result
  | move next rest =>
    rw [result] at whole
    simp only [Outcome.extend, Outcome.move.injEq] at whole
    exact missing (List.append_eq_nil_iff.mp whole.2.symm).2
  | fail next rest error =>
    rw [result] at whole
    cases whole

/-- What every decision keeps, moves and failures alike, holds where the machine stops. -/
theorem settle_invariant {property : σ → Prop}
    (kept : ∀ state input, property state → property ((machine.step state input).final state))
    (holds : property state) (input : List α) : property (machine.settle state input).state := by
  revert holds
  refine machine.settle_induction
    (motive := fun state _ stop => property state → property stop.state) ?_ ?_ ?_ state input
  · exact fun _ _ _ holds => holds
  · intro state input after rest error failed holds
    have result := kept state input holds
    rwa [failed] at result
  · intro state input after rest moved later holds
    have result := kept state input holds
    rw [moved] at result
    exact later result

/-- Related states, between which no decision distinguishes, settle alike. -/
theorem settle_related {related : σ → σ → Prop}
    (kept : ∀ {left right} input, related left right →
      (machine.step left input).Related related (machine.step right input))
    {left right : σ} (holds : related left right) (input : List α) :
    related (machine.settle left input).state (machine.settle right input).state ∧
      (machine.settle left input).rest = (machine.settle right input).rest ∧
      (machine.settle left input).error = (machine.settle right input).error := by
  refine machine.settle_induction
    (motive := fun left input stop => ∀ right, related left right →
      related stop.state (machine.settle right input).state ∧
        stop.rest = (machine.settle right input).rest ∧
        stop.error = (machine.settle right input).error) ?_ ?_ ?_ left input right holds
  · intro left input stalled right holds
    have turn := kept input holds
    rw [stalled] at turn
    cases result : machine.step right input with
    | stall => rw [machine.settle_of_stall result]; exact ⟨holds, rfl, rfl⟩
    | move after rest => rw [result] at turn; exact turn.elim
    | fail after rest error => rw [result] at turn; exact turn.elim
  · intro left input after rest error failed right holds
    have turn := kept input holds
    rw [failed] at turn
    cases result : machine.step right input with
    | stall => rw [result] at turn; exact turn.elim
    | move counterpart unread => rw [result] at turn; exact turn.elim
    | fail counterpart unread failure =>
      rw [result] at turn
      obtain ⟨states, rfl, rfl⟩ := turn
      rw [machine.settle_of_fail result]
      exact ⟨states, rfl, rfl⟩
  · intro left input after rest moved later right holds
    have turn := kept input holds
    rw [moved] at turn
    cases result : machine.step right input with
    | stall => rw [result] at turn; exact turn.elim
    | move counterpart unread =>
      rw [result] at turn
      obtain ⟨states, rfl⟩ := turn
      rw [machine.settle_of_move result]
      exact later counterpart states
    | fail counterpart unread failure => rw [result] at turn; exact turn.elim

theorem step_of_settle (clean : (machine.settle state input).error = none) :
    machine.step (machine.settle state input).state (machine.settle state input).rest = .stall := by
  revert clean
  refine machine.settle_induction
    (motive := fun _ _ stop => stop.error = none → machine.step stop.state stop.rest = .stall)
    ?_ ?_ ?_ state input
  · exact fun state input stalled _ => stalled
  · intro _ _ _ _ _ _ clean
    cases clean
  · exact fun _ _ _ _ _ later => later

/-- Settling a longer input continues from where the shorter one settled. -/
theorem settle_append (state : σ) (input more : List α) :
    machine.settle state (input ++ more) =
      match (machine.settle state input).error with
      | none => machine.settle (machine.settle state input).state
          ((machine.settle state input).rest ++ more)
      | some error => ⟨(machine.settle state input).state,
          (machine.settle state input).rest ++ more, some error⟩ := by
  refine machine.settle_induction
    (motive := fun state input stop => machine.settle state (input ++ more) =
      match stop.error with
      | none => machine.settle stop.state (stop.rest ++ more)
      | some error => ⟨stop.state, stop.rest ++ more, some error⟩)
    ?_ ?_ ?_ state input
  · intro state input _
    rfl
  · intro state input after rest error failed
    have extended := machine.step_append state input more (by simp [failed])
    rw [failed] at extended
    exact machine.settle_of_fail extended
  · intro state input after rest moved later
    have extended := machine.step_append state input more (by simp [moved])
    rw [moved] at extended
    rw [machine.settle_of_move extended]
    exact later

/-- Deliver pieces one after the other, stopping at the first failure. -/
def feed (state : σ) (pending : List α) : List (List α) → Stop σ α ε
  | [] => ⟨state, pending, none⟩
  | piece :: pieces =>
    let stop := machine.settle state (pending ++ piece)
    match stop.error with
    | none => feed stop.state stop.rest pieces
    | some error => ⟨stop.state, stop.rest, some error⟩

/-- Deliveries from a settled machine end as one delivery of the whole stream would. -/
theorem feed_eq_settle (state : σ) (pending : List α) (pieces : List (List α))
    (stalled : machine.step state pending = .stall) :
    (machine.feed state pending pieces).state =
        (machine.settle state (pending ++ pieces.flatten)).state ∧
      (machine.feed state pending pieces).error =
        (machine.settle state (pending ++ pieces.flatten)).error ∧
      ((machine.feed state pending pieces).error = none →
        (machine.feed state pending pieces).rest =
          (machine.settle state (pending ++ pieces.flatten)).rest) := by
  induction pieces generalizing state pending with
  | nil => simp [feed, machine.settle_of_stall stalled]
  | cons piece pieces ih =>
    rw [feed, List.flatten_cons, ← List.append_assoc,
      machine.settle_append state (pending ++ piece) pieces.flatten]
    cases error_eq : (machine.settle state (pending ++ piece)).error with
    | some error => simp
    | none => exact ih _ _ (machine.step_of_settle error_eq)

end Machine

end Incremental
