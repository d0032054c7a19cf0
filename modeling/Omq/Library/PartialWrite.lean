import Mathlib.Data.List.Infix

/-!
# Flushing through partial writes

A stream accepts any part of what it is offered, fails, or does not answer.  A source is a buffer
which offers the front of its content and can drop what was accepted; flushing it repeats writes
until nothing waits.  Whatever the stream does, the bytes it received are a prefix of the content,
and a flush which finishes wrote the content.
-/

namespace PartialWrite

open List

/-- The answer of the stream to one write. -/
inductive Outcome
  | accepts (limit : Nat)
  | fails

/-- How a flush ended; a blocked flush waits for an answer. -/
inductive Status
  | done
  | failed
  | blocked
  deriving DecidableEq

/-- The state after a flush, what the stream received, and the answers not yet used. -/
structure Flushed (σ α : Type) where
  status : Status
  state : σ
  written : List α
  /-- Answers of later writes. -/
  outcomes : List Outcome

def Flushed.map {σ τ α : Type} (view : σ → τ) (result : Flushed σ α) : Flushed τ α :=
  ⟨result.status, view result.state, result.written, result.outcomes⟩

/-- A buffer which is written to a stream from its front. -/
structure Source (σ α : Type) where
  content : σ → List α
  /-- The test which ends a flush. -/
  idle : σ → Bool
  offer : σ → List α
  /-- Drop a number of accepted elements. -/
  advance : σ → Nat → σ
  /-- The buffer when a write is given up while it waits. -/
  abandon : σ → σ
  offer_prefix : ∀ state, offer state <+: content state
  content_of_idle : ∀ state, idle state = true → content state = []
  /-- Giving a write up loses nothing but a front part. -/
  abandon_ends : ∀ state, content (abandon state) <:+ content state
  /-- Accepted elements leave the content. -/
  content_advance : ∀ state count, count ≤ (offer state).length →
    content (advance state count) = (content state).drop count

namespace Source

variable {σ α : Type} (source : Source σ α) (state : σ)

def answer (outcomes : List Outcome) : Outcome → Flushed σ α
  | .fails => ⟨.failed, state, [], outcomes⟩
  | .accepts limit =>
    let count := min limit (source.offer state).length
    if count = 0 then ⟨.failed, state, [], outcomes⟩
    else ⟨.done, source.advance state count, (source.offer state).take count, outcomes⟩

/-- One write, unless nothing waits. -/
def writeOnce (outcomes : List Outcome) : Flushed σ α :=
  if source.idle state then ⟨.done, state, [], outcomes⟩
  else
    match outcomes with
    | [] => ⟨.blocked, source.abandon state, [], []⟩
    | outcome :: outcomes => source.answer state outcomes outcome

/-- Write until nothing waits. -/
def flush : List Outcome → σ → Flushed σ α
  | [], state => source.writeOnce state []
  | outcome :: outcomes, state =>
    if source.idle state then ⟨.done, state, [], outcome :: outcomes⟩
    else
      let first := source.answer state outcomes outcome
      if first.status = .done then
        let later := flush outcomes first.state
        { later with written := first.written ++ later.written }
      else first

/-- The stream received the front of the content, and the rest still waits unless a write was
given up. -/
structure Accounts (before : σ) (result : Flushed σ α) : Prop where
  /-- The stream received a prefix. -/
  written_starts : result.written <+: source.content before
  waiting_ends : source.content result.state <:+ source.content before
  /-- The rest waits, unless giving a write up lost it. -/
  written_append : result.status ≠ .blocked ∨ (∀ state, source.abandon state = state) →
    result.written ++ source.content result.state = source.content before

theorem accounts_unchanged (status : Status) (state : σ) (outcomes : List Outcome) :
    source.Accounts state ⟨status, state, [], outcomes⟩ :=
  ⟨ nil_prefix, suffix_rfl, fun _ => rfl⟩

theorem answer_accounts (outcomes : List Outcome) (outcome : Outcome) :
    source.Accounts state (source.answer state outcomes outcome) := by
  cases outcome with
  | fails => exact source.accounts_unchanged _ _ _
  | accepts limit =>
    rw [answer]
    split
    · exact source.accounts_unchanged _ _ _
    · have within : min limit (source.offer state).length ≤ (source.offer state).length :=
        min_le_right _ _
      have front : (source.offer state).take (min limit (source.offer state).length) =
          (source.content state).take (min limit (source.offer state).length) := by
        obtain ⟨later, content_eq⟩ := source.offer_prefix state
        rw [← content_eq, take_append_of_le_length within]
      refine ⟨?_, ?_, fun _ => ?_⟩
      · rw [front]
        exact take_prefix _ _
      · rw [source.content_advance state _ within]
        exact drop_suffix _ _
      · rw [front, source.content_advance state _ within, take_append_drop]

theorem writeOnce_accounts (outcomes : List Outcome) :
    source.Accounts state (source.writeOnce state outcomes) := by
  unfold writeOnce
  split
  · exact source.accounts_unchanged _ _ _
  · cases outcomes with
    | nil =>
      refine ⟨ nil_prefix, source.abandon_ends state, fun kept => ?_⟩
      obtain live | lossless := kept
      · exact absurd rfl live
      · rw [lossless]
        rfl
    | cons outcome outcomes => exact source.answer_accounts state outcomes outcome

theorem flush_accounts (outcomes : List Outcome) (state : σ) :
    source.Accounts state (source.flush outcomes state) := by
  induction outcomes generalizing state with
  | nil => exact source.writeOnce_accounts state []
  | cons outcome outcomes induction =>
    have first := source.answer_accounts state outcomes outcome
    rw [flush]
    split
    · exact source.accounts_unchanged _ _ _
    · dsimp only
      split
      next wrote =>
        have live : (source.answer state outcomes outcome).status ≠ .blocked := by
          rw [wrote]
          exact Status.noConfusion
        have later := induction (source.answer state outcomes outcome).state
        refine ⟨?_, later.waiting_ends.trans first.waiting_ends, fun finished => ?_⟩
        · rw [← first.written_append (.inl live)]
          exact (prefix_append_right_inj _).mpr later.written_starts
        · rw [append_assoc, later.written_append finished, first.written_append (.inl live)]
      · exact first

variable {outcomes : List Outcome} {state : σ}

theorem content_of_flush_done (done : (source.flush outcomes state).status = .done) :
    source.content (source.flush outcomes state).state = [] := by
  revert done
  fun_induction source.flush outcomes state with
  | case1 state =>
    unfold writeOnce
    split_ifs with idle
    · exact fun _ => source.content_of_idle state idle
    · nofun
  | case2 outcome outcomes state idle => exact fun _ => source.content_of_idle state idle
  | case3 outcome outcomes state _ _ _ _ induction => exact induction
  | case4 outcome outcomes state _ _ stopped => exact fun done => absurd done stopped

/-- A flush which finishes wrote the whole content. -/
theorem written_of_flush_done (done : (source.flush outcomes state).status = .done) :
    (source.flush outcomes state).written = source.content state := by
  have live : (source.flush outcomes state).status ≠ .blocked := by
    rw [done]
    exact Status.noConfusion
  have accounts := (source.flush_accounts outcomes state).written_append (.inl live)
  rwa [source.content_of_flush_done done, append_nil] at accounts

end Source

end PartialWrite
