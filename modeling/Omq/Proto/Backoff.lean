import Mathlib.Algebra.Group.Nat.Defs
import Mathlib.Order.Interval.Set.Basic

/-!
# Delays before a reconnect

The jitter draws a number from twice its range and subtracts the range, without going below zero.
So a delay is never shortened: half of the intended interval is not attained.
-/

namespace Omq

/-- A duration in nanoseconds; its seconds fit a machine word. -/
structure Duration where
  nanos : Nat
  fits : nanos < 2 ^ 64 * 10 ^ 9

namespace Duration

protected def max : Duration := ⟨2 ^ 64 * 10 ^ 9 - 1, by decide⟩

def asMillis (duration : Duration) : Nat := duration.nanos / 10 ^ 6

def saturatingMul (duration : Duration) (factor : Nat) : Duration :=
  if fits : duration.nanos * factor < 2 ^ 64 * 10 ^ 9 then ⟨_, fits⟩ else .max

protected def min (left right : Duration) : Duration :=
  if left.nanos ≤ right.nanos then left else right

end Duration

inductive ReconnectPolicy
  | disabled
  | fixed (delay : Duration)
  | exponential (least most : Duration)

def durationFromMillis (ms : Nat) : Duration :=
  if long : ms / 1000 > 2 ^ 64 - 1 then ⟨(2 ^ 64 - 1) * 10 ^ 9 + 999000000, by decide⟩
  else ⟨ms / 1000 * 10 ^ 9 + ms % 1000 * 1000000, by omega⟩

/-- What a random number generator returns for every range from zero to a bound. -/
abbrev Draw : Type := (bound : Nat) → Fin (bound + 1)

variable (draw : Draw)

def jitter (delay : Duration) : Duration :=
  if delay.nanos = 0 then delay
  else
    let ms := max delay.asMillis 1
    let delta := ms / 10
    let offset := (draw (2 * delta)).val - delta
    durationFromMillis (min (ms + offset) (2 ^ 128 - 1))

def nextDelay (policy : ReconnectPolicy) (attempt : UInt32) : Option Duration :=
  match policy with
  | .disabled => none
  | .fixed delay => some (jitter draw delay)
  | .exponential least most =>
    let shift := min (attempt.toNat - 1) 20
    let scale := 2 ^ shift % 2 ^ 64
    some (jitter draw ((least.saturatingMul (scale % 2 ^ 32)).min most))

/-! ## The intended interval -/

/-- Whole milliseconds, and at least one unless there is no delay. -/
def wholeMillis (nanos : Nat) : Nat := if nanos = 0 then 0 else max (nanos / 10 ^ 6) 1

/-- The delay of a policy before the jitter, in milliseconds. -/
def ReconnectPolicy.base (policy : ReconnectPolicy) (attempt : Nat) : Option Nat :=
  match policy with
  | .disabled => none
  | .fixed delay => some (wholeMillis delay.nanos)
  | .exponential least most =>
    some (wholeMillis (min (least.nanos * 2 ^ min (attempt - 1) 20) most.nanos))

/-- A tenth more or less than the base. -/
def jitterRange (base : Nat) : Set Nat := Set.Icc (base - base / 10) (base + base / 10)

/-- The delays, in milliseconds, which some draw leads to. -/
def delays (policy : ReconnectPolicy) (attempt : UInt32) : Set Nat :=
  {millis | ∃ draw, (nextDelay draw policy attempt).map Duration.nanos = some (millis * 10 ^ 6)}

/-- A product which is capped afterwards may be capped before. -/
theorem Duration.nanos_min_saturatingMul (least most : Duration) (factor : Nat) :
    ((least.saturatingMul factor).min most).nanos = min (least.nanos * factor) most.nanos := by
  have fits := most.fits
  unfold saturatingMul Duration.min Duration.max
  split_ifs <;> dsimp only at * <;> omega

theorem nanos_durationFromMillis (ms : Nat) :
    (durationFromMillis ms).nanos = min ms (2 ^ 64 * 1000 - 1) * 10 ^ 6 := by
  unfold durationFromMillis
  split_ifs <;> dsimp only <;> omega

/-- A delay is never below the base, and at most a tenth above it. -/
theorem nanos_jitter {delay : Duration} {base : Nat} (base_eq : wholeMillis delay.nanos = base) :
    ∃ millis ∈ Set.Icc base (base + base / 10), (jitter draw delay).nanos = millis * 10 ^ 6 := by
  have fits := delay.fits
  unfold wholeMillis at base_eq
  unfold jitter
  split_ifs at base_eq ⊢ with nothing
  · exact ⟨0, by simp [← base_eq], nothing⟩
  · subst base_eq
    have drawn := (draw (2 * (max delay.asMillis 1 / 10))).isLt
    refine ⟨_, ?_, nanos_durationFromMillis _⟩
    unfold Duration.asMillis at *
    exact ⟨by omega, by omega⟩

variable {policy : ReconnectPolicy} {attempt : UInt32} {base : Nat}

theorem nanos_nextDelay (based : policy.base attempt.toNat = some base) :
    ∃ millis ∈ Set.Icc base (base + base / 10),
      (nextDelay draw policy attempt).map Duration.nanos = some (millis * 10 ^ 6) := by
  cases policy with
  | disabled => cases based
  | fixed delay => simpa [nextDelay] using nanos_jitter draw (Option.some.inj based)
  | exponential least most =>
    have small : 2 ^ min (attempt.toNat - 1) 20 ≤ 2 ^ 20 :=
      Nat.pow_le_pow_right (by decide) (min_le_right ..)
    have scaled : 2 ^ min (attempt.toNat - 1) 20 % 2 ^ 64 % 2 ^ 32 =
        2 ^ min (attempt.toNat - 1) 20 := by
      rw [Nat.mod_eq_of_lt (small.trans_lt (by decide)),
        Nat.mod_eq_of_lt (small.trans_lt (by decide))]
    simp only [nextDelay, scaled, Option.map_some, Option.some.injEq]
    exact nanos_jitter draw ((congrArg wholeMillis (Duration.nanos_min_saturatingMul ..)).trans
      (Option.some.inj based))

/-- The delays fill the range around the base only where a tenth of it is nothing. -/
theorem delays_whole_iff (based : policy.base attempt.toNat = some base) :
    (∀ draw, ∃ millis ∈ jitterRange base,
      (nextDelay draw policy attempt).map Duration.nanos = some (millis * 10 ^ 6)) ∧
    (delays policy attempt = jitterRange base ↔ base < 10) := by
  refine ⟨fun draw => ?_, fun whole => ?_, fun short => ?_⟩
  · obtain ⟨millis, ⟨least, most⟩, delay_eq⟩ := nanos_nextDelay draw based
    exact ⟨millis, ⟨by omega, most⟩, delay_eq⟩
  · -- The lower end of the range is attained, and no delay is below the base.
    obtain ⟨draw, delay_eq⟩ := whole.ge ⟨le_rfl, by omega⟩
    obtain ⟨millis, ⟨least, -⟩, same⟩ := nanos_nextDelay draw based
    rw [delay_eq, Option.some.injEq] at same
    omega
  · ext millis
    have only draw : (nextDelay draw policy attempt).map Duration.nanos =
        some (base * 10 ^ 6) := by
      obtain ⟨millis, ⟨least, most⟩, delay_eq⟩ := nanos_nextDelay draw based
      obtain rfl : millis = base := by omega
      exact delay_eq
    simp only [delays, only, jitterRange, Set.mem_ofPred_eq, Set.mem_Icc, Option.some.injEq]
    constructor
    · rintro ⟨-, same⟩
      omega
    · intro within
      exact ⟨fun _ => 0, by omega⟩

theorem delays_of_nine_millis : delays (.fixed (durationFromMillis 9)) 1 = jitterRange 9 := by
  have based : (ReconnectPolicy.fixed (durationFromMillis 9)).base (1 : UInt32).toNat = some 9 :=
    rfl
  exact (delays_whole_iff based).2.mpr (by decide)

/-- No draw shortens a delay of ten milliseconds. -/
theorem delay_not_shortened :
    (ReconnectPolicy.fixed (durationFromMillis 10)).base 1 = some 10 ∧ 9 ∈ jitterRange 10 ∧
      9 ∉ delays (.fixed (durationFromMillis 10)) 1 := by
  refine ⟨rfl, ⟨by decide, by decide⟩, ?_⟩
  rintro ⟨draw, delay_eq⟩
  have based : (ReconnectPolicy.fixed (durationFromMillis 10)).base (1 : UInt32).toNat = some 10 :=
    rfl
  obtain ⟨millis, ⟨least, -⟩, same⟩ := nanos_nextDelay draw based
  rw [delay_eq, Option.some.injEq] at same
  omega

end Omq
