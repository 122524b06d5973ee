import BpmpPlatform.Library.Encoding
import Mathlib.Logic.Function.Iterate
import Mathlib.Tactic.Ring

/-! # Delays between attempts

The clients and the publisher of the configuration outbox multiply their delay after each failed attempt, up to a
maximum. Delays are nanoseconds of 64 bits with a sign.
-/
namespace BpmpPlatform.Backoff

/-- The result of an operation on delays, if it is one. -/
def duration (n : Nat) : Option Nat := if n < 2 ^ 63 then some n else none

theorem duration_of_le {n maximum : Nat} (h : n ≤ maximum) (hm : maximum < 2 ^ 63) : duration n = some n :=
  if_pos (by omega)

structure Config where
  maxBackoff : Nat
  multiplierMillis : Nat
  maxBackoff_lt : maxBackoff < 2 ^ 63
  multiplier_ge : 1000 ≤ multiplierMillis
  multiplier_lt : multiplierMillis < 2 ^ 32

/-- The next delay, in unbounded integers. -/
def Config.next (config : Config) (current : Nat) : Nat :=
  min config.maxBackoff (current * config.multiplierMillis / 1000)

def Config.Delay (config : Config) := { current : Nat // 0 < current ∧ current ≤ config.maxBackoff }

namespace GrpcClient

def nextBackoff (current : Nat) (config : Config) : Option Nat :=
  if config.maxBackoff ≤ current then some config.maxBackoff
  else
    let whole := config.multiplierMillis / 1000
    let remainder := config.multiplierMillis % 1000
    if 0 < whole ∧ config.maxBackoff / whole < current then some config.maxBackoff
    else do
      let next ← duration (current * whole)
      let thousands ← duration (current / 1000 * remainder)
      let units ← duration (current % 1000 * remainder)
      let fraction ← duration (thousands + units / 1000)
      if config.maxBackoff - next < fraction then some config.maxBackoff
      else do
        let next ← duration (next + fraction)
        some (min next config.maxBackoff)

end GrpcClient

namespace Gateway

/-- Division of a number of 128 bits; the quotient has to be one of 64 bits. -/
def div64 (high low divisor : Nat) : Option Nat :=
  if divisor ≤ high then none else some ((high * 2 ^ 64 + low) / divisor)

def nextBackoff (current : Nat) (config : Config) : Option Nat :=
  let high := current * config.multiplierMillis / 2 ^ 64
  let low := current * config.multiplierMillis % 2 ^ 64
  if 1000 ≤ high then some config.maxBackoff
  else do
    let next ← div64 high low 1000
    if config.maxBackoff < next then some config.maxBackoff else duration next

/-- The 64-bit FNV-1a hash. -/
def fnv64a (bytes : List UInt8) : UInt64 :=
  bytes.foldl (fun hash byte => (hash ^^^ byte.toUInt64) * 1099511628211) 14695981039346656037

def jitteredDelay (delay : Nat) (tenantId dependency : String) (attempt : UInt32) (unixNano : UInt64) : Option Nat :=
  let hash := fnv64a (Encoding.utf8 tenantId ++ 0 :: Encoding.utf8 dependency)
  let value := hash ^^^ unixNano ^^^ attempt.toUInt64
  duration (delay / 2 + value.toNat % (delay / 2 + 1))

theorem nextBackoff_eq (config : Config) (current : Nat) : nextBackoff current config = some (config.next current) := by
  have hmax := config.maxBackoff_lt
  have hproduct := Nat.div_add_mod' (current * config.multiplierMillis) (2 ^ 64)
  unfold nextBackoff Config.next div64
  generalize current * config.multiplierMillis = product at *
  dsimp only
  split_ifs with hhigh
  · rw [min_eq_left (by omega)]
  · simp only [hproduct, Option.bind_eq_bind, Option.bind_some]
    split_ifs with hnext
    · rw [min_eq_left (by omega)]
    · rw [min_eq_right (by omega)]
      exact duration_of_le (by omega) hmax

theorem jitteredDelay_bounds {delay : Nat} (h : delay < 2 ^ 63) (tenantId dependency : String) (attempt : UInt32)
    (unixNano : UInt64) :
    ∃ result, jitteredDelay delay tenantId dependency attempt unixNano = some result ∧
      delay / 2 ≤ result ∧ result ≤ delay := by
  unfold jitteredDelay
  dsimp only
  generalize UInt64.toNat _ = value
  have hmod := Nat.mod_lt value (Nat.add_one_pos (delay / 2))
  exact ⟨_,duration_of_le (show _ ≤ delay by omega) h,by omega,by omega⟩

end Gateway

/-- The product with the multiplier is added up from its quotient and its remainder. -/
theorem mul_div_thousand (current multiplier : Nat) :
    current * multiplier / 1000 = current * (multiplier / 1000) +
      (current / 1000 * (multiplier % 1000) + current % 1000 * (multiplier % 1000) / 1000) := by
  have hproduct : current * multiplier = 1000 * (current * (multiplier / 1000) + current / 1000 * (multiplier % 1000)) +
      current % 1000 * (multiplier % 1000) := by
    conv_lhs => rw [← Nat.div_add_mod multiplier 1000, Nat.mul_add]
    conv_lhs => arg 2; rw [← Nat.div_add_mod current 1000]
    ring
  rw [hproduct, Nat.mul_add_div (by decide), Nat.add_assoc]

theorem Config.le_next (config : Config) {current : Nat} (h : current ≤ config.maxBackoff) :
    current ≤ config.next current := by
  refine le_min h ?_
  rw [Nat.le_div_iff_mul_le (by decide)]
  exact Nat.mul_le_mul_left _ config.multiplier_ge

theorem GrpcClient.nextBackoff_eq (config : Config) {current : Nat} (h : current ≤ config.maxBackoff) :
    nextBackoff current config = some (config.next current) := by
  have hmax := config.maxBackoff_lt
  have hgrow := config.le_next h
  unfold nextBackoff
  dsimp only
  split_ifs with hfull hwhole
  · rw [Config.next, min_eq_left (by unfold Config.next at hgrow; omega)]
  · -- the whole part of the multiplier alone exceeds the maximum
    have hover := (Nat.div_lt_iff_lt_mul hwhole.1).mp hwhole.2
    rw [Config.next, mul_div_thousand, min_eq_left (by omega)]
  · have hwithin : current * (config.multiplierMillis / 1000) ≤ config.maxBackoff := by
      have hpos := Nat.div_pos config.multiplier_ge (by decide)
      exact (Nat.le_div_iff_mul_le hpos).mp (by omega)
    have hrem := Nat.mod_lt config.multiplierMillis (show 1000 > 0 by decide)
    have hthousands := Nat.mul_le_mul_left (current / 1000) hrem.le
    have hunits := Nat.mul_le_mul_left (current % 1000) hrem.le
    rw [Config.next, mul_div_thousand]
    generalize current * (config.multiplierMillis / 1000) = next at *
    generalize current / 1000 * (config.multiplierMillis % 1000) = thousands at *
    generalize current % 1000 * (config.multiplierMillis % 1000) = units at *
    rw [duration_of_le hwithin hmax, duration_of_le hthousands (by omega), duration_of_le hunits (by omega)]
    simp only [Option.bind_eq_bind, Option.bind_some]
    rw [duration_of_le (show _ ≤ current by omega) (by omega)]
    simp only [Option.bind_some]
    split_ifs with hfraction
    · rw [min_eq_left (by omega)]
    · rw [duration_of_le (show _ ≤ config.maxBackoff by omega) hmax, min_comm]
      rfl

/-- Both clients compute the next delay exactly; it does not shrink, and the gateway waits at least half of it. -/
theorem next_backoff_exact (config : Config) (current : config.Delay) (tenantId dependency : String) (attempt : UInt32)
    (unixNano : UInt64) (delay : Fin (2 ^ 63)) :
    GrpcClient.nextBackoff current.1 config = some (config.next current.1) ∧
    Gateway.nextBackoff current.1 config = some (config.next current.1) ∧ current.1 ≤ config.next current.1 ∧
    ∃ jittered, Gateway.jitteredDelay delay tenantId dependency attempt unixNano = some jittered ∧
      delay.val / 2 ≤ jittered ∧ jittered ≤ delay.val :=
  ⟨GrpcClient.nextBackoff_eq config current.2.2,Gateway.nextBackoff_eq config current.1,config.le_next current.2.2,
    Gateway.jitteredDelay_bounds delay.2 tenantId dependency attempt unixNano⟩

namespace Publisher

/-- The loop of `retryDelay`, with the number of rounds left; its product is one of 64 bits. -/
def retryFrom (config : Config) : Nat → Nat → Nat
  | 0, delay => delay
  | rounds + 1, delay =>
    if delay < config.maxBackoff then
      let next := delay * config.multiplierMillis % 2 ^ 64 / 1000
      if next ≤ delay ∨ config.maxBackoff ≤ next then config.maxBackoff else retryFrom config rounds next
    else delay

def retryDelay (config : Config) (initialRetryDelay : config.Delay) (attempt : UInt32) : Nat :=
  retryFrom config (attempt.toNat - 1) initialRetryDelay.1

/-- The delay is the maximum, or grows without a carry, or grows to the maximum and the carry does not hide it. -/
def Grows (config : Config) (delay : Nat) : Prop :=
  let product := delay * config.multiplierMillis
  delay = config.maxBackoff ∨ product < 2 ^ 64 ∧ delay < product / 1000 ∨
    config.maxBackoff ≤ product / 1000 ∧ (product % 2 ^ 64 / 1000 ≤ delay ∨ config.maxBackoff ≤ product % 2 ^ 64 / 1000)

theorem retryFrom_maxBackoff (config : Config) (rounds : Nat) :
    retryFrom config rounds config.maxBackoff = config.maxBackoff := by
  cases rounds <;> simp [retryFrom]

theorem retryFrom_one_eq_iff (config : Config) {delay : Nat} (h : delay ≤ config.maxBackoff) :
    retryFrom config 1 delay = config.next delay ↔ Grows config delay := by
  have hle := config.le_next h
  unfold Config.next at *
  simp only [retryFrom, Grows]
  generalize delay * config.multiplierMillis = product at *
  split_ifs <;> omega

theorem retryFrom_eq_iterate (config : Config) {rounds delay : Nat} (h : delay ≤ config.maxBackoff) :
    retryFrom config rounds delay = (retryFrom config 1)^[rounds] delay := by
  induction rounds generalizing delay with
  | zero => rfl
  | succ rounds ih =>
    have hone : retryFrom config 1 delay ≤ config.maxBackoff := by
      simp only [retryFrom]
      split_ifs <;> omega
    rw [Function.iterate_succ_apply, ← ih hone]
    -- a loop that is left early has reached the maximum
    simp only [retryFrom]
    split_ifs with hlt hearly
    · exact (retryFrom_maxBackoff config rounds).symm
    · rfl
    · rw [h.antisymm (not_lt.mp hlt), retryFrom_maxBackoff]

theorem iterate_agree_iff {step step' : Nat → Nat} {start rounds : Nat} :
    (∀ round ≤ rounds, step^[round] start = step'^[round] start) ↔
      ∀ round < rounds, step (step'^[round] start) = step' (step'^[round] start) := by
  simp only [← Function.iterate_succ_apply' step']
  refine ⟨fun h round hlt => ?_,fun h round hle => ?_⟩
  · rw [← h round hlt.le, ← Function.iterate_succ_apply' step, h (round + 1) hlt]
  · induction round with
    | zero => rfl
    | succ round ih => rw [Function.iterate_succ_apply', ih (by omega), h round (by omega)]

/-- The delays follow the policy at every attempt exactly if each delay of the policy grows. -/
theorem retry_delay_iff (config : Config) (initialRetryDelay : config.Delay) :
    (∀ attempt : UInt32, retryDelay config initialRetryDelay attempt = config.next^[attempt.toNat - 1] initialRetryDelay.1) ↔
      ∀ round, round + 2 < 2 ^ 32 → Grows config (config.next^[round] initialRetryDelay.1) := by
  have hattempts : (∀ attempt : UInt32, retryDelay config initialRetryDelay attempt =
      config.next^[attempt.toNat - 1] initialRetryDelay.1) ↔
      ∀ round ≤ 2 ^ 32 - 2, (retryFrom config 1)^[round] initialRetryDelay.1 = config.next^[round] initialRetryDelay.1 := by
    simp only [retryDelay, retryFrom_eq_iterate config initialRetryDelay.2.2]
    refine ⟨fun h round hle => ?_,fun h attempt => h _ (by have := attempt.toNat_lt; omega)⟩
    have hround := h (UInt32.ofNat (round + 1))
    rwa [UInt32.toNat_ofNat_of_lt' (show round + 1 < 2 ^ 32 by omega), Nat.add_sub_cancel] at hround
  rw [hattempts, iterate_agree_iff]
  refine forall_congr' fun round => ?_
  have hle : config.next^[round] initialRetryDelay.1 ≤ config.maxBackoff := by
    cases round with
    | zero => exact initialRetryDelay.2.2
    | succ => rw [Function.iterate_succ_apply']; exact min_le_left _ _
  rw [retryFrom_one_eq_iff config hle]
  exact ⟨fun h hlt => h (by omega),fun h hlt => h (by omega)⟩

/-- With a multiplier of one the second delay is the maximum. -/
theorem constant_delay_jumps :
    let config : Config := ⟨10, 1000, by decide, by decide, by decide⟩
    let initialRetryDelay : config.Delay := ⟨1, by decide⟩
    retryDelay config initialRetryDelay 2 = 10 ∧ config.next^[1] initialRetryDelay.1 = 1 := by
  decide

end Publisher

end BpmpPlatform.Backoff
