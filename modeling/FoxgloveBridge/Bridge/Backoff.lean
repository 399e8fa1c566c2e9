import FoxgloveBridge.Bridge.Poll
import FoxgloveBridge.Utils
import Mathlib.Algebra.Group.Int.Defs
import Mathlib.Algebra.Group.Nat.Defs

/-!
# The backoff of the poll thread

How long the poll thread waits after each of its cycles. The timeout depends on
`updateCount`, which the sweep at the end of a cycle steps up and a consumed poke resets, and
on the parameter `max_update_ms`. The number of cycles since start-up or since the last
consumed poke is no variable of the loop, and is counted beside it (`backoffSystem`).

The waits are documented to double from 100 ms on. The code doubles from 2 ms on, and clamps
the result to at least 100 ms: the first six cycles all wait for 100 ms
(`backoff_documented_iff`). They never get shorter until `updateCount` wraps around, and stay
between the two bounds.
-/

namespace FoxgloveBridge

/-- `_maxUpdatePeriodMs`, from the parameter `max_update_ms`. -/
def maxUpdatePeriodMs (maxUpdateMs : Int32) : Nat := saturatingToSizeT maxUpdateMs.toInt64 0

/-- The wait after the `n`-th consecutive cycle, as it is documented: 100 ms, 200 ms, 400 ms
and so on, up to `max_update_ms`, but no less than the minimum. -/
def documentedPeriodMs (n : Nat) (maxUpdateMs : Int) : Int :=
  max minUpdatePeriodMs (min (100 * 2 ^ (n - 1)) maxUpdateMs)

/-- `updatePeriodMs` in the arithmetic of a 64-bit `size_t`, where a shift takes its amount
modulo the width. -/
def updatePeriodSizeT (updateCount maxUpdatePeriodMs : UInt64) : UInt64 :=
  max 100 (min (1 <<< min updateCount 32) maxUpdatePeriodMs)

/-- The cycles since start-up or since the last consumed poke. -/
def consecutiveCycles (σ : PollState) (a : PollAction) (n : Nat) : Nat :=
  match a with
  | .sweepExpiredServiceCalls => n + 1
  | .consumePoke => if σ.pollPoke then 0 else n
  | _ => n

/-- The poll thread and its callers, with the consecutive cycles counted. -/
def backoffSystem (servicesEnabled : Bool) (maxUpdateMs : Int32) :
    TSys (PollState × Nat) PollAction :=
  (pollSystem servicesEnabled (maxUpdatePeriodMs maxUpdateMs)).withGhost 0 consecutiveCycles

/-- The timeout of a wait has been computed, and the wait is not over. -/
def PollPc.hasTimeout : PollPc → Bool
  | .locking | .checking _ | .waiting | .woken _ | .consuming => true
  | _ => false

/-! ## The timeout -/

/-- No shift reaches the width of a `size_t`, and nothing overflows. -/
theorem toNat_updatePeriodSizeT (updateCount maxUpdatePeriodMs : UInt64) :
    (updatePeriodSizeT updateCount maxUpdatePeriodMs).toNat =
      updatePeriodMs updateCount.toNat maxUpdatePeriodMs.toNat := by
  have hshift : (min updateCount 32).toNat ≤ 32 := by
    rw [UInt64.toNat_min]
    exact Nat.min_le_right _ _
  have hpow : 2 ^ (min updateCount 32).toNat ≤ 2 ^ 32 := Nat.pow_le_pow_right (by omega) hshift
  have hshifted : (1 <<< min updateCount 32 : UInt64).toNat = 2 ^ min updateCount.toNat 32 := by
    rw [UInt64.toNat_shiftLeft, Nat.mod_eq_of_lt (show _ < 64 by omega)]
    show 1 <<< (min updateCount 32).toNat % 2 ^ 64 = _
    rw [Nat.one_shiftLeft, Nat.mod_eq_of_lt (by omega), UInt64.toNat_min]
    rfl
  unfold updatePeriodSizeT updatePeriodMs
  rw [UInt64.toNat_max, UInt64.toNat_min, hshifted]
  rfl

theorem maxUpdatePeriodMs_eq (maxUpdateMs : Int32) :
    (maxUpdatePeriodMs maxUpdateMs : Int) = max maxUpdateMs.toInt 0 := by
  have hclamped := saturatingToSizeT_eq maxUpdateMs.toInt64 0
  rw [Int32.toInt_toInt64] at hclamped
  exact hclamped

/-- The timeout, in terms of the parameter. -/
theorem updatePeriodMs_eq (updateCount : Nat) (maxUpdateMs : Int32) :
    (updatePeriodMs updateCount (maxUpdatePeriodMs maxUpdateMs) : Int) =
      max 100 (min (2 ^ min updateCount 32) maxUpdateMs.toInt) := by
  have hmax := maxUpdatePeriodMs_eq maxUpdateMs
  have hcast : ((2 ^ min updateCount 32 : Nat) : Int) = 2 ^ min updateCount 32 :=
    Int.natCast_pow 2 _
  unfold updatePeriodMs minUpdatePeriodMs
  omega

theorem updatePeriodMs_mono {updateCount updateCount' : Nat} (h : updateCount ≤ updateCount')
    (maxUpdatePeriodMs : Nat) :
    updatePeriodMs updateCount maxUpdatePeriodMs ≤
      updatePeriodMs updateCount' maxUpdatePeriodMs := by
  have hpow : 2 ^ min updateCount 32 ≤ 2 ^ min updateCount' 32 :=
    Nat.pow_le_pow_right (by omega) (by omega)
  unfold updatePeriodMs
  omega

/-- The documented timeout and the computed one agree in the first cycle, and where both are
clamped to the same value. -/
theorem updatePeriodMs_eq_documented_iff {n : Nat} (hn : 0 < n) (maxUpdateMs : Int32) :
    (updatePeriodMs (n % 2 ^ 64) (maxUpdatePeriodMs maxUpdateMs) : Int) =
        documentedPeriodMs n maxUpdateMs.toInt ↔
      n = 1 ∨ maxUpdateMs.toInt ≤ max 100 (2 ^ min (n % 2 ^ 64) 32) := by
  rw [updatePeriodMs_eq]
  unfold documentedPeriodMs minUpdatePeriodMs
  by_cases hone : n = 1
  · subst hone
    have hfirst : max 100 (min (2 ^ min (1 % 2 ^ 64) 32) maxUpdateMs.toInt) =
        max 100 (min (100 * 2 ^ (1 - 1)) maxUpdateMs.toInt) := by
      show max 100 (min 2 maxUpdateMs.toInt) = max 100 (min 100 maxUpdateMs.toInt)
      omega
    exact ⟨fun _ => .inl rfl, fun _ => hfirst⟩
  · -- the documented doubling is ahead of the shift
    have hbelow : 2 ^ min (n % 2 ^ 64) 32 ≤ 2 ^ n :=
      Nat.pow_le_pow_right (by omega) (by omega)
    have hdouble : 2 ^ n = 2 * 2 ^ (n - 1) := by
      rw [← Nat.pow_succ', Nat.succ_eq_add_one, Nat.sub_add_cancel hn]
    have htwo : 2 ^ 1 ≤ 2 ^ (n - 1) := Nat.pow_le_pow_right (by omega) (by omega)
    have hshift : ((2 ^ min (n % 2 ^ 64) 32 : Nat) : Int) = 2 ^ min (n % 2 ^ 64) 32 :=
      Int.natCast_pow 2 _
    have hahead : ((2 ^ (n - 1) : Nat) : Int) = 2 ^ (n - 1) := Int.natCast_pow 2 _
    rw [or_iff_right hone]
    omega

/-! ## The counter and the timeout along a run -/

variable {servicesEnabled : Bool} {maxUpdateMs : Int32}

/-- In the `try` block the last timeout is gone, and the next is not computed yet. -/
theorem PollCycle.Rule.hasTimeout {count : Int} {c c' : PollCycle} {pc pc' : PollPc}
    (h : c.Rule servicesEnabled count pc pc' c') : pc'.hasTimeout = false := by
  cases h <;> rfl

/-- `updateCount` is the number of consecutive cycles, as far as a `size_t` holds it, and the
timeout is the one for this number. -/
structure PollState.Backoff (maxUpdatePeriodMs : Nat) (σ : PollState) (n : Nat) : Prop where
  updateCount : σ.updateCount = n % 2 ^ 64
  counted : σ.pc.hasTimeout = true → 0 < n
  periodMs : σ.pc.hasTimeout = true → σ.periodMs = updatePeriodMs (n % 2 ^ 64) maxUpdatePeriodMs

namespace PollState.Backoff

variable {maxUpdatePeriodMs n : Nat} {σ : PollState}

/-- A step that ends no cycle and consumes no poke. -/
theorem keep {σ' : PollState} (h : σ.Backoff maxUpdatePeriodMs n)
    (hcount : σ'.updateCount = σ.updateCount) (hperiod : σ'.periodMs = σ.periodMs)
    (hpc : σ'.pc.hasTimeout = true → σ.pc.hasTimeout = true) :
    σ'.Backoff maxUpdatePeriodMs n where
  updateCount := hcount.trans h.updateCount
  counted hwait := h.counted (hpc hwait)
  periodMs hwait := hperiod.trans (h.periodMs (hpc hwait))

/-- A notified wait has the timeout it began with. -/
theorem notified (h : σ.Backoff maxUpdatePeriodMs n) : σ.notified.Backoff maxUpdatePeriodMs n := by
  rcases Served.notified_cases σ with ⟨-, heq⟩ | ⟨hwait, heq⟩
  · rwa [heq]
  · rw [heq]
    exact h.keep rfl rfl fun _ => by rw [hwait]; rfl

/-- The sweep that ends a cycle comes before the timeout of the wait is computed. -/
theorem sweep (h : σ.Backoff maxUpdatePeriodMs n) :
    Backoff maxUpdatePeriodMs
      { σ with
        pc := .locking
        updateCount := nextUpdateCount σ.updateCount
        periodMs := updatePeriodMs (nextUpdateCount σ.updateCount) maxUpdatePeriodMs
        finished := σ.finished ++ [σ.cycle] } (n + 1) := by
  have hnext : nextUpdateCount σ.updateCount = (n + 1) % 2 ^ 64 := by
    unfold nextUpdateCount
    rw [h.updateCount, Nat.mod_add_mod]
  exact ⟨hnext, fun _ => Nat.succ_pos n, fun _ => congrArg (updatePeriodMs · _) hnext⟩

/-- A poke that is consumed starts the count over. -/
theorem consume (h : σ.Backoff maxUpdatePeriodMs n) :
    Backoff maxUpdatePeriodMs
      { σ with
        pc := .top
        pollPoke := false
        updateCount := if σ.pollPoke then 0 else σ.updateCount }
      (if σ.pollPoke then 0 else n) := by
  refine ⟨?_, nofun, nofun⟩
  show (if σ.pollPoke then 0 else σ.updateCount) = _
  split
  · rfl
  · exact h.updateCount

theorem step {σ' : PollState} {a : PollAction} (h : σ.Backoff maxUpdatePeriodMs n)
    (hs : σ.Step servicesEnabled maxUpdatePeriodMs a σ') :
    σ'.Backoff maxUpdatePeriodMs (consecutiveCycles σ a n) := by
  cases hs with
  | startCycle | exit => exact h.keep rfl rfl nofun
  | @cycle a pc c hcycle =>
      have hpc : pc.hasTimeout = false := (PollCycle.step_rule hcycle).hasTimeout
      exact h.keep rfl rfl fun hwait => absurd (hpc.symm.trans hwait) nofun
  | sweep => exact h.sweep
  | consume => exact h.consume
  | lock hpc | leave hpc | block hpc | wake hpc | relock hpc =>
      exact h.keep rfl rfl fun _ => by rw [hpc]; rfl
  | @call kind => cases kind <;> exact h.keep rfl rfl id
  | @count call kind => cases kind <;> exact h.keep rfl rfl id
  | compensate | raise | requestShutdown => exact h.keep rfl rfl id
  | @notify call kind raisedAt =>
      have hcall : (σ.setCall call ⟨kind, .returned (some raisedAt)⟩).Backoff maxUpdatePeriodMs n :=
        h.keep rfl rfl id
      exact hcall.notified.keep rfl rfl id
  | notifyShutdown => exact h.notified.keep rfl rfl id

theorem of_reachable (h : (backoffSystem servicesEnabled maxUpdateMs).Reachable (σ, n)) :
    σ.Backoff (FoxgloveBridge.maxUpdatePeriodMs maxUpdateMs) n := by
  have hinv := TSys.Run.invariant (M := backoffSystem servicesEnabled maxUpdateMs)
    (I := fun τ => τ.1.Backoff (FoxgloveBridge.maxUpdatePeriodMs maxUpdateMs) τ.2) h
  refine hinv ⟨?_, ?_⟩
  · rintro ⟨_, _⟩ ⟨rfl, rfl⟩
    exact ⟨rfl, nofun, nofun⟩
  · rintro ⟨τ, m⟩ a ⟨τ', m'⟩ hbackoff - hs
    obtain ⟨hstep, hcount⟩ := TSys.withGhost_step_iff.mp hs
    obtain rfl : m' = consecutiveCycles τ a m := hcount
    exact hbackoff.step (PollState.step_rule hstep)

end PollState.Backoff

/-! ## The schedule -/

variable {σ τ : PollState} {n m : Nat}

theorem maxUpdatePeriodMs_lt (maxUpdateMs : Int32) : maxUpdatePeriodMs maxUpdateMs < 2 ^ 31 := by
  have hmax := maxUpdatePeriodMs_eq maxUpdateMs
  have hbound : maxUpdateMs.toInt < 2 ^ 31 := maxUpdateMs.toInt_lt
  omega

/-- The wait after the `n`-th consecutive cycle. -/
theorem backoff_period (h : (backoffSystem servicesEnabled maxUpdateMs).Reachable (σ, n))
    (hwait : σ.pc.hasTimeout = true) :
    0 < n ∧ σ.periodMs = updatePeriodMs (n % 2 ^ 64) (maxUpdatePeriodMs maxUpdateMs) := by
  have hbackoff := PollState.Backoff.of_reachable h
  exact ⟨hbackoff.counted hwait, hbackoff.periodMs hwait⟩

/-- The machine computes the same timeout. -/
theorem backoff_sizeT (h : (backoffSystem servicesEnabled maxUpdateMs).Reachable (σ, n))
    (hwait : σ.pc.hasTimeout = true) :
    (updatePeriodSizeT (.ofNat n) (.ofNat (maxUpdatePeriodMs maxUpdateMs))).toNat =
      σ.periodMs := by
  have hmax := maxUpdatePeriodMs_lt maxUpdateMs
  rw [toNat_updatePeriodSizeT, UInt64.toNat_ofNat', UInt64.toNat_ofNat',
    Nat.mod_eq_of_lt (show maxUpdatePeriodMs maxUpdateMs < 2 ^ 64 by omega)]
  exact (backoff_period h hwait).2.symm

/-- Every wait is between the two bounds. -/
theorem backoff_bounds (h : (backoffSystem servicesEnabled maxUpdateMs).Reachable (σ, n))
    (hwait : σ.pc.hasTimeout = true) :
    100 ≤ σ.periodMs ∧ (σ.periodMs : Int) ≤ max 100 maxUpdateMs.toInt := by
  have hperiod := updatePeriodMs_eq (n % 2 ^ 64) maxUpdateMs
  rw [← (backoff_period h hwait).2] at hperiod
  omega

/-- The same of the poll thread as it is, with no cycles counted. -/
theorem periodMs_bounds
    (h : (pollSystem servicesEnabled (maxUpdatePeriodMs maxUpdateMs)).Reachable σ)
    (hwait : σ.pc.hasTimeout = true) :
    100 ≤ σ.periodMs ∧ (σ.periodMs : Int) ≤ max 100 maxUpdateMs.toInt := by
  obtain ⟨n, hcounted⟩ := h.exists_ghost 0 consecutiveCycles
  exact backoff_bounds hcounted hwait

/-- The waits get no shorter, as long as the counter does not wrap around. -/
theorem backoff_mono (h : (backoffSystem servicesEnabled maxUpdateMs).Reachable (σ, n))
    (hwait : σ.pc.hasTimeout = true)
    (hlater : (backoffSystem servicesEnabled maxUpdateMs).Reachable (τ, m))
    (hwait' : τ.pc.hasTimeout = true) (hle : n ≤ m) (hm : m < 2 ^ 64) :
    σ.periodMs ≤ τ.periodMs := by
  rw [(backoff_period h hwait).2, (backoff_period hlater hwait').2,
    Nat.mod_eq_of_lt (Nat.lt_of_le_of_lt hle hm), Nat.mod_eq_of_lt hm]
  exact updatePeriodMs_mono hle _

/-- **The backoff of the poll thread.** The wait after the `n`-th consecutive cycle is the
documented one exactly for the first cycle, and where the parameter is so small that the
shifted value is clamped too. In any case it is computed without overflow, it is no shorter
than 100 ms and no longer than 100 ms and the parameter, and no later wait is shorter as long
as the counter does not wrap around. -/
theorem backoff_documented_iff
    (h : (backoffSystem servicesEnabled maxUpdateMs).Reachable (σ, n))
    (hwait : σ.pc.hasTimeout = true) :
    ((σ.periodMs : Int) = documentedPeriodMs n maxUpdateMs.toInt ↔
        n = 1 ∨ maxUpdateMs.toInt ≤ max 100 (2 ^ min (n % 2 ^ 64) 32)) ∧
      (updatePeriodSizeT (.ofNat n) (.ofNat (maxUpdatePeriodMs maxUpdateMs))).toNat =
        σ.periodMs ∧
      100 ≤ σ.periodMs ∧ (σ.periodMs : Int) ≤ max 100 maxUpdateMs.toInt ∧
      ∀ τ m, (backoffSystem servicesEnabled maxUpdateMs).Reachable (τ, m) →
        τ.pc.hasTimeout = true → n ≤ m → m < 2 ^ 64 → σ.periodMs ≤ τ.periodMs := by
  obtain ⟨hn, hperiod⟩ := backoff_period h hwait
  obtain ⟨hlower, hupper⟩ := backoff_bounds h hwait
  refine ⟨?_, backoff_sizeT h hwait, hlower, hupper, ?_⟩
  · rw [hperiod]
    exact updatePeriodMs_eq_documented_iff hn maxUpdateMs
  · intro τ m hlater hwait'
    exact backoff_mono h hwait hlater hwait'

/-- A cycle that an exception ends, and the wait behind it. -/
def cycleAndWait : List PollAction :=
  [.startCycle true, .cycle .decide, .cycle (.getPublishedTopics .throws),
    .sweepExpiredServiceCalls, .lockPollMutex, .checkPredicate]

/-- The time is up, and no poke has come. -/
def leaveWait : List PollAction := [.wake true, .relock, .checkPredicate, .consumePoke]

/-- A witness: with a parameter of 120 ms, the seventh wait is the first for which the shift
is not clamped, and is the documented one. -/
theorem backoff_documented_seventh :
    ∃ σ, (backoffSystem true 120).exec (.initial, 0)
        ((List.replicate 6 (cycleAndWait ++ leaveWait)).flatten ++ cycleAndWait) = some (σ, 7) ∧
      (σ.periodMs : Int) = documentedPeriodMs 7 120 := by
  refine ⟨_, rfl, ?_⟩
  have hexec : (backoffSystem true 120).exec (.initial, 0)
      ((List.replicate 6 (cycleAndWait ++ leaveWait)).flatten ++ cycleAndWait) =
        some (_, 7) := rfl
  have hinit : (backoffSystem true 120).init (.initial, 0) := ⟨rfl, rfl⟩
  have hreach := TSys.Reachable.exec (.init hinit) hexec
  exact (backoff_documented_iff hreach rfl).1.mpr (.inr (by decide))

/-- With the default parameter, the second cycle is followed by a wait of 100 ms instead of
the documented 200 ms. -/
theorem not_backoff_documented :
    ∃ σ, (backoffSystem true 5000).exec (.initial, 0)
        (cycleAndWait ++ leaveWait ++ cycleAndWait) = some (σ, 2) ∧
      σ.pc = .waiting ∧ σ.periodMs = 100 ∧ documentedPeriodMs 2 5000 = 200 :=
  ⟨_, rfl, rfl, rfl, rfl⟩

/-- The whole schedule is the documented one only where every wait is clamped. -/
theorem schedule_documented_iff (servicesEnabled : Bool) (maxUpdateMs : Int32) :
    (∀ σ n, (backoffSystem servicesEnabled maxUpdateMs).Reachable (σ, n) →
        σ.pc.hasTimeout = true → (σ.periodMs : Int) = documentedPeriodMs n maxUpdateMs.toInt) ↔
      maxUpdateMs.toInt ≤ 100 := by
  constructor
  · -- the second wait
    intro hdocumented
    have hexec : (backoffSystem servicesEnabled maxUpdateMs).exec (.initial, 0)
        (cycleAndWait ++ leaveWait ++ cycleAndWait) = some (_, 2) := rfl
    have hinit : (backoffSystem servicesEnabled maxUpdateMs).init (.initial, 0) := ⟨rfl, rfl⟩
    have hreach := TSys.Reachable.exec (.init hinit) hexec
    have hsecond := hdocumented _ 2 hreach rfl
    rw [(backoff_period hreach rfl).2, updatePeriodMs_eq_documented_iff (by omega)] at hsecond
    rcases hsecond with hone | hsmall
    · cases hone
    · exact hsmall
  · intro hsmall σ n h hwait
    obtain ⟨hn, hperiod⟩ := backoff_period h hwait
    rw [hperiod, updatePeriodMs_eq_documented_iff hn]
    exact .inr (Int.le_trans hsmall (Int.le_max_left _ _))

end FoxgloveBridge
