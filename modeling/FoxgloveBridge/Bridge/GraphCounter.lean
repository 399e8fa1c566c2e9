import FoxgloveBridge.Lib.Histories
import FoxgloveBridge.Lib.TSys
import Mathlib.Algebra.Group.Int.Defs
import Mathlib.Algebra.Group.Nat.Defs
import Mathlib.Data.List.Permutation

/-!
# The connection-graph counter

`_graphSubscriptionCount`, an `std::atomic<int>` that `onConnectionGraphSubscribe`
changes from any thread and the poll thread reads. An unsubscribe takes one off and,
if it found the counter at zero or below, puts it back in a second atomic step. A step
of the model is one atomic operation.

Between the two steps of such an unsubscribe the counter is too low, and whoever reads
it then may decide wrongly: the poll thread may see a negative count or miss a
subscriber, and an unsubscribe may take the branch that puts its one back although a
subscriber was there. In runs where no read falls into such a moment the counter is
linearizable (`graph_count_linearizable`); otherwise it may stay too high for good
(`not_graph_count_linearizable`).
-/

namespace FoxgloveBridge

/-- An atomic addition wraps around at 32 bits. -/
def wrapInt (n : Int) : Int := n.bmod (2 ^ 32)

/-- Where a call of `onConnectionGraphSubscribe` is. -/
inductive GraphCallPhase
  | entered
  /-- `fetch_sub` found no subscriber; `fetch_add` is next. -/
  | compensating
  /-- Past the counter; a subscribe pokes the poll thread. -/
  | leaving
  | returned
  deriving DecidableEq, Repr

/-- What the poll thread read, and how many subscribers there were. -/
structure GraphCountLoad where
  value : Int
  subscribers : Nat
  deriving DecidableEq, Repr

structure GraphState where
  /-- `_graphSubscriptionCount`. -/
  graphSubscriptionCount : Int
  /-- The argument of each call, in the order in which they began. -/
  subscribes : List Bool
  phases : List GraphCallPhase
  log : List (CallEvent Nat)
  /-- What the poll thread has loaded. -/
  loads : List GraphCountLoad

/-- One atomic operation, or a call that begins or returns. -/
inductive GraphAction
  | onConnectionGraphSubscribe (subscribe : Bool)
  | increment (call : Nat)
  | fetchSub (call : Nat)
  | fetchAdd (call : Nat)
  | returns (call : Nat)
  /-- The poll thread loads the counter. -/
  | load
  deriving DecidableEq, Repr

/-- The calls one after another, on a counter that starts at 0: an unsubscribe at zero
has no effect. -/
def runCalls (subscribes : List Bool) : Nat :=
  subscribes.foldl (fun count subscribe => if subscribe then count + 1 else count - 1) 0

namespace GraphState

variable (σ : GraphState)

def initial : GraphState where
  graphSubscriptionCount := 0
  subscribes := []
  phases := []
  log := []
  loads := []

/-- The argument of a call. -/
def subscribe (call : Nat) : Bool := σ.subscribes.getD call true

/-- The calls that have still to put back what they took. -/
def pending : Nat := σ.phases.countP (· = .compensating)

/-- The subscribers left by the calls that have taken effect, one after another. -/
def subscribers : Nat := runCalls ((CallEvent.decisions σ.log).map σ.subscribe)

/-- A call moves on. -/
def moveTo (call : Nat) (phase : GraphCallPhase) (events : List (CallEvent Nat)) : GraphState :=
  { σ with phases := σ.phases.set call phase, log := σ.log ++ events }

def step : GraphAction → Option GraphState
  | .onConnectionGraphSubscribe subscribe =>
      some { σ with
        subscribes := σ.subscribes ++ [subscribe]
        phases := σ.phases ++ [.entered]
        log := σ.log ++ [.invoked σ.phases.length] }
  | .increment call =>
      if σ.phases[call]? = some .entered ∧ σ.subscribe call = true then
        some { σ.moveTo call .leaving [.decided call] with
          graphSubscriptionCount := wrapInt (σ.graphSubscriptionCount + 1) }
      else none
  | .fetchSub call =>
      if σ.phases[call]? = some .entered ∧ σ.subscribe call = false then
        let next := if σ.graphSubscriptionCount ≤ 0 then .compensating else .leaving
        some { σ.moveTo call next [.decided call] with
          graphSubscriptionCount := wrapInt (σ.graphSubscriptionCount - 1) }
      else none
  | .fetchAdd call =>
      if σ.phases[call]? = some .compensating then
        some { σ.moveTo call .leaving [] with
          graphSubscriptionCount := wrapInt (σ.graphSubscriptionCount + 1) }
      else none
  | .returns call =>
      if σ.phases[call]? = some .leaving then some (σ.moveTo call .returned [.returned call])
      else none
  | .load =>
      some { σ with loads := σ.loads ++ [⟨σ.graphSubscriptionCount, σ.subscribers⟩] }

end GraphState

def graphSystem : TSys GraphState GraphAction where
  init σ := σ = .initial
  step := GraphState.step

/-- The condition on a step: the poll thread does not load the counter while it is at
or below zero and an unsubscribe has still to put its one back; no unsubscribe takes one
off while it is so although a subscriber is there; and the counter does not overflow. -/
def ReadsSettled (σ : GraphState) : GraphAction → Prop
  | .load => 0 < σ.graphSubscriptionCount ∨ σ.pending = 0
  | .fetchSub _ =>
      (0 < σ.graphSubscriptionCount ∨ σ.graphSubscriptionCount + σ.pending ≤ 0) ∧
        -2 ^ 31 < σ.graphSubscriptionCount
  | .increment _ => σ.graphSubscriptionCount + σ.pending < 2 ^ 31 - 1
  | _ => True

instance (σ : GraphState) : (a : GraphAction) → Decidable (ReadsSettled σ a)
  | .load => inferInstanceAs (Decidable (_ ∨ _))
  | .fetchSub _ => inferInstanceAs (Decidable (_ ∧ _))
  | .increment _ => inferInstanceAs (Decidable (_ < _))
  | .onConnectionGraphSubscribe _ | .fetchAdd _ | .returns _ => .isTrue trivial

/-! ## The log of the calls -/

/-- The log says where each call is. -/
structure GraphState.Logged (σ : GraphState) : Prop where
  wellFormed : CallEvent.WellFormed σ.log
  length : σ.subscribes.length = σ.phases.length
  invoked : ∀ call, .invoked call ∈ σ.log ↔ call < σ.phases.length
  decided : ∀ call, .decided call ∈ σ.log ↔
    ∃ phase, σ.phases[call]? = some phase ∧ phase ≠ .entered
  returned : ∀ call, .returned call ∈ σ.log ↔ σ.phases[call]? = some .returned

namespace GraphState.Logged

variable {σ : GraphState} {call : Nat} {phase : GraphCallPhase}

theorem lt_length (h : σ.phases[call]? = some phase) : call < σ.phases.length :=
  (List.getElem?_eq_some_iff.mp h).1

/-- The phases after one call has moved on. -/
theorem getElem?_moveTo (h : σ.phases[call]? = some phase) (next : GraphCallPhase)
    (other : Nat) : (σ.phases.set call next)[other]? =
      if other = call then some next else σ.phases[other]? := by
  by_cases heq : other = call
  · subst heq
    simp [List.getElem?_set_self (lt_length h)]
  · simp [List.getElem?_set_ne (Ne.symm heq), heq]

theorem begin (h : σ.Logged) (subscribe : Bool) :
    Logged { σ with
      subscribes := σ.subscribes ++ [subscribe]
      phases := σ.phases ++ [.entered]
      log := σ.log ++ [.invoked σ.phases.length] } where
  wellFormed := h.wellFormed.invoked (by simp [h.invoked])
  length := by simp [h.length]
  invoked other := by
    simp only [List.mem_append, h.invoked, List.mem_singleton, CallEvent.invoked.injEq,
      List.length_append, List.length_singleton]
    omega
  decided other := by
    have hold : (∃ phase, (σ.phases ++ [GraphCallPhase.entered])[other]? = some phase ∧
        phase ≠ .entered) ↔ ∃ phase, σ.phases[other]? = some phase ∧ phase ≠ .entered := by
      refine exists_congr fun phase => and_congr_left fun hne => ?_
      exact List.getElem?_append_singleton_of_ne hne.symm other
    rw [hold, ← h.decided]
    simp
  returned other := by
    have hold : (σ.phases ++ [GraphCallPhase.entered])[other]? = some .returned ↔
        σ.phases[other]? = some .returned :=
      List.getElem?_append_singleton_of_ne (fun heq => by cases heq) other
    rw [hold, ← h.returned]
    simp

/-- A call takes effect. -/
theorem decide (h : σ.Logged) (hcall : σ.phases[call]? = some .entered)
    {next : GraphCallPhase} (hnext : next = .compensating ∨ next = .leaving) :
    (σ.moveTo call next [.decided call]).Logged where
  wellFormed := h.wellFormed.decided ((h.invoked call).mpr (lt_length hcall))
    (by simp [h.decided, hcall])
  length := by simp [moveTo, h.length]
  invoked other := by simp [moveTo, h.invoked]
  decided other := by
    simp only [moveTo, getElem?_moveTo hcall, List.mem_append, h.decided, List.mem_singleton,
      CallEvent.decided.injEq]
    by_cases heq : other = call
    · subst heq
      rcases hnext with rfl | rfl <;> simp
    · simp [heq]
  returned other := by
    simp only [moveTo, getElem?_moveTo hcall, List.mem_append, h.returned, List.mem_singleton,
      reduceCtorEq, or_false]
    by_cases heq : other = call
    · subst heq
      rcases hnext with rfl | rfl <;> simp [hcall]
    · simp [heq]

/-- A call that has taken effect moves on without an entry in the log. -/
theorem compensate (h : σ.Logged) (hcall : σ.phases[call]? = some .compensating) :
    (σ.moveTo call .leaving []).Logged where
  wellFormed := by simpa [moveTo] using h.wellFormed
  length := by simp [moveTo, h.length]
  invoked other := by simp [moveTo, h.invoked]
  decided other := by
    simp only [moveTo, getElem?_moveTo hcall, List.append_nil, h.decided]
    by_cases heq : other = call
    · subst heq
      simp [hcall]
    · simp [heq]
  returned other := by
    simp only [moveTo, getElem?_moveTo hcall, List.append_nil, h.returned]
    by_cases heq : other = call
    · subst heq
      simp [hcall]
    · simp [heq]

theorem leave (h : σ.Logged) (hcall : σ.phases[call]? = some .leaving) :
    (σ.moveTo call .returned [.returned call]).Logged where
  wellFormed := h.wellFormed.returned ((h.decided call).mpr ⟨_, hcall, by decide⟩)
    (by simp [h.returned, hcall])
  length := by simp [moveTo, h.length]
  invoked other := by simp [moveTo, h.invoked]
  decided other := by
    simp only [moveTo, getElem?_moveTo hcall, List.mem_append, h.decided, List.mem_singleton,
      reduceCtorEq, or_false]
    by_cases heq : other = call
    · subst heq
      simp [hcall]
    · simp [heq]
  returned other := by
    simp only [moveTo, getElem?_moveTo hcall, List.mem_append, h.returned, List.mem_singleton,
      CallEvent.returned.injEq]
    by_cases heq : other = call
    · simp [heq]
    · simp [heq]

end GraphState.Logged

/-! ## The counter -/

theorem runCalls_append (subscribes : List Bool) (subscribe : Bool) :
    runCalls (subscribes ++ [subscribe]) =
      if subscribe then runCalls subscribes + 1 else runCalls subscribes - 1 := by
  simp [runCalls]

theorem wrapInt_of_lt {n : Int} (hlow : -2 ^ 31 ≤ n) (hhigh : n < 2 ^ 31) : wrapInt n = n :=
  Int.bmod_eq_of_le_mul_two (by omega) (by omega)

namespace GraphState

variable {σ : GraphState} {call : Nat} {next : GraphCallPhase}

@[simp] theorem subscribers_moveTo_decided :
    (σ.moveTo call next [.decided call]).subscribers =
      if σ.subscribe call then σ.subscribers + 1 else σ.subscribers - 1 := by
  have hdecided : ((CallEvent.decisions (σ.log ++ [.decided call])).map σ.subscribe) =
      (CallEvent.decisions σ.log).map σ.subscribe ++ [σ.subscribe call] := by
    simp [CallEvent.decisions]
  exact (congrArg runCalls hdecided).trans (runCalls_append _ _)

/-- Going on without taking effect changes no subscriber. -/
theorem subscribers_moveTo (σ : GraphState) (call : Nat) (next : GraphCallPhase)
    (events : List (CallEvent Nat)) (h : CallEvent.decisions events = []) :
    (σ.moveTo call next events).subscribers = σ.subscribers := by
  have hsame : CallEvent.decisions (σ.log ++ events) = CallEvent.decisions σ.log := by
    simp [h]
  exact congrArg (fun calls => runCalls (calls.map σ.subscribe)) hsame

/-- What is to be put back changes with the phase of the call only. -/
theorem pending_moveTo {phase : GraphCallPhase} (h : σ.phases[call]? = some phase)
    (next : GraphCallPhase) (events : List (CallEvent Nat)) :
    (σ.moveTo call next events).pending + (if phase = .compensating then 1 else 0) =
      σ.pending + (if next = .compensating then 1 else 0) := by
  simpa [moveTo, pending] using List.countP_set_add (p := (· = GraphCallPhase.compensating)) h next

/-- A call that begins has not taken effect. -/
theorem subscribers_begin (h : σ.Logged) (subscribe : Bool) :
    GraphState.subscribers { σ with
      subscribes := σ.subscribes ++ [subscribe]
      phases := σ.phases ++ [.entered]
      log := σ.log ++ [.invoked σ.phases.length] } = σ.subscribers := by
  have hmap : (CallEvent.decisions (σ.log ++ [.invoked σ.phases.length])).map
      (fun call => (σ.subscribes ++ [subscribe]).getD call true) =
      (CallEvent.decisions σ.log).map σ.subscribe := by
    simp only [CallEvent.decisions_append, CallEvent.decisions, List.append_nil]
    apply List.map_congr_left
    intro call hcall
    obtain ⟨phase, hphase, -⟩ := (h.decided call).mp (CallEvent.mem_decisions.mp hcall)
    have hlt : call < σ.subscribes.length := h.length ▸ Logged.lt_length hphase
    simp [GraphState.subscribe, List.getD, List.getElem?_append_left hlt]
  exact congrArg runCalls hmap

/-- The counter is what the calls leave, less what is still to be put back. -/
structure Counted (σ : GraphState) : Prop where
  logged : σ.Logged
  count : σ.graphSubscriptionCount = σ.subscribers - σ.pending
  low : -2 ^ 31 ≤ σ.graphSubscriptionCount
  high : (σ.subscribers : Int) < 2 ^ 31
  loads : ∀ l ∈ σ.loads, 0 ≤ l.value ∧ (0 < l.value ↔ 0 < l.subscribers)

theorem counted_initial : Counted .initial where
  logged :=
    { wellFormed := .nil
      length := rfl
      invoked := by simp [initial]
      decided := by simp [initial]
      returned := by simp [initial] }
  count := rfl
  low := by decide
  high := by decide
  loads := by simp [initial]

/-- The log does not depend on the counter. -/
theorem Logged.setCount (h : σ.Logged) (count : Int) :
    Logged { σ with graphSubscriptionCount := count } :=
  ⟨h.wellFormed, h.length, h.invoked, h.decided, h.returned⟩

theorem Counted.begin (h : σ.Counted) (subscribe : Bool) :
    Counted { σ with
      subscribes := σ.subscribes ++ [subscribe]
      phases := σ.phases ++ [.entered]
      log := σ.log ++ [.invoked σ.phases.length] } := by
  have hsub := subscribers_begin h.logged subscribe
  have hpending : (σ.phases ++ [GraphCallPhase.entered]).countP (· = .compensating) =
      σ.pending := by
    simp [pending]
  refine ⟨h.logged.begin subscribe, ?_, h.low, ?_, h.loads⟩
  · rw [hsub, pending, hpending]
    exact h.count
  · rw [hsub]
    exact h.high

theorem Counted.increment (h : σ.Counted) (hcall : σ.phases[call]? = some .entered)
    (hsubscribe : σ.subscribe call = true)
    (hok : σ.graphSubscriptionCount + σ.pending < 2 ^ 31 - 1) :
    Counted { σ.moveTo call .leaving [.decided call] with
      graphSubscriptionCount := wrapInt (σ.graphSubscriptionCount + 1) } := by
  have hcount := h.count
  have hlow := h.low
  have hwrap : wrapInt (σ.graphSubscriptionCount + 1) = σ.graphSubscriptionCount + 1 :=
    wrapInt_of_lt (by omega) (by omega)
  have hsub : (σ.moveTo call .leaving [.decided call]).subscribers = σ.subscribers + 1 := by
    rw [subscribers_moveTo_decided, if_pos hsubscribe]
  have hpending := pending_moveTo hcall .leaving [.decided call]
  simp only [reduceCtorEq, if_false, Nat.add_zero] at hpending
  rw [hwrap]
  refine ⟨(h.logged.decide hcall (.inr rfl)).setCount _, ?_, ?_, ?_, h.loads⟩
  · show σ.graphSubscriptionCount + 1 = (σ.moveTo call .leaving [.decided call]).subscribers -
      (σ.moveTo call .leaving [.decided call]).pending
    omega
  · show -2 ^ 31 ≤ σ.graphSubscriptionCount + 1
    omega
  · show ((σ.moveTo call .leaving [.decided call]).subscribers : Int) < 2 ^ 31
    omega

/-- An unsubscribe decides as it would alone: with a subscriber it takes one off, without
it will put its one back. -/
theorem Counted.fetchSub (h : σ.Counted) (hcall : σ.phases[call]? = some .entered)
    (hsubscribe : σ.subscribe call = false)
    (hok : 0 < σ.graphSubscriptionCount ∨ σ.graphSubscriptionCount + σ.pending ≤ 0)
    (hmin : -2 ^ 31 < σ.graphSubscriptionCount)
    (hnext : next = if σ.graphSubscriptionCount ≤ 0 then .compensating else .leaving) :
    Counted { σ.moveTo call next [.decided call] with
      graphSubscriptionCount := wrapInt (σ.graphSubscriptionCount - 1) } := by
  have hcount := h.count
  have hhigh := h.high
  have hwrap : wrapInt (σ.graphSubscriptionCount - 1) = σ.graphSubscriptionCount - 1 :=
    wrapInt_of_lt (by omega) (by omega)
  have hsub : (σ.moveTo call next [.decided call]).subscribers = σ.subscribers - 1 := by
    rw [subscribers_moveTo_decided, hsubscribe]
    rfl
  have hpending := pending_moveTo hcall next [.decided call]
  have hphase : next = .compensating ∨ next = .leaving := by
    rw [hnext]
    split
    · exact .inl rfl
    · exact .inr rfl
  rw [hwrap]
  refine ⟨(h.logged.decide hcall hphase).setCount _, ?_, ?_, ?_, h.loads⟩
  · show σ.graphSubscriptionCount - 1 = (σ.moveTo call next [.decided call]).subscribers -
      (σ.moveTo call next [.decided call]).pending
    by_cases hzero : σ.graphSubscriptionCount ≤ 0
    · -- nobody is subscribed
      rw [if_pos hzero] at hnext
      subst hnext
      simp only [reduceCtorEq, if_false, if_true, Nat.add_zero] at hpending
      omega
    · rw [if_neg hzero] at hnext
      subst hnext
      simp only [reduceCtorEq, if_false, Nat.add_zero] at hpending
      omega
  · show -2 ^ 31 ≤ σ.graphSubscriptionCount - 1
    omega
  · show ((σ.moveTo call next [.decided call]).subscribers : Int) < 2 ^ 31
    omega

theorem Counted.fetchAdd (h : σ.Counted) (hcall : σ.phases[call]? = some .compensating) :
    Counted { σ.moveTo call .leaving [] with
      graphSubscriptionCount := wrapInt (σ.graphSubscriptionCount + 1) } := by
  have hcount := h.count
  have hlow := h.low
  have hhigh := h.high
  have hsub := subscribers_moveTo σ call .leaving [] rfl
  have hpending := pending_moveTo hcall .leaving []
  simp only [reduceCtorEq, if_false, if_true, Nat.add_zero] at hpending
  have hwrap : wrapInt (σ.graphSubscriptionCount + 1) = σ.graphSubscriptionCount + 1 :=
    wrapInt_of_lt (by omega) (by omega)
  rw [hwrap]
  refine ⟨(h.logged.compensate hcall).setCount _, ?_, ?_, ?_, h.loads⟩
  · show σ.graphSubscriptionCount + 1 = (σ.moveTo call .leaving []).subscribers -
      (σ.moveTo call .leaving []).pending
    omega
  · show -2 ^ 31 ≤ σ.graphSubscriptionCount + 1
    omega
  · show ((σ.moveTo call .leaving []).subscribers : Int) < 2 ^ 31
    omega

theorem Counted.returns (h : σ.Counted) (hcall : σ.phases[call]? = some .leaving) :
    (σ.moveTo call .returned [.returned call]).Counted := by
  have hsub := subscribers_moveTo σ call .returned [.returned call] rfl
  have hpending := pending_moveTo hcall .returned [.returned call]
  simp only [reduceCtorEq, if_false, Nat.add_zero] at hpending
  refine ⟨h.logged.leave hcall, ?_, h.low, ?_, h.loads⟩
  · rw [hsub, hpending]
    exact h.count
  · rw [hsub]
    exact h.high

/-- What the poll thread loads has the sign of the number of subscribers. -/
theorem Counted.load (h : σ.Counted)
    (hok : 0 < σ.graphSubscriptionCount ∨ σ.pending = 0) :
    Counted { σ with loads := σ.loads ++ [⟨σ.graphSubscriptionCount, σ.subscribers⟩] } := by
  have hcount := h.count
  refine ⟨⟨h.logged.wellFormed, h.logged.length, h.logged.invoked, h.logged.decided,
    h.logged.returned⟩, h.count, h.low, h.high, ?_⟩
  intro l hl
  rcases List.mem_append.mp hl with hbefore | hlast
  · exact h.loads l hbefore
  · obtain rfl := List.mem_singleton.mp hlast
    dsimp only
    omega

/-- Every step that meets the condition keeps the counter right. -/
theorem Counted.step {σ' : GraphState} {a : GraphAction} (h : σ.Counted)
    (hok : ReadsSettled σ a) (hs : σ.step a = some σ') : σ'.Counted := by
  cases a with
  | onConnectionGraphSubscribe subscribe =>
      obtain rfl := Option.some.inj hs
      exact h.begin subscribe
  | increment call =>
      simp only [GraphState.step, Option.ite_none_right_eq_some, Option.some.injEq] at hs
      obtain ⟨⟨hcall, hsubscribe⟩, rfl⟩ := hs
      exact h.increment hcall hsubscribe hok
  | fetchSub call =>
      simp only [GraphState.step, Option.ite_none_right_eq_some, Option.some.injEq] at hs
      obtain ⟨⟨hcall, hsubscribe⟩, rfl⟩ := hs
      exact h.fetchSub hcall hsubscribe hok.1 hok.2 rfl
  | fetchAdd call =>
      simp only [GraphState.step, Option.ite_none_right_eq_some, Option.some.injEq] at hs
      obtain ⟨hcall, rfl⟩ := hs
      exact h.fetchAdd hcall
  | returns call =>
      simp only [GraphState.step, Option.ite_none_right_eq_some, Option.some.injEq] at hs
      obtain ⟨hcall, rfl⟩ := hs
      exact h.returns hcall
  | load =>
      obtain rfl := Option.some.inj hs
      exact h.load hok

theorem counted_of_run (h : graphSystem.Run ReadsSettled σ) : σ.Counted :=
  h.invariant
    { init := by
        rintro τ rfl
        exact counted_initial
      step := fun _ _ _ hI hok hs => hI.step hok hs }

end GraphState

/-! ## Linearizability -/

open scoped List

/-- An order of all calls that respects real time, and in which the calls, made one after
another, leave the counter as it is. -/
structure GraphState.Linearization (σ : GraphState) (order : List Nat) : Prop where
  perm : order.Perm (List.range σ.phases.length)
  respects : ∀ call other, [.returned call, .invoked other] <+ σ.log → [call, other] <+ order
  result : σ.graphSubscriptionCount = runCalls (order.map σ.subscribe)

/-- No call is in progress. -/
def GraphState.Quiescent (σ : GraphState) : Prop := ∀ phase ∈ σ.phases, phase = .returned

/-- The counter counts the subscribers: no load of the poll thread found it negative, or missed
or made up a subscriber, and the calls are linearizable once all have returned. What a `fetch_add`
finds is not observed: it puts back the one that its own call took off. -/
def GraphState.CountsCalls (σ : GraphState) : Prop :=
  (∀ l ∈ σ.loads, 0 ≤ l.value ∧ (0 < l.value ↔ 0 < l.subscribers)) ∧
    (σ.Quiescent → ∃ order, σ.Linearization order)

/-- **A linearizable counter.** In every run that loads the counter, and takes one off it,
only while no unsubscribe hides a subscriber, every load has the sign of the number of
subscribers, and once all calls have returned the counter is what they leave when they
are made one after another, in an order that respects real time. -/
theorem graph_count_linearizable {σ : GraphState} (h : graphSystem.Run ReadsSettled σ) :
    σ.CountsCalls := by
  have hcounted := GraphState.counted_of_run h
  have hlogged := hcounted.logged
  refine ⟨hcounted.loads, fun hquiet => ⟨CallEvent.decisions σ.log, ?_, ?_, ?_⟩⟩
  · -- every call has returned, so every call is decided
    apply (List.perm_ext_iff_of_nodup hlogged.wellFormed.nodup_decisions List.nodup_range).mpr
    intro call
    rw [CallEvent.mem_decisions, hlogged.decided, List.mem_range]
    constructor
    · rintro ⟨phase, hphase, -⟩
      exact GraphState.Logged.lt_length hphase
    · intro hlt
      refine ⟨_, List.getElem?_eq_getElem hlt, ?_⟩
      rw [hquiet _ (List.getElem_mem hlt)]
      decide
  · intro call other hreal
    have hother : other < σ.phases.length :=
      (hlogged.invoked other).mp (hreal.subset (by simp))
    refine hlogged.wellFormed.decisions_respect hreal ((hlogged.decided other).mpr ?_)
    refine ⟨_, List.getElem?_eq_getElem hother, ?_⟩
    rw [hquiet _ (List.getElem_mem hother)]
    decide
  · have hnone : σ.pending = 0 := by
      rw [GraphState.pending, List.countP_eq_zero]
      intro phase hphase
      rw [hquiet phase hphase]
      decide
    have hcount := hcounted.count
    rw [hnone] at hcount
    simpa [GraphState.subscribers] using hcount

/-- Two subscribers come and one of them leaves, all at once. -/
def graphSchedule : List GraphAction :=
  [.onConnectionGraphSubscribe true, .onConnectionGraphSubscribe true, .increment 1,
    .onConnectionGraphSubscribe false, .fetchSub 2, .increment 0, .returns 2, .load, .returns 0,
    .returns 1]

theorem graphSchedule_settled : graphSystem.Guarded ReadsSettled .initial graphSchedule := by
  decide

theorem graph_count_linearizable_three :
    ∃ σ : GraphState, σ.graphSubscriptionCount = 1 ∧ σ.CountsCalls :=
  ⟨_, rfl, graph_count_linearizable (TSys.Run.exec (.init rfl) graphSchedule_settled rfl)⟩

/-- A stray unsubscribe (call 0) has taken its one off and not put it back yet when a client
subscribes (call 1) and, after that, unsubscribes (call 2). -/
def straySchedule : List GraphAction :=
  [.onConnectionGraphSubscribe false, .fetchSub 0, .load, .onConnectionGraphSubscribe true,
    .increment 1, .returns 1, .load, .onConnectionGraphSubscribe false, .fetchSub 2, .fetchAdd 0,
    .fetchAdd 2, .returns 0, .returns 2]

/-- **A stray unsubscribe.** The poll thread loads a negative count and then misses a
subscriber; and when all calls have returned and nobody is subscribed the counter is 1,
which no order of the calls explains. -/
theorem not_graph_count_linearizable :
    ∃ σ : GraphState, graphSystem.Reachable σ ∧ σ.loads = [⟨-1, 0⟩, ⟨0, 1⟩] ∧ σ.Quiescent ∧
      σ.graphSubscriptionCount = 1 ∧ (∀ order, ¬ σ.Linearization order) ∧ ¬ σ.CountsCalls := by
  obtain ⟨σ, hexec, hloads, hphases, hcount, hsubscribes, hreal⟩ :
      ∃ σ, graphSystem.exec .initial straySchedule = some σ ∧ σ.loads = [⟨-1, 0⟩, ⟨0, 1⟩] ∧
        σ.phases = [.returned, .returned, .returned] ∧ σ.graphSubscriptionCount = 1 ∧
        σ.subscribes = [false, true, false] ∧ [.returned 1, .invoked 2] <+ σ.log :=
    ⟨_, rfl, rfl, rfl, rfl, rfl, by decide⟩
  have hquiet : σ.Quiescent := by
    rw [GraphState.Quiescent, hphases]
    decide
  have hnone : ∀ order, ¬ σ.Linearization order := by
    rintro order ⟨hperm, hrespects, hresult⟩
    have hall : ∀ order ∈ [0, 1, 2].permutations', [1, 2] <+ order →
        runCalls (order.map fun call => [false, true, false].getD call true) = 0 := by
      decide
    have hmem : order ∈ [0, 1, 2].permutations' := by
      rw [hphases] at hperm
      exact List.mem_permutations'.mpr hperm
    have hkind : σ.subscribe = fun call => [false, true, false].getD call true := by
      funext call
      rw [GraphState.subscribe, hsubscribes]
    rw [hcount, hkind, hall order hmem (hrespects 1 2 hreal)] at hresult
    exact absurd hresult (by decide)
  refine ⟨σ, TSys.Reachable.exec (.init rfl) hexec, hloads, hquiet, hcount, hnone, ?_⟩
  rintro ⟨-, hlinear⟩
  obtain ⟨order, horder⟩ := hlinear hquiet
  exact hnone order horder

end FoxgloveBridge
