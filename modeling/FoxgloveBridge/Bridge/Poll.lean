import FoxgloveBridge.Bridge.GraphCounter
import FoxgloveBridge.Lib.Lists
import FoxgloveBridge.Lib.TSys
import Mathlib.Algebra.Group.Int.Defs
import Mathlib.Algebra.Group.Nat.Defs

/-!
# The poll thread

`pollThread` with the threads that wake it: clients that advertise or subscribe to the
connection graph call `pokePoll`, and the destructor asks for shutdown. The loop runs a
discovery cycle without a lock and then waits for its backoff to elapse, on a condition
variable, under `_pollMutex`; the wait is left when the predicate holds.

A step is one atomic access of the counter or of `_shuttingDown`, one locked section of
`pokePoll` or of the destructor, one notification, or one stage of the loop. The poll
thread owns `_pollMutex` while it checks the predicate and while it consumes a poke, so
the locked sections of the others wait for that; blocking releases the mutex in the same
step.

The poll thread does not sleep through a poke or through the shutdown request
(`poke_served`), and a cycle that starts with a graph subscriber sees it. It also
publishes the graph, unless an exception ends the cycle first.
-/

namespace FoxgloveBridge

/-- `MIN_UPDATE_PERIOD_MS`. -/
def minUpdatePeriodMs : Nat := 100

/-- The backoff after so many updates: doubling, the shift capped at 32, between the two
bounds. -/
def updatePeriodMs (updateCount maxUpdatePeriodMs : Nat) : Nat :=
  max minUpdatePeriodMs (min (2 ^ min updateCount 32) maxUpdatePeriodMs)

/-- `++updateCount`, of a `size_t`. -/
def nextUpdateCount (updateCount : Nat) : Nat := (updateCount + 1) % 2 ^ 64

/-- Who calls `pokePoll`: a client advertisement, or `onConnectionGraphSubscribe`, whose
unsubscribe does not. -/
inductive CallKind
  | advertise
  | subscribe
  | unsubscribe
  deriving DecidableEq, Repr

inductive PollCallPhase
  /-- The counter is next. -/
  | counting
  /-- The locked section of `pokePoll` is next. -/
  | poking
  /-- The flag is raised, at a time when this many cycles had started; `notify_all` is
  next. -/
  | notifying (raisedAt : Nat)
  /-- `fetch_sub` found no subscriber; `fetch_add` is next. -/
  | compensating
  | returned (raisedAt : Option Nat)
  deriving DecidableEq, Repr

structure PollCall where
  kind : CallKind
  phase : PollCallPhase
  deriving DecidableEq, Repr

/-- Where `pollThread` is. -/
inductive PollPc
  | top
  | deciding
  | gettingTopics
  | gettingSystemState
  | updatingTopics
  | updatingServices
  | publishing
  | sweeping
  | locking
  /-- In `wait_for`, holding the mutex; the time may be up. -/
  | checking (timedOut : Bool)
  /-- Blocked, not holding the mutex. -/
  | waiting
  /-- Woken up, about to take the mutex again. -/
  | woken (timedOut : Bool)
  | consuming
  | exited
  deriving DecidableEq, Repr

/-- How a call to the master, or an update, goes. An exception ends the cycle. -/
inductive Reply
  | succeeds
  | fails
  | throws
  deriving DecidableEq, Repr

/-- One discovery cycle: the locals of the loop body, and what it did. -/
structure PollCycle where
  /-- A completed graph subscribe preceded it, and no graph unsubscribe was issued since. -/
  armed : Bool
  querySystemState : Bool
  topicsRetrieved : Bool
  systemStateRetrieved : Bool
  /-- `getSystemState` was called. -/
  queried : Bool
  published : Bool
  threw : Bool
  deriving DecidableEq, Repr

inductive DestructorPhase
  | notStarted
  | notifying
  /-- The poll thread has been notified; the destructor joins it. -/
  | notified
  deriving DecidableEq, Repr

structure PollState where
  /-- `_graphSubscriptionCount`, whose `int` does not wrap around in a run of fewer than 2^31
  calls (`wrapInt_graphSubscriptionCount`). -/
  graphSubscriptionCount : Int
  /-- `_shuttingDown`. -/
  shuttingDown : Bool
  /-- `_pollPoke`. -/
  pollPoke : Bool
  pc : PollPc
  updateCount : Nat
  /-- The timeout of the next wait. -/
  periodMs : Nat
  cycle : PollCycle
  destructor : DestructorPhase
  calls : List PollCall
  /-- The number of cycles started. -/
  cycles : Nat
  finished : List PollCycle
  /-- A graph subscribe has completed, and no graph unsubscribe was issued since. -/
  confirmed : Bool
  /-- Some graph unsubscribe was issued without a completed subscribe of its own. -/
  unmatched : Bool

/-- What the poll thread does inside the `try` block. -/
inductive CycleAction
  | decide
  | getPublishedTopics (reply : Reply)
  | getSystemState (reply : Reply)
  | updateAdvertisedTopics (throws : Bool)
  | updateAdvertisedServices (throws : Bool)
  | publishConnectionGraph
  deriving DecidableEq, Repr

/-- One step of the poll thread, of a caller, or of the destructor. -/
inductive PollAction
  | startCycle (rosOk : Bool)
  | cycle (a : CycleAction)
  | sweepExpiredServiceCalls
  | lockPollMutex
  | checkPredicate
  /-- The time is up, or the wait ends for no reason. -/
  | wake (timedOut : Bool)
  | relock
  | consumePoke
  | call (kind : CallKind)
  | count (call : Nat)
  | compensate (call : Nat)
  | raise (call : Nat)
  | notify (call : Nat)
  | requestShutdown
  | notifyShutdown
  deriving DecidableEq, Repr

def PollCycle.new (armed : Bool) : PollCycle where
  armed := armed
  querySystemState := false
  topicsRetrieved := false
  systemStateRetrieved := false
  queried := false
  published := false
  threw := false

/-- An exception is logged, and the loop goes on behind the `try` block. -/
def PollCycle.catchException (c : PollCycle) : PollPc × PollCycle :=
  (.sweeping, { c with threw := true })

/-- The `try` block, one stage at a time. The counter is read twice. -/
def PollCycle.step (servicesEnabled : Bool) (graphSubscriptionCount : Int) (c : PollCycle) :
    PollPc → CycleAction → Option (PollPc × PollCycle)
  | .deciding, .decide =>
      some (.gettingTopics,
        { c with querySystemState := servicesEnabled || decide (0 < graphSubscriptionCount) })
  | .gettingTopics, .getPublishedTopics reply =>
      match reply with
      | .throws => some c.catchException
      | .succeeds => some (.gettingSystemState, { c with topicsRetrieved := true })
      | .fails => some (.gettingSystemState, c)
  | .gettingSystemState, .getSystemState reply =>
      if c.querySystemState then
        let c := { c with queried := true }
        match reply with
        | .throws => some c.catchException
        | .succeeds => some (.updatingTopics, { c with systemStateRetrieved := true })
        | .fails => some (.updatingTopics, c)
      else some (.updatingTopics, c)
  | .updatingTopics, .updateAdvertisedTopics throws =>
      if throws && c.topicsRetrieved then some c.catchException
      else some (.updatingServices, c)
  | .updatingServices, .updateAdvertisedServices throws =>
      if throws && servicesEnabled && c.systemStateRetrieved then some c.catchException
      else some (.publishing, c)
  | .publishing, .publishConnectionGraph =>
      some (.sweeping,
        { c with published := decide (0 < graphSubscriptionCount) && c.systemStateRetrieved })
  | _, _ => none

namespace PollCall

/-- A graph unsubscribe. -/
def isUnsubscribe (c : PollCall) : Bool := c.kind == .unsubscribe

/-- A graph unsubscribe that has taken one off the counter. -/
def hasUnsubscribed (c : PollCall) : Bool := c.kind == .unsubscribe && c.phase != .counting

/-- A graph subscribe that has added one to the counter. -/
def hasSubscribed (c : PollCall) : Bool := c.kind == .subscribe && c.phase != .counting

/-- A graph unsubscribe that has still to put its one back. -/
def isCompensating (c : PollCall) : Bool := c.phase == .compensating

/-- A graph subscribe that has returned. -/
def isSubscribed (c : PollCall) : Bool :=
  c.kind == .subscribe && match c.phase with
    | .returned _ => true
    | _ => false

/-- The number of cycles started when the call raised the flag. -/
def raisedAt (c : PollCall) : Option Nat :=
  match c.phase with
  | .notifying raisedAt => some raisedAt
  | .returned raisedAt => raisedAt
  | _ => none

end PollCall

namespace PollState

def initial : PollState where
  graphSubscriptionCount := 0
  shuttingDown := false
  pollPoke := false
  pc := .top
  updateCount := 0
  periodMs := minUpdatePeriodMs
  cycle := .new false
  destructor := .notStarted
  calls := []
  cycles := 0
  finished := []
  confirmed := false
  unmatched := false

variable (servicesEnabled : Bool) (maxUpdatePeriodMs : Nat) (σ : PollState)

/-- The poll thread holds `_pollMutex`. -/
def pollHoldsMutex : Bool :=
  match σ.pc with
  | .checking _ | .consuming => true
  | _ => false

/-- The predicate of the wait. -/
def predicate : Bool := σ.shuttingDown || σ.pollPoke

/-- `notify_all`: the poll thread, if it is blocked, wakes up. -/
def notified : PollState :=
  if σ.pc = .waiting then { σ with pc := .woken false } else σ

def setCall (call : Nat) (c : PollCall) : PollState := { σ with calls := σ.calls.set call c }

/-- A call begins. -/
def beginCall (kind : CallKind) : PollState :=
  match kind with
  | .advertise => { σ with calls := σ.calls ++ [⟨kind, .poking⟩] }
  | .subscribe => { σ with calls := σ.calls ++ [⟨kind, .counting⟩] }
  | .unsubscribe =>
      { σ with
        calls := σ.calls ++ [⟨kind, .counting⟩]
        cycle := { σ.cycle with armed := false }
        confirmed := false
        unmatched := σ.unmatched ||
          decide (σ.calls.countP PollCall.isSubscribed ≤ σ.calls.countP PollCall.isUnsubscribe) }

/-- The counter's part of `onConnectionGraphSubscribe`. -/
def countCall (call : Nat) (kind : CallKind) : PollState :=
  match kind with
  | .advertise => σ
  | .subscribe =>
      { σ.setCall call ⟨.subscribe, .poking⟩ with
        graphSubscriptionCount := σ.graphSubscriptionCount + 1 }
  | .unsubscribe =>
      { σ.setCall call ⟨.unsubscribe,
          if σ.graphSubscriptionCount ≤ 0 then .compensating else .returned none⟩ with
        graphSubscriptionCount := σ.graphSubscriptionCount - 1 }

def step : PollAction → Option PollState
  | .startCycle rosOk =>
      if σ.pc = .top then
        if !σ.shuttingDown && rosOk then
          some { σ with pc := .deciding, cycles := σ.cycles + 1, cycle := .new σ.confirmed }
        else some { σ with pc := .exited }
      else none
  | .cycle a =>
      (σ.cycle.step servicesEnabled σ.graphSubscriptionCount σ.pc a).map fun next =>
        { σ with pc := next.1, cycle := next.2 }
  | .sweepExpiredServiceCalls =>
      if σ.pc = .sweeping then
        some { σ with
          pc := .locking
          updateCount := nextUpdateCount σ.updateCount
          periodMs := updatePeriodMs (nextUpdateCount σ.updateCount) maxUpdatePeriodMs
          finished := σ.finished ++ [σ.cycle] }
      else none
  | .lockPollMutex => if σ.pc = .locking then some { σ with pc := .checking false } else none
  | .checkPredicate =>
      match σ.pc with
      | .checking timedOut =>
          if σ.predicate || timedOut then some { σ with pc := .consuming }
          else some { σ with pc := .waiting }
      | _ => none
  | .wake timedOut => if σ.pc = .waiting then some { σ with pc := .woken timedOut } else none
  | .relock =>
      match σ.pc with
      | .woken timedOut => some { σ with pc := .checking timedOut }
      | _ => none
  | .consumePoke =>
      if σ.pc = .consuming then
        some { σ with
          pc := .top
          pollPoke := false
          updateCount := if σ.pollPoke then 0 else σ.updateCount }
      else none
  | .call kind => some (σ.beginCall kind)
  | .count call =>
      match σ.calls[call]? with
      | some ⟨kind, .counting⟩ => some (σ.countCall call kind)
      | _ => none
  | .compensate call =>
      match σ.calls[call]? with
      | some ⟨kind, .compensating⟩ =>
          some { σ.setCall call ⟨kind, .returned none⟩ with
            graphSubscriptionCount := σ.graphSubscriptionCount + 1 }
      | _ => none
  | .raise call =>
      match σ.calls[call]? with
      | some ⟨kind, .poking⟩ =>
          if σ.pollHoldsMutex then none
          else some { σ.setCall call ⟨kind, .notifying σ.cycles⟩ with pollPoke := true }
      | _ => none
  | .notify call =>
      match σ.calls[call]? with
      | some ⟨kind, .notifying raisedAt⟩ =>
          some { (σ.setCall call ⟨kind, .returned (some raisedAt)⟩).notified with
            confirmed := σ.confirmed || kind == .subscribe }
      | _ => none
  | .requestShutdown =>
      if σ.destructor = .notStarted ∧ σ.pollHoldsMutex = false then
        some { σ with destructor := .notifying, shuttingDown := true }
      else none
  | .notifyShutdown =>
      if σ.destructor = .notifying then some { σ.notified with destructor := .notified } else none

end PollState

def pollSystem (servicesEnabled : Bool) (maxUpdatePeriodMs : Nat) : TSys PollState PollAction where
  init σ := σ = .initial
  step := PollState.step servicesEnabled maxUpdatePeriodMs

/-! ## The steps as rules -/

/-- One rule for each way a step can go. -/
inductive PollState.Step (servicesEnabled : Bool) (maxUpdatePeriodMs : Nat) (σ : PollState) :
    PollAction → PollState → Prop
  | startCycle : σ.pc = .top → σ.shuttingDown = false →
      Step servicesEnabled maxUpdatePeriodMs σ (.startCycle true)
        { σ with pc := .deciding, cycles := σ.cycles + 1, cycle := .new σ.confirmed }
  | exit {rosOk : Bool} : σ.pc = .top →
      Step servicesEnabled maxUpdatePeriodMs σ (.startCycle rosOk) { σ with pc := .exited }
  | cycle {a : CycleAction} {pc : PollPc} {cycle : PollCycle} :
      σ.cycle.step servicesEnabled σ.graphSubscriptionCount σ.pc a = some (pc, cycle) →
      Step servicesEnabled maxUpdatePeriodMs σ (.cycle a) { σ with pc := pc, cycle := cycle }
  | sweep : σ.pc = .sweeping →
      Step servicesEnabled maxUpdatePeriodMs σ .sweepExpiredServiceCalls
        { σ with
          pc := .locking
          updateCount := nextUpdateCount σ.updateCount
          periodMs := updatePeriodMs (nextUpdateCount σ.updateCount) maxUpdatePeriodMs
          finished := σ.finished ++ [σ.cycle] }
  | lock : σ.pc = .locking →
      Step servicesEnabled maxUpdatePeriodMs σ .lockPollMutex { σ with pc := .checking false }
  | leave {timedOut : Bool} : σ.pc = .checking timedOut →
      Step servicesEnabled maxUpdatePeriodMs σ .checkPredicate { σ with pc := .consuming }
  | block : σ.pc = .checking false → σ.shuttingDown = false → σ.pollPoke = false →
      Step servicesEnabled maxUpdatePeriodMs σ .checkPredicate { σ with pc := .waiting }
  | wake {timedOut : Bool} : σ.pc = .waiting →
      Step servicesEnabled maxUpdatePeriodMs σ (.wake timedOut) { σ with pc := .woken timedOut }
  | relock {timedOut : Bool} : σ.pc = .woken timedOut →
      Step servicesEnabled maxUpdatePeriodMs σ .relock { σ with pc := .checking timedOut }
  | consume : σ.pc = .consuming →
      Step servicesEnabled maxUpdatePeriodMs σ .consumePoke
        { σ with
          pc := .top
          pollPoke := false
          updateCount := if σ.pollPoke then 0 else σ.updateCount }
  | call {kind : CallKind} :
      Step servicesEnabled maxUpdatePeriodMs σ (.call kind) (σ.beginCall kind)
  | count {call : Nat} {kind : CallKind} : σ.calls[call]? = some ⟨kind, .counting⟩ →
      Step servicesEnabled maxUpdatePeriodMs σ (.count call) (σ.countCall call kind)
  | compensate {call : Nat} {kind : CallKind} : σ.calls[call]? = some ⟨kind, .compensating⟩ →
      Step servicesEnabled maxUpdatePeriodMs σ (.compensate call)
        { σ.setCall call ⟨kind, .returned none⟩ with
          graphSubscriptionCount := σ.graphSubscriptionCount + 1 }
  | raise {call : Nat} {kind : CallKind} : σ.calls[call]? = some ⟨kind, .poking⟩ →
      Step servicesEnabled maxUpdatePeriodMs σ (.raise call)
        { σ.setCall call ⟨kind, .notifying σ.cycles⟩ with pollPoke := true }
  | notify {call : Nat} {kind : CallKind} {raisedAt : Nat} :
      σ.calls[call]? = some ⟨kind, .notifying raisedAt⟩ →
      Step servicesEnabled maxUpdatePeriodMs σ (.notify call)
        { (σ.setCall call ⟨kind, .returned (some raisedAt)⟩).notified with
          confirmed := σ.confirmed || kind == .subscribe }
  | requestShutdown : σ.destructor = .notStarted →
      Step servicesEnabled maxUpdatePeriodMs σ .requestShutdown
        { σ with destructor := .notifying, shuttingDown := true }
  | notifyShutdown : σ.destructor = .notifying →
      Step servicesEnabled maxUpdatePeriodMs σ .notifyShutdown
        { σ.notified with destructor := .notified }

variable {servicesEnabled : Bool} {maxUpdatePeriodMs : Nat}

theorem PollState.step_rule {σ σ' : PollState} {a : PollAction}
    (hs : σ.step servicesEnabled maxUpdatePeriodMs a = some σ') :
    σ.Step servicesEnabled maxUpdatePeriodMs a σ' := by
  cases a with
  | startCycle rosOk =>
      simp only [step, Option.ite_none_right_eq_some] at hs
      obtain ⟨htop, hs⟩ := hs
      split at hs
      · rename_i hgo
        obtain ⟨hup, rfl⟩ : σ.shuttingDown = false ∧ rosOk = true := by simpa using hgo
        obtain rfl := Option.some.inj hs
        exact .startCycle htop hup
      · obtain rfl := Option.some.inj hs
        exact .exit htop
  | cycle a =>
      obtain ⟨next, hnext, rfl⟩ := Option.map_eq_some_iff.mp hs
      exact .cycle hnext
  | sweepExpiredServiceCalls =>
      simp only [step, Option.ite_none_right_eq_some, Option.some.injEq] at hs
      obtain ⟨hpc, rfl⟩ := hs
      exact .sweep hpc
  | lockPollMutex =>
      simp only [step, Option.ite_none_right_eq_some, Option.some.injEq] at hs
      obtain ⟨hpc, rfl⟩ := hs
      exact .lock hpc
  | checkPredicate =>
      simp only [step] at hs
      split at hs
      · rename_i timedOut hpc
        split at hs
        · obtain rfl := Option.some.inj hs
          exact .leave hpc
        · rename_i hblock
          obtain rfl := Option.some.inj hs
          obtain ⟨⟨hup, hpoke⟩, rfl⟩ :
              (σ.shuttingDown = false ∧ σ.pollPoke = false) ∧ timedOut = false := by
            simpa [predicate] using hblock
          exact .block hpc hup hpoke
      · cases hs
  | wake timedOut =>
      simp only [step, Option.ite_none_right_eq_some, Option.some.injEq] at hs
      obtain ⟨hpc, rfl⟩ := hs
      exact .wake hpc
  | relock =>
      simp only [step] at hs
      split at hs
      · obtain rfl := Option.some.inj hs
        exact .relock ‹_›
      · cases hs
  | consumePoke =>
      simp only [step, Option.ite_none_right_eq_some, Option.some.injEq] at hs
      obtain ⟨hpc, rfl⟩ := hs
      exact .consume hpc
  | call kind =>
      obtain rfl := Option.some.inj hs
      exact .call
  | count call =>
      simp only [step] at hs
      split at hs
      · obtain rfl := Option.some.inj hs
        exact .count ‹_›
      · cases hs
  | compensate call =>
      simp only [step] at hs
      split at hs
      · obtain rfl := Option.some.inj hs
        exact .compensate ‹_›
      · cases hs
  | raise call =>
      simp only [step] at hs
      split at hs
      · simp only [Option.ite_none_left_eq_some, Option.some.injEq] at hs
        obtain ⟨-, rfl⟩ := hs
        exact .raise ‹_›
      · cases hs
  | notify call =>
      simp only [step] at hs
      split at hs
      · obtain rfl := Option.some.inj hs
        exact .notify ‹_›
      · cases hs
  | requestShutdown =>
      simp only [step, Option.ite_none_right_eq_some, Option.some.injEq] at hs
      obtain ⟨⟨hfirst, -⟩, rfl⟩ := hs
      exact .requestShutdown hfirst
  | notifyShutdown =>
      simp only [step, Option.ite_none_right_eq_some, Option.some.injEq] at hs
      obtain ⟨hphase, rfl⟩ := hs
      exact .notifyShutdown hphase

/-! ## Pokes -/

/-- The poll thread is between two waits: the next thing it does about pokes is to start a
cycle or to exit. -/
def PollPc.atTop : PollPc → Bool
  | .top | .exited => true
  | _ => false

/-- The stages an exception can leave. -/
def PollPc.throws : PollPc → Bool
  | .gettingTopics | .gettingSystemState | .updatingTopics | .updatingServices => true
  | _ => false

/-- One rule for each way a stage of the `try` block can go. -/
inductive PollCycle.Rule (servicesEnabled : Bool) (count : Int) (c : PollCycle) :
    PollPc → PollPc → PollCycle → Prop
  | decide : Rule servicesEnabled count c .deciding .gettingTopics
      { c with querySystemState := servicesEnabled || decide (0 < count) }
  | topics (topicsRetrieved : Bool) : Rule servicesEnabled count c .gettingTopics
      .gettingSystemState { c with topicsRetrieved := topicsRetrieved }
  | systemState (systemStateRetrieved : Bool) : c.querySystemState = true →
      Rule servicesEnabled count c .gettingSystemState .updatingTopics
        { c with queried := true, systemStateRetrieved := systemStateRetrieved }
  | noSystemState : c.querySystemState = false →
      Rule servicesEnabled count c .gettingSystemState .updatingTopics c
  | updateTopics : Rule servicesEnabled count c .updatingTopics .updatingServices c
  | updateServices : Rule servicesEnabled count c .updatingServices .publishing c
  | publish : Rule servicesEnabled count c .publishing .sweeping
      { c with published := decide (0 < count) && c.systemStateRetrieved }
  | throw {pc : PollPc} (queried : Bool) : pc.throws = true →
      Rule servicesEnabled count c pc .sweeping { c with queried := queried, threw := true }

theorem PollCycle.step_rule {count : Int} {c c' : PollCycle} {pc pc' : PollPc} {a : CycleAction}
    (h : c.step servicesEnabled count pc a = some (pc', c')) :
    c.Rule servicesEnabled count pc pc' c' := by
  unfold PollCycle.step catchException at h
  split at h
  · cases h
    exact .decide
  · split at h <;> cases h
    · exact .throw c.queried rfl
    · exact .topics true
    · exact .topics c.topicsRetrieved
  · split at h
    · rename_i hquery
      split at h <;> cases h
      · exact .throw true rfl
      · exact .systemState true hquery
      · exact .systemState c.systemStateRetrieved hquery
    · rename_i hquery
      cases h
      exact .noSystemState (Bool.eq_false_iff.mpr hquery)
  · split at h <;> cases h
    · exact .throw c.queried rfl
    · exact .updateTopics
  · split at h <;> cases h
    · exact .throw c.queried rfl
    · exact .updateServices
  · cases h
    exact .publish
  · cases h

/-- The `try` block is neither the top of the loop nor the wait. -/
theorem PollCycle.Rule.pc {count : Int} {c c' : PollCycle} {pc pc' : PollPc}
    (h : c.Rule servicesEnabled count pc pc' c') : pc.atTop = false ∧ pc' ≠ .waiting := by
  cases h with
  | throw _ hpc =>
      refine ⟨?_, nofun⟩
      cases pc <;> first | rfl | cases hpc
  | _ => exact ⟨rfl, nofun⟩

/-- No poke is slept through. -/
structure PollState.Served (σ : PollState) : Prop where
  raised_le : ∀ c ∈ σ.calls, ∀ n, c.raisedAt = some n → n ≤ σ.cycles
  /-- While no cycle has started since a call raised the flag, the flag is up, or the poll
  thread has just consumed it. -/
  unserved : ∀ c ∈ σ.calls, ∀ n, c.raisedAt = some n → n < σ.cycles ∨ σ.pollPoke = true ∨
    σ.pc.atTop = true
  /-- A call that found the poll thread blocked has still to notify it. -/
  waiting : σ.pc = .waiting → ∀ c ∈ σ.calls, ∀ n, c.phase = .returned (some n) → n < σ.cycles
  shutdown : σ.pc = .waiting → σ.destructor ≠ .notified
  flag : σ.destructor = .notStarted ∨ σ.shuttingDown = true

namespace PollState.Served

variable {σ : PollState}

/-- The poll thread goes on, neither blocking nor starting a cycle. -/
theorem goOn (h : σ.Served) (pc : PollPc) (htop : σ.pc.atTop = false) (hpc : pc ≠ .waiting)
    {cycle : PollCycle} {updateCount periodMs : Nat} {finished : List PollCycle} :
    Served { σ with
      pc := pc, cycle := cycle, updateCount := updateCount, periodMs := periodMs,
      finished := finished } where
  raised_le := h.raised_le
  unserved c hc n hn := by
    have hbefore := h.unserved c hc n hn
    rw [htop] at hbefore
    exact hbefore.imp_right fun hup => .inl (hup.resolve_right (by simp))
  waiting hwait := absurd hwait hpc
  shutdown hwait := absurd hwait hpc
  flag := h.flag

/-- A step that changes one call, to a phase in which it has not raised the flag, or has
raised it as before. -/
theorem setCall (h : σ.Served) (call : Nat) {c : PollCall}
    (hraised : ∀ n, c.raisedAt = some n → n ≤ σ.cycles ∧
      (n < σ.cycles ∨ σ.pollPoke = true ∨ σ.pc.atTop = true))
    (hreturned : σ.pc = .waiting → ∀ n, c.phase = .returned (some n) → n < σ.cycles)
    (count : Int) : Served { σ.setCall call c with graphSubscriptionCount := count } where
  raised_le d hd n hn := by
    rcases List.mem_or_eq_of_mem_set hd with hold | rfl
    · exact h.raised_le d hold n hn
    · exact (hraised n hn).1
  unserved d hd n hn := by
    rcases List.mem_or_eq_of_mem_set hd with hold | rfl
    · exact h.unserved d hold n hn
    · exact (hraised n hn).2
  waiting hwait d hd n hn := by
    rcases List.mem_or_eq_of_mem_set hd with hold | rfl
    · exact h.waiting hwait d hold n hn
    · exact hreturned hwait n hn
  shutdown := h.shutdown
  flag := h.flag

/-- A notification only wakes the poll thread up. -/
theorem notified_cases (σ : PollState) :
    (σ.pc ≠ .waiting ∧ σ.notified = σ) ∨
      (σ.pc = .waiting ∧ σ.notified = { σ with pc := .woken false }) := by
  by_cases hwait : σ.pc = .waiting
  · exact .inr ⟨hwait, by rw [PollState.notified, if_pos hwait]⟩
  · exact .inl ⟨hwait, by rw [PollState.notified, if_neg hwait]⟩

theorem notified_unmatched (σ : PollState) : σ.notified.unmatched = σ.unmatched := by
  rcases notified_cases σ with ⟨-, heq⟩ | ⟨-, heq⟩ <;> rw [heq]

theorem notified_pollPoke (σ : PollState) : σ.notified.pollPoke = σ.pollPoke := by
  rcases notified_cases σ with ⟨-, heq⟩ | ⟨-, heq⟩ <;> rw [heq]

theorem begin (h : σ.Served) (kind : CallKind) : (σ.beginCall kind).Served := by
  have hnew : ∀ phase, (phase = .poking ∨ phase = .counting) → ∀ c ∈ σ.calls ++ [⟨kind, phase⟩],
      c ∈ σ.calls ∨ (c.raisedAt = none ∧ ∀ n, c.phase ≠ .returned n) := by
    intro phase hphase c hc
    rcases List.mem_append.mp hc with hold | hlast
    · exact .inl hold
    · obtain rfl := List.mem_singleton.mp hlast
      rcases hphase with rfl | rfl <;> exact .inr ⟨rfl, nofun⟩
  have hserved : ∀ phase, (phase = .poking ∨ phase = .counting) →
      ∀ cycle confirmed unmatched,
        Served { σ with
          calls := σ.calls ++ [⟨kind, phase⟩], cycle := cycle, confirmed := confirmed,
          unmatched := unmatched } := by
    intro phase hphase cycle confirmed unmatched
    refine ⟨?_, ?_, ?_, h.shutdown, h.flag⟩
    · intro c hc n hn
      rcases hnew phase hphase c hc with hold | ⟨hnone, -⟩
      · exact h.raised_le c hold n hn
      · simp [hnone] at hn
    · intro c hc n hn
      rcases hnew phase hphase c hc with hold | ⟨hnone, -⟩
      · exact h.unserved c hold n hn
      · simp [hnone] at hn
    · intro hwait c hc n hn
      rcases hnew phase hphase c hc with hold | ⟨-, hnot⟩
      · exact h.waiting hwait c hold n hn
      · exact absurd hn (hnot _)
  cases kind with
  | advertise => exact hserved .poking (.inl rfl) σ.cycle σ.confirmed σ.unmatched
  | subscribe => exact hserved .counting (.inr rfl) σ.cycle σ.confirmed σ.unmatched
  | unsubscribe => exact hserved .counting (.inr rfl) _ _ _

theorem step {σ' : PollState} {a : PollAction} (h : σ.Served)
    (hs : σ.Step servicesEnabled maxUpdatePeriodMs a σ') : σ'.Served := by
  cases hs with
  | startCycle htop hup =>
      have hserved : ∀ c ∈ σ.calls, ∀ n, c.raisedAt = some n → n < σ.cycles + 1 :=
        fun c hc n hn => Nat.lt_succ_of_le (h.raised_le c hc n hn)
      exact ⟨fun c hc n hn => Nat.le_of_lt (hserved c hc n hn),
        fun c hc n hn => .inl (hserved c hc n hn), nofun, nofun, h.flag⟩
  | exit htop =>
      exact ⟨h.raised_le, fun _ _ _ _ => .inr (.inr rfl), nofun, nofun, h.flag⟩
  | cycle hcycle =>
      obtain ⟨hpc, hpc'⟩ := (PollCycle.step_rule hcycle).pc
      exact h.goOn _ hpc hpc'
  | sweep hpc => exact h.goOn .locking (by rw [hpc]; rfl) nofun
  | lock hpc => exact h.goOn (.checking false) (by rw [hpc]; rfl) nofun
  | leave hpc => exact h.goOn .consuming (by rw [hpc]; rfl) nofun
  | @wake timedOut hpc => exact h.goOn (.woken timedOut) (by rw [hpc]; rfl) nofun
  | @relock timedOut hpc => exact h.goOn (.checking timedOut) (by rw [hpc]; rfl) nofun
  | block hpc hup hpoke =>
      -- the flag is down, so every poke has been followed by a cycle
      have hserved : ∀ c ∈ σ.calls, ∀ n, c.raisedAt = some n → n < σ.cycles := by
        intro c hc n hn
        simpa [hpoke, hpc, PollPc.atTop] using h.unserved c hc n hn
      refine ⟨h.raised_le, fun c hc n hn => .inl (hserved c hc n hn), ?_, ?_, h.flag⟩
      · intro _ c hc n hn
        exact hserved c hc n (by rw [PollCall.raisedAt, hn])
      · intro _ hnotified
        rcases h.flag with hnot | hdown
        · rw [hnot] at hnotified
          cases hnotified
        · rw [hup] at hdown
          cases hdown
  | consume hpc =>
      exact ⟨h.raised_le, fun _ _ _ _ => .inr (.inr rfl), nofun, nofun, h.flag⟩
  | call => exact h.begin _
  | @count call kind hcall =>
      cases kind with
      | advertise => exact h
      | subscribe => exact h.setCall call (c := ⟨.subscribe, .poking⟩) nofun (fun _ => nofun) _
      | unsubscribe =>
          refine h.setCall call (fun n hn => ?_) (fun _ n hn => ?_) _
          · by_cases hzero : σ.graphSubscriptionCount ≤ 0 <;> simp [PollCall.raisedAt, hzero] at hn
          · by_cases hzero : σ.graphSubscriptionCount ≤ 0 <;> simp [hzero] at hn
  | @compensate call kind hcall =>
      exact h.setCall call (c := ⟨kind, .returned none⟩) nofun (fun _ => nofun) _
  | @raise call kind hcall =>
      have hup : Served { σ with pollPoke := true } :=
        ⟨h.raised_le, fun _ _ _ _ => .inr (.inl rfl), h.waiting, h.shutdown, h.flag⟩
      refine hup.setCall call (c := ⟨kind, .notifying σ.cycles⟩) (fun n hn => ?_)
        (fun _ => nofun) σ.graphSubscriptionCount
      obtain rfl : σ.cycles = n := by simpa [PollCall.raisedAt] using hn
      exact ⟨Nat.le_refl _, .inr (.inl rfl)⟩
  | @notify call kind raisedAt hcall =>
      have hmem := List.mem_of_getElem? hcall
      have hraised : ∀ n, (PollCall.mk kind (.returned (some raisedAt))).raisedAt = some n →
          n ≤ σ.cycles ∧ (n < σ.cycles ∨ σ.pollPoke = true ∨ σ.pc.atTop = true) := by
        intro n hn
        obtain rfl : raisedAt = n := by simpa [PollCall.raisedAt] using hn
        exact ⟨h.raised_le _ hmem _ rfl, h.unserved _ hmem _ rfl⟩
      rcases notified_cases (σ.setCall call ⟨kind, .returned (some raisedAt)⟩) with
        ⟨hpc, heq⟩ | ⟨hpc, heq⟩
      · rw [heq]
        have hset := h.setCall call hraised (fun hwait => absurd hwait hpc)
          σ.graphSubscriptionCount
        exact ⟨hset.raised_le, hset.unserved, hset.waiting, hset.shutdown, hset.flag⟩
      · -- the poll thread is woken up, and goes back to the predicate
        rw [heq]
        have hwoken : Served { σ with pc := .woken false } :=
          h.goOn (.woken false) (by rw [show σ.pc = .waiting from hpc]; rfl) nofun
        have hset := hwoken.setCall call (c := ⟨kind, .returned (some raisedAt)⟩)
          (fun n hn => ⟨(hraised n hn).1, by
            simpa [show σ.pc = .waiting from hpc, PollPc.atTop] using (hraised n hn).2⟩)
          nofun σ.graphSubscriptionCount
        exact ⟨hset.raised_le, hset.unserved, hset.waiting, hset.shutdown, hset.flag⟩
  | requestShutdown hfirst =>
      exact ⟨h.raised_le, h.unserved, h.waiting, fun _ => nofun, .inr rfl⟩
  | notifyShutdown hphase =>
      have hdown : σ.shuttingDown = true := h.flag.resolve_left (by rw [hphase]; nofun)
      rcases notified_cases σ with ⟨hpc, heq⟩ | ⟨hpc, heq⟩
      · rw [heq]
        exact ⟨h.raised_le, h.unserved, h.waiting, fun hwait => absurd hwait hpc, .inr hdown⟩
      · rw [heq]
        have hwoken : Served { σ with pc := .woken false } :=
          h.goOn (.woken false) (by rw [hpc]; rfl) nofun
        exact ⟨hwoken.raised_le, hwoken.unserved, nofun, nofun, .inr hdown⟩

end PollState.Served

/-! ## Graph subscribers -/

/-- What a cycle owes to a graph subscriber: it means to query the system state, and
unless an exception ends it, it does so and publishes the graph if that succeeds. -/
def PollCycle.Complete (c : PollCycle) : Prop :=
  c.querySystemState = true ∧
    (c.threw = false → c.queried = true ∧ (c.systemStateRetrieved = true → c.published = true))

/-- An armed cycle, at this stage, is on the way to being complete. -/
def PollCycle.Sound (c : PollCycle) (pc : PollPc) : Prop :=
  c.armed = true →
    match pc with
    | .gettingTopics | .gettingSystemState => c.querySystemState = true
    | .updatingTopics | .updatingServices | .publishing =>
        c.querySystemState = true ∧ c.queried = true
    | .sweeping => c.Complete
    | _ => True

theorem PollCycle.Rule.sound {count : Int} {c c' : PollCycle} {pc pc' : PollPc}
    (h : c.Rule servicesEnabled count pc pc' c') (hsound : c.Sound pc)
    (hpos : c.armed = true → 0 < count) : c'.Sound pc' ∧ c'.armed = c.armed := by
  cases h with
  | decide => exact ⟨fun harmed => by simp [hpos harmed], rfl⟩
  | topics | updateTopics | updateServices => exact ⟨hsound, rfl⟩
  | systemState _ hquery => exact ⟨fun _ => ⟨hquery, rfl⟩, rfl⟩
  | noSystemState hquery =>
      refine ⟨fun harmed => ?_, rfl⟩
      rw [show c.querySystemState = true from hsound harmed] at hquery
      cases hquery
  | publish =>
      refine ⟨fun harmed => ?_, rfl⟩
      obtain ⟨hquery, hqueried⟩ := hsound harmed
      refine ⟨hquery, fun _ => ⟨hqueried, fun hretrieved => ?_⟩⟩
      simpa [hpos harmed] using hretrieved
  | throw queried hpc =>
      refine ⟨fun harmed => ⟨?_, nofun⟩, rfl⟩
      have hbefore := hsound harmed
      cases pc with
      | gettingTopics | gettingSystemState => exact hbefore
      | updatingTopics | updatingServices => exact hbefore.1
      | _ => cases hpc

/-- As long as every graph unsubscribe was issued after a completed subscribe of its own,
the counter is the number of subscribes less the number of unsubscribes. -/
structure PollState.Matched (σ : PollState) : Prop where
  issued : σ.calls.countP PollCall.isUnsubscribe ≤ σ.calls.countP PollCall.isSubscribed
  confirmed : σ.confirmed = true →
    σ.calls.countP PollCall.isUnsubscribe < σ.calls.countP PollCall.isSubscribed
  count : σ.graphSubscriptionCount =
    σ.calls.countP PollCall.hasSubscribed - σ.calls.countP PollCall.hasUnsubscribed
  noneCompensating : ∀ c ∈ σ.calls, c.phase ≠ .compensating
  armed : σ.cycle.armed = true → σ.confirmed = true
  cycle : σ.cycle.Sound σ.pc
  finished : ∀ c ∈ σ.finished, c.armed = true → c.Complete

namespace PollState.Matched

variable {σ : PollState}

/-- A completed subscribe has added its one, and whoever took one off was issued. -/
theorem bounds (calls : List PollCall) :
    calls.countP PollCall.isSubscribed ≤ calls.countP PollCall.hasSubscribed ∧
      calls.countP PollCall.hasUnsubscribed ≤ calls.countP PollCall.isUnsubscribe := by
  constructor
  · apply List.countP_mono_left
    intro c _ h
    obtain ⟨kind, phase⟩ := c
    cases phase <;> simp_all [PollCall.isSubscribed, PollCall.hasSubscribed]
  · apply List.countP_mono_left
    intro c _ h
    simp_all [PollCall.hasUnsubscribed, PollCall.isUnsubscribe]

theorem positive (h : σ.Matched) (hconfirmed : σ.confirmed = true) :
    0 < σ.graphSubscriptionCount := by
  have hcount := h.count
  have hissued := h.confirmed hconfirmed
  obtain ⟨hsub, hunsub⟩ := bounds σ.calls
  omega

/-- The poll thread moves on outside the `try` block. -/
theorem move (h : σ.Matched) {pc : PollPc} (hpc : σ.cycle.Sound pc)
    {pollPoke : Bool} {updateCount periodMs : Nat} :
    Matched { σ with
      pc := pc, pollPoke := pollPoke, updateCount := updateCount, periodMs := periodMs } :=
  ⟨h.issued, h.confirmed, h.count, h.noneCompensating, h.armed, hpc, h.finished⟩

/-- A notification changes nothing but where the poll thread is. -/
theorem notified (h : σ.Matched) : σ.notified.Matched := by
  rcases Served.notified_cases σ with ⟨-, heq⟩ | ⟨-, heq⟩
  · rw [heq]
    exact h
  · rw [heq]
    exact h.move fun _ => trivial

/-- A call moves on, from one phase to another that counts the same. -/
theorem setCall (h : σ.Matched) {call : Nat} {before after : PollCall}
    (hcall : σ.calls[call]? = some before)
    (hissued : after.isUnsubscribe = before.isUnsubscribe)
    (hreturned : after.isSubscribed = before.isSubscribed)
    (hsub : after.hasSubscribed = before.hasSubscribed)
    (hunsub : after.hasUnsubscribed = before.hasUnsubscribed)
    (hphase : after.phase ≠ .compensating) : (σ.setCall call after).Matched := by
  have hsame : ∀ p : PollCall → Bool, p after = p before →
      (σ.calls.set call after).countP p = σ.calls.countP p := by
    intro p hp
    have hset := List.countP_set_add (p := p) hcall after
    rw [hp] at hset
    omega
  refine ⟨?_, ?_, ?_, ?_, h.armed, h.cycle, h.finished⟩
  · simpa [PollState.setCall, hsame _ hissued, hsame _ hreturned] using h.issued
  · simpa [PollState.setCall, hsame _ hissued, hsame _ hreturned] using h.confirmed
  · simpa [PollState.setCall, hsame _ hsub, hsame _ hunsub] using h.count
  · intro c hc
    rcases List.mem_or_eq_of_mem_set hc with hold | rfl
    · exact h.noneCompensating c hold
    · exact hphase

/-- A new call counts only as an unsubscribe issued, if it is one. -/
theorem begin (h : σ.Matched) (kind : CallKind) (hmatched : (σ.beginCall kind).unmatched = false) :
    (σ.beginCall kind).Matched := by
  have hphases : ∀ phase : PollCallPhase, (phase = .poking ∨ phase = .counting) →
      ∀ c ∈ σ.calls ++ [⟨kind, phase⟩], c.phase ≠ .compensating := by
    intro phase hphase c hc
    rcases List.mem_append.mp hc with hold | hlast
    · exact h.noneCompensating c hold
    · obtain rfl := List.mem_singleton.mp hlast
      rcases hphase with rfl | rfl <;> nofun
  have hcount : ∀ (p : PollCall → Bool) (phase : PollCallPhase),
      (σ.calls ++ [PollCall.mk kind phase]).countP p =
        σ.calls.countP p + [PollCall.mk kind phase].countP p :=
    fun p phase => List.countP_append
  cases kind with
  | advertise =>
      refine ⟨?_, ?_, ?_, hphases _ (.inl rfl), h.armed, h.cycle, h.finished⟩ <;>
        simp only [beginCall, hcount]
      · exact h.issued
      · exact h.confirmed
      · exact h.count
  | subscribe =>
      refine ⟨?_, ?_, ?_, hphases _ (.inr rfl), h.armed, h.cycle, h.finished⟩ <;>
        simp only [beginCall, hcount]
      · exact h.issued
      · exact h.confirmed
      · exact h.count
  | unsubscribe =>
      have hissued : σ.calls.countP PollCall.isUnsubscribe <
          σ.calls.countP PollCall.isSubscribed := by
        simpa [beginCall] using (Bool.or_eq_false_iff.mp hmatched).2
      refine ⟨?_, nofun, ?_, hphases _ (.inr rfl), nofun, nofun, h.finished⟩ <;>
        simp only [beginCall, hcount]
      · exact hissued
      · exact h.count

/-- The counts after one call has moved on to another phase. -/
theorem countP_setCall {σ : PollState} {call : Nat} {before : PollCall}
    (hcall : σ.calls[call]? = some before) (after : PollCall) (p : PollCall → Bool) :
    (σ.calls.set call after).countP p + [before].countP p =
      σ.calls.countP p + [after].countP p := by
  rw [List.countP_singleton, List.countP_singleton]
  exact List.countP_set_add hcall after

theorem phase_setCall (h : σ.Matched) {call : Nat} {after : PollCall}
    (hafter : after.phase ≠ .compensating) :
    ∀ c ∈ σ.calls.set call after, c.phase ≠ .compensating := by
  intro c hc
  rcases List.mem_or_eq_of_mem_set hc with hold | rfl
  · exact h.noneCompensating c hold
  · exact hafter

/-- A graph subscribe adds its one. -/
theorem countSubscribe (h : σ.Matched) {call : Nat}
    (hcall : σ.calls[call]? = some ⟨.subscribe, .counting⟩) :
    (σ.countCall call .subscribe).Matched := by
  have hset := countP_setCall hcall ⟨.subscribe, .poking⟩
  have hissued : _ + 0 = _ + 0 := hset PollCall.isUnsubscribe
  have hreturned : _ + 0 = _ + 0 := hset PollCall.isSubscribed
  have hsub : _ + 0 = _ + 1 := hset PollCall.hasSubscribed
  have hunsub : _ + 0 = _ + 0 := hset PollCall.hasUnsubscribed
  have hcount := h.count
  refine ⟨?_, ?_, ?_, h.phase_setCall nofun, h.armed, h.cycle, h.finished⟩
  · show (σ.calls.set _ _).countP _ ≤ (σ.calls.set _ _).countP _
    have hold := h.issued
    omega
  · intro hconfirmed
    show (σ.calls.set _ _).countP _ < (σ.calls.set _ _).countP _
    have hold := h.confirmed hconfirmed
    omega
  · show σ.graphSubscriptionCount + 1 =
      (((σ.calls.set _ _).countP _ : Nat) : Int) - ((σ.calls.set _ _).countP _ : Nat)
    omega

/-- An unsubscribe finds its own subscriber, or another one, and takes one off. -/
theorem countUnsubscribe (h : σ.Matched) {call : Nat}
    (hcall : σ.calls[call]? = some ⟨.unsubscribe, .counting⟩) :
    (σ.countCall call .unsubscribe).Matched := by
  have hset := countP_setCall hcall ⟨.unsubscribe, .returned none⟩
  have hissued : _ + 1 = _ + 1 := hset PollCall.isUnsubscribe
  have hreturned : _ + 0 = _ + 0 := hset PollCall.isSubscribed
  have hsub : _ + 0 = _ + 0 := hset PollCall.hasSubscribed
  have hunsub : _ + 0 = _ + 1 := hset PollCall.hasUnsubscribed
  have hcount := h.count
  have hold := h.issued
  obtain ⟨hbefore, hafter⟩ := bounds (σ.calls.set call ⟨.unsubscribe, .returned none⟩)
  have hpos : ¬ σ.graphSubscriptionCount ≤ 0 := by omega
  have heq : σ.countCall call .unsubscribe =
      { σ.setCall call ⟨.unsubscribe, .returned none⟩ with
        graphSubscriptionCount := σ.graphSubscriptionCount - 1 } := by
    simp only [countCall, if_neg hpos]
  rw [heq]
  refine ⟨?_, ?_, ?_, h.phase_setCall nofun, h.armed, h.cycle, h.finished⟩
  · show (σ.calls.set _ _).countP _ ≤ (σ.calls.set _ _).countP _
    omega
  · intro hconfirmed
    show (σ.calls.set _ _).countP _ < (σ.calls.set _ _).countP _
    have hconfirmed := h.confirmed hconfirmed
    omega
  · show σ.graphSubscriptionCount - 1 =
      (((σ.calls.set _ _).countP _ : Nat) : Int) - ((σ.calls.set _ _).countP _ : Nat)
    omega

/-- A poke is completed; a graph subscribe is one confirmed subscriber more. -/
theorem completed (h : σ.Matched) {call : Nat} {kind : CallKind} {raisedAt : Nat}
    (hcall : σ.calls[call]? = some ⟨kind, .notifying raisedAt⟩) :
    Matched { σ.setCall call ⟨kind, .returned (some raisedAt)⟩ with
      confirmed := σ.confirmed || kind == .subscribe } := by
  cases kind with
  | advertise | unsubscribe =>
      have hset := (h.setCall hcall rfl rfl rfl rfl (by nofun) :
        Matched (σ.setCall call ⟨_, .returned (some raisedAt)⟩))
      have hsame : (σ.confirmed || false) = σ.confirmed := Bool.or_false _
      exact ⟨hset.issued, fun hconfirmed => hset.confirmed (hsame ▸ hconfirmed), hset.count,
        hset.noneCompensating, fun harmed => hsame.trans (hset.armed harmed), hset.cycle,
        hset.finished⟩
  | subscribe =>
      have hset := countP_setCall hcall ⟨.subscribe, .returned (some raisedAt)⟩
      have hissued : _ + 0 = _ + 0 := hset PollCall.isUnsubscribe
      have hreturned : _ + 0 = _ + 1 := hset PollCall.isSubscribed
      have hsub : _ + 1 = _ + 1 := hset PollCall.hasSubscribed
      have hunsub : _ + 0 = _ + 0 := hset PollCall.hasUnsubscribed
      have hcount := h.count
      have hold := h.issued
      refine ⟨?_, ?_, ?_, h.phase_setCall nofun, fun _ => Bool.or_true _, h.cycle, h.finished⟩
      · show (σ.calls.set _ _).countP _ ≤ (σ.calls.set _ _).countP _
        omega
      · intro _
        show (σ.calls.set _ _).countP _ < (σ.calls.set _ _).countP _
        omega
      · show σ.graphSubscriptionCount =
          (((σ.calls.set _ _).countP _ : Nat) : Int) - ((σ.calls.set _ _).countP _ : Nat)
        omega

theorem step {σ' : PollState} {a : PollAction} (h : σ.Matched)
    (hs : σ.Step servicesEnabled maxUpdatePeriodMs a σ') (hmatched : σ'.unmatched = false) :
    σ'.Matched := by
  cases hs with
  | startCycle =>
      exact ⟨h.issued, h.confirmed, h.count, h.noneCompensating, id, fun _ => trivial, h.finished⟩
  | exit => exact h.move fun _ => trivial
  | cycle hcycle =>
      obtain ⟨hsound, harmed⟩ := (PollCycle.step_rule hcycle).sound h.cycle
        fun harmed => h.positive (h.armed harmed)
      exact ⟨h.issued, h.confirmed, h.count, h.noneCompensating, fun ha => h.armed (harmed ▸ ha),
        hsound, h.finished⟩
  | sweep hpc =>
      refine ⟨h.issued, h.confirmed, h.count, h.noneCompensating, h.armed, fun _ => trivial,
        fun c hc harmed => ?_⟩
      rcases List.mem_append.mp hc with hold | hlast
      · exact h.finished c hold harmed
      · -- the cycle that ends now
        obtain rfl := List.mem_singleton.mp hlast
        have hsound := h.cycle harmed
        rw [hpc] at hsound
        exact hsound
  | lock | leave | block | wake | relock | consume => exact h.move fun _ => trivial
  | call => exact h.begin _ hmatched
  | @count call kind hcall =>
      cases kind with
      | advertise => exact h
      | subscribe => exact h.countSubscribe hcall
      | unsubscribe => exact h.countUnsubscribe hcall
  | compensate hcall => exact absurd rfl (h.noneCompensating _ (List.mem_of_getElem? hcall))
  | @raise call kind hcall =>
      have hraised : (σ.setCall call ⟨kind, .notifying σ.cycles⟩).Matched := by
        cases kind <;> exact h.setCall hcall rfl rfl rfl rfl nofun
      exact ⟨hraised.issued, hraised.confirmed, hraised.count, hraised.noneCompensating,
        hraised.armed, hraised.cycle, hraised.finished⟩
  | notify hcall =>
      rcases Served.notified_cases (σ.setCall _ _) with ⟨-, heq⟩ | ⟨-, heq⟩
      · rw [heq]
        exact h.completed hcall
      · rw [heq]
        exact (h.completed hcall).move fun _ => trivial
  | requestShutdown =>
      exact ⟨h.issued, h.confirmed, h.count, h.noneCompensating, h.armed, h.cycle, h.finished⟩
  | notifyShutdown =>
      have hnotified := h.notified
      exact ⟨hnotified.issued, hnotified.confirmed, hnotified.count, hnotified.noneCompensating,
        hnotified.armed, hnotified.cycle, hnotified.finished⟩

/-- An unmatched unsubscribe is not forgotten. -/
theorem unmatched_of_step {σ' : PollState} {a : PollAction}
    (hs : σ.Step servicesEnabled maxUpdatePeriodMs a σ') (hmatched : σ'.unmatched = false) :
    σ.unmatched = false := by
  cases hs with
  | @call kind =>
      cases kind with
      | advertise | subscribe => exact hmatched
      | unsubscribe => exact (Bool.or_eq_false_iff.mp hmatched).1
  | @count call kind => cases kind <;> exact hmatched
  | notify => exact (Served.notified_unmatched (σ.setCall _ _)).symm.trans hmatched
  | notifyShutdown => exact (Served.notified_unmatched σ).symm.trans hmatched
  | _ => exact hmatched

end PollState.Matched

/-! ## The range of the counter -/

/-- Each call adds one at most, or takes one off at most. -/
structure PollState.InRange (σ : PollState) : Prop where
  low : -(σ.calls.countP PollCall.hasUnsubscribed : Int) ≤ σ.graphSubscriptionCount
  high : σ.graphSubscriptionCount + σ.calls.countP PollCall.isCompensating ≤
    σ.calls.countP PollCall.hasSubscribed

namespace PollState.InRange

variable {σ : PollState}

/-- A call moves on, from one phase to another that counts the same. -/
theorem setCall (h : σ.InRange) {call : Nat} {before : PollCall}
    (hcall : σ.calls[call]? = some before) (after : PollCall)
    (hsub : after.hasSubscribed = before.hasSubscribed)
    (hunsub : after.hasUnsubscribed = before.hasUnsubscribed)
    (hcomp : after.isCompensating = before.isCompensating) : (σ.setCall call after).InRange := by
  have hsame : ∀ p : PollCall → Bool, p after = p before →
      (σ.calls.set call after).countP p = σ.calls.countP p := by
    intro p hp
    have hset := List.countP_set_add (p := p) hcall after
    rw [hp] at hset
    omega
  refine ⟨?_, ?_⟩
  · simpa [PollState.setCall, hsame _ hunsub] using h.low
  · simpa [PollState.setCall, hsame _ hsub, hsame _ hcomp] using h.high

/-- A new call has not been at the counter. -/
theorem begin (h : σ.InRange) (kind : CallKind) : (σ.beginCall kind).InRange := by
  have hlow := h.low
  have hhigh := h.high
  cases kind with
  | advertise | subscribe | unsubscribe =>
      refine ⟨?_, ?_⟩ <;> simp only [beginCall, List.countP_append]
      · exact hlow
      · exact hhigh

theorem count (h : σ.InRange) {call : Nat} {kind : CallKind}
    (hcall : σ.calls[call]? = some ⟨kind, .counting⟩) : (σ.countCall call kind).InRange := by
  have hlow := h.low
  have hhigh := h.high
  have hset := fun after => Matched.countP_setCall hcall after
  cases kind with
  | advertise => exact h
  | subscribe =>
      have hsub : _ + 0 = _ + 1 := hset ⟨.subscribe, .poking⟩ PollCall.hasSubscribed
      have hunsub : _ + 0 = _ + 0 := hset ⟨.subscribe, .poking⟩ PollCall.hasUnsubscribed
      have hcomp : _ + 0 = _ + 0 := hset ⟨.subscribe, .poking⟩ PollCall.isCompensating
      refine ⟨?_, ?_⟩
      · show -(((σ.calls.set _ _).countP _ : Nat) : Int) ≤ σ.graphSubscriptionCount + 1
        omega
      · show σ.graphSubscriptionCount + 1 + (((σ.calls.set _ _).countP _ : Nat) : Int) ≤
          ((σ.calls.set _ _).countP _ : Nat)
        omega
  | unsubscribe =>
      unfold countCall
      dsimp only
      split
      · -- it takes one off, and has still to put it back
        have hsub : _ + 0 = _ + 0 := hset ⟨.unsubscribe, .compensating⟩ PollCall.hasSubscribed
        have hunsub : _ + 0 = _ + 1 := hset ⟨.unsubscribe, .compensating⟩ PollCall.hasUnsubscribed
        have hcomp : _ + 0 = _ + 1 := hset ⟨.unsubscribe, .compensating⟩ PollCall.isCompensating
        refine ⟨?_, ?_⟩
        · show -(((σ.calls.set _ _).countP _ : Nat) : Int) ≤ σ.graphSubscriptionCount - 1
          omega
        · show σ.graphSubscriptionCount - 1 + (((σ.calls.set _ _).countP _ : Nat) : Int) ≤
            ((σ.calls.set _ _).countP _ : Nat)
          omega
      · have hsub : _ + 0 = _ + 0 := hset ⟨.unsubscribe, .returned none⟩ PollCall.hasSubscribed
        have hunsub : _ + 0 = _ + 1 := hset ⟨.unsubscribe, .returned none⟩ PollCall.hasUnsubscribed
        have hcomp : _ + 0 = _ + 0 := hset ⟨.unsubscribe, .returned none⟩ PollCall.isCompensating
        refine ⟨?_, ?_⟩
        · show -(((σ.calls.set _ _).countP _ : Nat) : Int) ≤ σ.graphSubscriptionCount - 1
          omega
        · show σ.graphSubscriptionCount - 1 + (((σ.calls.set _ _).countP _ : Nat) : Int) ≤
            ((σ.calls.set _ _).countP _ : Nat)
          omega

theorem compensate (h : σ.InRange) {call : Nat} {kind : CallKind}
    (hcall : σ.calls[call]? = some ⟨kind, .compensating⟩) :
    InRange { σ.setCall call ⟨kind, .returned none⟩ with
      graphSubscriptionCount := σ.graphSubscriptionCount + 1 } := by
  have hlow := h.low
  have hhigh := h.high
  have hset := fun p => Matched.countP_setCall hcall ⟨kind, .returned none⟩ p
  have hcomp : _ + 1 = _ + 0 := hset PollCall.isCompensating
  have hsub := hset PollCall.hasSubscribed
  have hunsub := hset PollCall.hasUnsubscribed
  have hsubs : [PollCall.mk kind .compensating].countP PollCall.hasSubscribed =
      [PollCall.mk kind (.returned none)].countP PollCall.hasSubscribed := by cases kind <;> rfl
  have hunsubs : [PollCall.mk kind .compensating].countP PollCall.hasUnsubscribed =
      [PollCall.mk kind (.returned none)].countP PollCall.hasUnsubscribed := by cases kind <;> rfl
  refine ⟨?_, ?_⟩
  · show -(((σ.calls.set _ _).countP _ : Nat) : Int) ≤ σ.graphSubscriptionCount + 1
    omega
  · show σ.graphSubscriptionCount + 1 + (((σ.calls.set _ _).countP _ : Nat) : Int) ≤
      ((σ.calls.set _ _).countP _ : Nat)
    omega

theorem notified (h : σ.InRange) : σ.notified.InRange := by
  rcases Served.notified_cases σ with ⟨-, heq⟩ | ⟨-, heq⟩
  · rw [heq]
    exact h
  · rw [heq]
    exact ⟨h.low, h.high⟩

theorem step {σ' : PollState} {a : PollAction} (h : σ.InRange)
    (hs : σ.Step servicesEnabled maxUpdatePeriodMs a σ') : σ'.InRange := by
  cases hs with
  | call => exact h.begin _
  | count hcall => exact h.count hcall
  | compensate hcall => exact h.compensate hcall
  | @raise call kind hcall =>
      have hraised : (σ.setCall call ⟨kind, .notifying σ.cycles⟩).InRange := by
        cases kind <;> exact h.setCall hcall _ rfl rfl rfl
      exact ⟨hraised.low, hraised.high⟩
  | @notify call kind raisedAt hcall =>
      have hreturned : (σ.setCall call ⟨kind, .returned (some raisedAt)⟩).InRange := by
        cases kind <;> exact h.setCall hcall _ rfl rfl rfl
      exact ⟨hreturned.notified.low, hreturned.notified.high⟩
  | notifyShutdown => exact ⟨h.notified.low, h.notified.high⟩
  | _ => exact ⟨h.low, h.high⟩

theorem of_reachable (h : (pollSystem servicesEnabled maxUpdatePeriodMs).Reachable σ) :
    σ.InRange := by
  refine TSys.Run.invariant h ⟨?_, fun _ _ _ hrange _ hs => hrange.step (PollState.step_rule hs)⟩
  rintro _ rfl
  exact ⟨Int.le_refl _, Int.le_refl _⟩

end PollState.InRange

/-- **The counter fits its `int`.** In a run of fewer than 2^31 calls the wrapping of an
`std::atomic<int>` changes nothing. -/
theorem wrapInt_graphSubscriptionCount {σ : PollState}
    (h : (pollSystem servicesEnabled maxUpdatePeriodMs).Reachable σ)
    (hcalls : σ.calls.length < 2 ^ 31) :
    wrapInt σ.graphSubscriptionCount = σ.graphSubscriptionCount := by
  have hrange := PollState.InRange.of_reachable h
  have hlow := hrange.low
  have hhigh := hrange.high
  have hsub : σ.calls.countP PollCall.hasSubscribed ≤ σ.calls.length := List.countP_le_length
  have hunsub : σ.calls.countP PollCall.hasUnsubscribed ≤ σ.calls.length := List.countP_le_length
  exact wrapInt_of_lt (by omega) (by omega)

/-! ## Runs -/

variable {σ : PollState}

theorem PollState.Served.of_reachable
    (h : (pollSystem servicesEnabled maxUpdatePeriodMs).Reachable σ) : σ.Served := by
  refine TSys.Run.invariant h ⟨?_, fun _ _ _ hserved _ hs => hserved.step (PollState.step_rule hs)⟩
  rintro _ rfl
  exact ⟨nofun, nofun, nofun, nofun, .inl rfl⟩

theorem PollState.Matched.of_reachable
    (h : (pollSystem servicesEnabled maxUpdatePeriodMs).Reachable σ)
    (hmatched : σ.unmatched = false) : σ.Matched := by
  have hrun : σ.unmatched = false → σ.Matched := by
    refine TSys.Run.invariant (I := fun τ => τ.unmatched = false → τ.Matched) h ⟨?_, ?_⟩
    · rintro _ rfl -
      exact ⟨Nat.le_refl _, nofun, rfl, nofun, nofun, nofun, nofun⟩
    · intro τ a τ' hτ _ hs hmatched'
      have hrule := PollState.step_rule hs
      exact (hτ (unmatched_of_step hrule hmatched')).step hrule hmatched'
  exact hrun hmatched

/-- Only the poll thread takes the flag down, and then the backoff starts over. -/
theorem PollState.Step.restarts {a : PollAction} {σ' : PollState}
    (hs : σ.Step servicesEnabled maxUpdatePeriodMs a σ') (hup : σ.pollPoke = true)
    (hdown : σ'.pollPoke = false) : σ'.updateCount = 0 := by
  have hkept : ∀ pollPoke, pollPoke = σ.pollPoke → pollPoke = false → σ'.updateCount = 0 := by
    intro pollPoke hsame hfalse
    rw [hsame, hup] at hfalse
    cases hfalse
  cases hs with
  | consume => exact if_pos hup
  | raise => cases hdown
  | @call kind => cases kind <;> exact hkept _ rfl hdown
  | @count call kind => cases kind <;> exact hkept _ rfl hdown
  | notify => exact hkept _ (Served.notified_pollPoke (σ.setCall _ _)) hdown
  | notifyShutdown => exact hkept _ (Served.notified_pollPoke σ) hdown
  | _ => exact hkept _ rfl hdown

/-- **The poll thread does not sleep through a poke.** While it is blocked, every
completed `pokePoll` has been followed, since it raised the flag, by the start of a cycle,
and the destructor has not both asked for shutdown and notified it. A poke that is
consumed restarts the backoff. As long as no graph unsubscribe is unmatched, a cycle that
starts after a completed graph subscribe, with no unsubscribe since, has a positive count
to see: it means to query the system state, and unless an exception ends it, it does so
and publishes the graph if the query succeeds. -/
theorem poke_served (h : (pollSystem servicesEnabled maxUpdatePeriodMs).Reachable σ) :
    (σ.pc = .waiting →
        (∀ c ∈ σ.calls, ∀ raisedAt, c.phase = .returned (some raisedAt) → raisedAt < σ.cycles) ∧
        σ.destructor ≠ .notified) ∧
      (∀ a σ', (pollSystem servicesEnabled maxUpdatePeriodMs).step σ a = some σ' →
        σ.pollPoke = true → σ'.pollPoke = false → σ'.updateCount = 0) ∧
      (σ.unmatched = false →
        (σ.cycle.armed = true → 0 < σ.graphSubscriptionCount) ∧
        ∀ c ∈ σ.finished, c.armed = true → c.Complete) := by
  have hserved := PollState.Served.of_reachable h
  refine ⟨fun hwait => ⟨hserved.waiting hwait, hserved.shutdown hwait⟩, ?_, ?_⟩
  · intro a σ' hs
    exact (PollState.step_rule hs).restarts
  · intro hunmatched
    have hmatched := PollState.Matched.of_reachable h hunmatched
    exact ⟨fun harmed => hmatched.positive (hmatched.armed harmed), hmatched.finished⟩

/-- A witness: a client subscribes to the graph, the poll thread consumes the poke, runs a
cycle and blocks. -/
def wokenSchedule : List PollAction :=
  [.startCycle true, .cycle .decide, .cycle (.getPublishedTopics .succeeds),
    .cycle (.getSystemState .succeeds), .cycle (.updateAdvertisedTopics false),
    .cycle (.updateAdvertisedServices false), .cycle .publishConnectionGraph,
    .sweepExpiredServiceCalls, .lockPollMutex, .checkPredicate, .call .subscribe, .count 0,
    .raise 0, .notify 0, .relock, .checkPredicate, .consumePoke, .startCycle true,
    .cycle .decide, .cycle (.getPublishedTopics .fails), .cycle (.getSystemState .succeeds),
    .cycle (.updateAdvertisedTopics false), .cycle (.updateAdvertisedServices false),
    .cycle .publishConnectionGraph, .sweepExpiredServiceCalls, .lockPollMutex, .checkPredicate]

theorem poke_served_woken :
    ∃ σ, (pollSystem false 5000).exec .initial wokenSchedule = some σ ∧ σ.pc = .waiting ∧
      σ.calls = [⟨.subscribe, .returned (some 1)⟩] ∧ 1 < σ.cycles ∧
      σ.finished.map (fun c => (c.armed, c.published)) = [(false, false), (true, true)] := by
  refine ⟨_, rfl, rfl, rfl, ?_, rfl⟩
  have hreach : (pollSystem false 5000).Reachable _ :=
    TSys.Reachable.exec (.init rfl) (show TSys.exec _ _ wokenSchedule = some _ from rfl)
  exact ((poke_served hreach).1 rfl).1 _ List.mem_cons_self 1 rfl

/-- A graph subscribe whose cycle ends early: the topics reply is malformed. -/
def throwingSchedule : List PollAction :=
  [.call .subscribe, .count 0, .raise 0, .notify 0, .startCycle true, .cycle .decide,
    .cycle (.getPublishedTopics .throws), .sweepExpiredServiceCalls]

/-- A poke that raises the flag just before the poll thread looks at it. -/
def earlySchedule : List PollAction :=
  [.startCycle true, .cycle .decide, .cycle (.getPublishedTopics .succeeds),
    .cycle (.getSystemState .succeeds), .cycle (.updateAdvertisedTopics false),
    .cycle (.updateAdvertisedServices false), .cycle .publishConnectionGraph,
    .sweepExpiredServiceCalls, .call .advertise, .raise 0, .lockPollMutex, .checkPredicate,
    .consumePoke, .startCycle true]

/-- The cycle such a poke asked for, up to the next wait. -/
def earlyRest : List PollAction :=
  [.cycle .decide, .cycle (.getPublishedTopics .succeeds), .cycle (.getSystemState .succeeds),
    .cycle (.updateAdvertisedTopics false), .cycle (.updateAdvertisedServices false),
    .cycle .publishConnectionGraph, .sweepExpiredServiceCalls, .lockPollMutex, .checkPredicate]

/-- A cycle with a graph subscriber may end before it queries the system state; and the
poll thread may block when no cycle has started since `pokePoll` returned, the cycle it
asked for having started before. -/
theorem not_poke_served :
    (∃ σ, (pollSystem false 5000).exec .initial throwingSchedule = some σ ∧
      σ.unmatched = false ∧ ∃ c ∈ σ.finished, c.armed = true ∧ c.queried = false) ∧
      ∃ σ σ' σ'', (pollSystem false 5000).exec .initial earlySchedule = some σ ∧
        (pollSystem false 5000).step σ (.notify 0) = some σ' ∧
        (pollSystem false 5000).exec σ' earlyRest = some σ'' ∧
        σ''.pc = .waiting ∧ σ''.cycles = σ'.cycles :=
  ⟨⟨_, rfl, rfl, _, List.mem_cons_self, rfl, rfl⟩, _, _, _, rfl, rfl, rfl, rfl, rfl⟩

end FoxgloveBridge
