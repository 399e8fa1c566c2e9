import FoxgloveBridge.Lib.Lists
import FoxgloveBridge.Lib.TSys
import FoxgloveBridge.Param.Conversion

/-!
# The parameter operation queue

Parameter requests block on the master, so the transports hand them to a worker thread:
`enqueueParameterOp` on any of their threads, `parameterWorkerLoop` on the worker, and
`stop` on the thread that shuts the bridge down. All three share `_paramOpMutex`, a
condition variable that only the worker waits on, the queue and the shutdown flag.

A step is one locked section, one notification, or one call into the backend. An operation
is an object with one owner: the call that enqueues it, the queue, the worker, or the
local variable that `stop` swaps the queue into; and the responder of a get or set
operation goes with it until it is answered. Who owns what is a conservation law
(`stages`, `owners`, `requests`), from which it follows that nothing is executed or
answered twice and that nothing is left behind, no client either (`operations_in_order`);
and the worker does not sleep through a request (`woken_of_reachable`).
-/

namespace FoxgloveBridge

/-- `ParameterOp`, without the responders of the first two. -/
inductive ParameterOp
  | get (names : List String)
  | set (parameters : List Parameter)
  | subscribe (names : List String)
  | unsubscribe (names : List String)

/-- The operation carries a responder. -/
def ParameterOp.hasResponder : ParameterOp → Bool
  | .get _ | .set _ => true
  | .subscribe _ | .unsubscribe _ => false

/-- The operation sets parameters. -/
def ParameterOp.sets : ParameterOp → Bool
  | .set parameters => !parameters.isEmpty
  | _ => false

/-- An operation, known by the number of the call that enqueues it. -/
structure QueuedOp where
  call : Nat
  op : ParameterOp

/-- Where the worker is. -/
inductive OpWorkerPc
  | locking
  /-- Holding the mutex, about to look at the flag and at the queue. -/
  | checking
  | waiting
  | woken
  /-- At the first call into the backend, if the operation makes one. -/
  | handling (op : QueuedOp)
  /-- `setParams` succeeded; the new values are read back. -/
  | echoing (op : QueuedOp)
  /-- The handler returned; the operation dies when the mutex is taken again. -/
  | relocking (op : QueuedOp)
  | exited

namespace OpWorkerPc

/-- The operation the worker owns. -/
def current : OpWorkerPc → Option QueuedOp
  | .handling op | .echoing op | .relocking op => some op
  | _ => none

/-- The operation whose handler is running. -/
def running : OpWorkerPc → Option QueuedOp
  | .handling op | .echoing op => some op
  | _ => none

end OpWorkerPc

/-- Where `stop` is. -/
inductive StopPhase
  | notStarted
  /-- The transports are being stopped. -/
  | begun
  | notifying (drained : List QueuedOp)
  | joining (drained : List QueuedOp)
  /-- The worker is gone; `drained` goes out of scope. -/
  | destroying (drained : List QueuedOp)
  | returned

/-- The operations `stop` took out of the queue and has not destroyed yet. -/
def StopPhase.drained : StopPhase → List QueuedOp
  | .notifying drained | .joining drained | .destroying drained => drained
  | _ => []

/-- `stop` has raised the flag and emptied the queue. -/
def StopPhase.hasDrained : StopPhase → Bool
  | .notStarted | .begun => false
  | .notifying _ | .joining _ | .destroying _ | .returned => true

/-- `stop` has joined the worker. -/
def StopPhase.hasJoined : StopPhase → Bool
  | .destroying _ | .returned => true
  | _ => false

theorem StopPhase.hasDrained_of_hasJoined {stop : StopPhase} (h : stop.hasJoined = true) :
    stop.hasDrained = true := by
  cases stop <;> first | rfl | cases h

structure OpQueueState where
  /-- The number of calls of `enqueueParameterOp`. -/
  issued : Nat
  /-- The calls before their locked section, each with its operation. -/
  entering : List QueuedOp
  /-- The calls that found the shutdown flag up: the operation dies with the call. -/
  dropping : List QueuedOp
  /-- The calls that have queued their operation; `notify_one` is next. -/
  notifying : List Nat
  returned : List Nat
  /-- `_paramOpQueue`. -/
  paramOpQueue : List QueuedOp
  /-- `_paramOpShutdown`. -/
  paramOpShutdown : Bool
  worker : OpWorkerPc
  stop : StopPhase
  /-- The operations destroyed. -/
  destroyed : List Nat
  /-- The calls that had a responder. -/
  requests : List Nat
  /-- The responders that are neither answered nor dropped. -/
  responders : List Nat
  answered : List Nat
  dropped : List Nat
  /-- The operations in the order they entered the queue. -/
  enqueued : List QueuedOp
  /-- The operations the worker took from the queue. -/
  started : List QueuedOp
  /-- The operations `stop` took from the queue. -/
  abandoned : List QueuedOp
  /-- The operations whose `setParams` was called. -/
  applied : List Nat
  /-- The get operations whose `getParams` was called, with what was applied by then. -/
  reads : List (Nat × List Nat)

/-- One step of a call, picked by its position, of the worker or of `stop`. -/
inductive OpQueueAction
  | call (op : ParameterOp)
  | enqueue (position : Nat)
  | notifyOne (position : Nat)
  | dropArgument (position : Nat)
  | lock
  | check
  | wake
  /-- The handler up to its next call into the backend, which returns or throws. -/
  | handle (returns : Bool)
  | endIteration
  | beginStop
  | drain
  | notifyAll
  | join
  | destroyDrained
  | returnStop

namespace OpQueueState

variable (σ : OpQueueState)

def initial : OpQueueState where
  issued := 0
  entering := []
  dropping := []
  notifying := []
  returned := []
  paramOpQueue := []
  paramOpShutdown := false
  worker := .locking
  stop := .notStarted
  destroyed := []
  requests := []
  responders := []
  answered := []
  dropped := []
  enqueued := []
  started := []
  abandoned := []
  applied := []
  reads := []

/-- The worker holds `_paramOpMutex`. -/
def workerHoldsMutex : Bool :=
  match σ.worker with
  | .checking => true
  | _ => false

/-- A notification wakes the worker, if it waits. -/
def notified : OpQueueState :=
  match σ.worker with
  | .waiting => { σ with worker := .woken }
  | _ => σ

/-- The destructor of an operation; a responder it still holds sends an error. -/
def destroy (call : Nat) : OpQueueState :=
  { σ with
    destroyed := σ.destroyed ++ [call]
    responders := σ.responders.erase call
    dropped := if call ∈ σ.responders then σ.dropped ++ [call] else σ.dropped }

/-- `respond`, which consumes the responder. -/
def respond (call : Nat) : OpQueueState :=
  { σ with
    responders := σ.responders.erase call
    answered := σ.answered ++ [call] }

/-- The end of a handler that has its answer, or not. -/
def finish (op : QueuedOp) (answers : Bool) : OpQueueState :=
  let σ := { σ with worker := .relocking op }
  if answers then σ.respond op.call else σ

/-- The handlers, up to their first call into the backend and what follows it. -/
def handle (op : QueuedOp) (returns : Bool) : OpQueueState :=
  match op.op with
  | .get _ => { σ with reads := σ.reads ++ [(op.call, σ.applied)] }.finish op returns
  | .set parameters =>
      if parameters.isEmpty then σ.finish op true
      else
        let σ := { σ with applied := σ.applied ++ [op.call] }
        if returns then { σ with worker := .echoing op } else σ.finish op false
  | .subscribe _ | .unsubscribe _ => σ.finish op false

/-- The worker looks at the flag and the queue, and waits, exits or takes an operation. -/
def check : OpQueueState :=
  match σ.paramOpQueue with
  | [] => { σ with worker := if σ.paramOpShutdown then .exited else .waiting }
  | op :: rest =>
      { σ with
        paramOpQueue := rest
        worker := .handling op
        started := σ.started ++ [op] }

def step : OpQueueAction → Option OpQueueState
  | .call op =>
      some { σ with
        issued := σ.issued + 1
        entering := σ.entering ++ [⟨σ.issued, op⟩]
        requests := if op.hasResponder then σ.requests ++ [σ.issued] else σ.requests
        responders := if op.hasResponder then σ.responders ++ [σ.issued] else σ.responders }
  | .enqueue position =>
      match σ.entering[position]? with
      | some op =>
          if σ.workerHoldsMutex then none
          else if σ.paramOpShutdown then
            some { σ with
              entering := σ.entering.eraseIdx position
              dropping := σ.dropping ++ [op] }
          else
            some { σ with
              entering := σ.entering.eraseIdx position
              notifying := σ.notifying ++ [op.call]
              paramOpQueue := σ.paramOpQueue ++ [op]
              enqueued := σ.enqueued ++ [op] }
      | none => none
  | .notifyOne position =>
      match σ.notifying[position]? with
      | some call =>
          some { σ.notified with
            notifying := σ.notifying.eraseIdx position
            returned := σ.returned ++ [call] }
      | none => none
  | .dropArgument position =>
      match σ.dropping[position]? with
      | some op =>
          some { σ.destroy op.call with
            dropping := σ.dropping.eraseIdx position
            returned := σ.returned ++ [op.call] }
      | none => none
  | .lock =>
      match σ.worker with
      | .locking | .woken => some { σ with worker := .checking }
      | _ => none
  | .check =>
      match σ.worker with
      | .checking => some σ.check
      | _ => none
  | .wake =>
      match σ.worker with
      | .waiting => some { σ with worker := .woken }
      | _ => none
  | .handle returns =>
      match σ.worker with
      | .handling op => some (σ.handle op returns)
      | .echoing op => some (σ.finish op returns)
      | _ => none
  | .endIteration =>
      match σ.worker with
      | .relocking op => some { σ.destroy op.call with worker := .checking }
      | _ => none
  | .beginStop =>
      match σ.stop with
      | .notStarted => some { σ with stop := .begun }
      | _ => none
  | .drain =>
      match σ.stop with
      | .begun =>
          if σ.workerHoldsMutex then none
          else
            some { σ with
              paramOpShutdown := true
              paramOpQueue := []
              stop := .notifying σ.paramOpQueue
              abandoned := σ.paramOpQueue }
      | _ => none
  | .notifyAll =>
      match σ.stop with
      | .notifying drained => some { σ.notified with stop := .joining drained }
      | _ => none
  | .join =>
      match σ.stop, σ.worker with
      | .joining drained, .exited => some { σ with stop := .destroying drained }
      | _, _ => none
  | .destroyDrained =>
      match σ.stop with
      | .destroying (op :: drained) =>
          some { σ.destroy op.call with stop := .destroying drained }
      | _ => none
  | .returnStop =>
      match σ.stop with
      | .destroying [] => some { σ with stop := .returned }
      | _ => none

end OpQueueState

def opQueueSystem : TSys OpQueueState OpQueueAction where
  init σ := σ = .initial
  step := OpQueueState.step

/-! ## The steps as rules -/

namespace OpQueueState

/-- One rule for each way a step can go. Where the worker or `stop` just moves on, the rule
keeps what the invariants ask for. -/
inductive Step (σ : OpQueueState) : OpQueueAction → OpQueueState → Prop
  | call (op : ParameterOp) :
      Step σ (.call op)
        { σ with
          issued := σ.issued + 1
          entering := σ.entering ++ [⟨σ.issued, op⟩]
          requests := if op.hasResponder then σ.requests ++ [σ.issued] else σ.requests
          responders := if op.hasResponder then σ.responders ++ [σ.issued] else σ.responders }
  | reject {position : Nat} {op : QueuedOp} : σ.entering[position]? = some op →
      Step σ (.enqueue position)
        { σ with
          entering := σ.entering.eraseIdx position
          dropping := σ.dropping ++ [op] }
  | push {position : Nat} {op : QueuedOp} : σ.entering[position]? = some op →
      σ.paramOpShutdown = false →
      Step σ (.enqueue position)
        { σ with
          entering := σ.entering.eraseIdx position
          notifying := σ.notifying ++ [op.call]
          paramOpQueue := σ.paramOpQueue ++ [op]
          enqueued := σ.enqueued ++ [op] }
  | notifyOne {position call : Nat} : σ.notifying[position]? = some call →
      Step σ (.notifyOne position)
        { σ.notified with
          notifying := σ.notifying.eraseIdx position
          returned := σ.returned ++ [call] }
  | dropArgument {position : Nat} {op : QueuedOp} : σ.dropping[position]? = some op →
      Step σ (.dropArgument position)
        { σ.destroy op.call with
          dropping := σ.dropping.eraseIdx position
          returned := σ.returned ++ [op.call] }
  | workerMoves {a : OpQueueAction} {worker : OpWorkerPc} : σ.worker.current = none →
      worker.current = none → σ.worker ≠ .exited →
      (worker = .exited → σ.paramOpShutdown = true) →
      (worker = .waiting → σ.paramOpQueue = [] ∧ σ.paramOpShutdown = false) →
      Step σ a { σ with worker := worker }
  | take {op : QueuedOp} {rest : List QueuedOp} : σ.worker = .checking →
      σ.paramOpQueue = op :: rest →
      Step σ .check
        { σ with
          paramOpQueue := rest
          worker := .handling op
          started := σ.started ++ [op] }
  | handle {op : QueuedOp} (returns : Bool) : σ.worker = .handling op →
      Step σ (.handle returns) (σ.handle op returns)
  | echo {op : QueuedOp} (returns : Bool) : σ.worker = .echoing op →
      Step σ (.handle returns) (σ.finish op returns)
  | endIteration {op : QueuedOp} : σ.worker = .relocking op →
      Step σ .endIteration { σ.destroy op.call with worker := .checking }
  | stopMoves {a : OpQueueAction} {stop : StopPhase} : σ.stop ≠ .returned →
      stop.drained = σ.stop.drained → stop.hasDrained = σ.stop.hasDrained →
      (stop.hasDrained = true → σ.stop.hasJoined = true ∨ σ.worker = .exited) →
      Step σ a { σ with stop := stop }
  | drain : σ.stop = .begun →
      Step σ .drain
        { σ with
          paramOpShutdown := true
          paramOpQueue := []
          stop := .notifying σ.paramOpQueue
          abandoned := σ.paramOpQueue }
  | notifyAll {drained : List QueuedOp} : σ.stop = .notifying drained →
      Step σ .notifyAll { σ.notified with stop := .joining drained }
  | destroyDrained {op : QueuedOp} {drained : List QueuedOp} :
      σ.stop = .destroying (op :: drained) →
      Step σ .destroyDrained { σ.destroy op.call with stop := .destroying drained }

theorem enqueue_rule {σ σ' : OpQueueState} {position : Nat}
    (hs : σ.step (.enqueue position) = some σ') : σ.Step (.enqueue position) σ' := by
  simp only [step] at hs
  split at hs
  · split at hs
    · cases hs
    · split at hs <;> obtain rfl := Option.some.inj hs
      · exact .reject ‹_›
      · exact .push ‹_› (Bool.eq_false_iff.mpr ‹_›)
  · cases hs

theorem check_rule {σ σ' : OpQueueState} (hs : σ.step .check = some σ') : σ.Step .check σ' := by
  simp only [step] at hs
  split at hs
  · rename_i hchecking
    obtain rfl := Option.some.inj hs
    have hfree : σ.worker.current = none := by rw [hchecking]; rfl
    have hgone : σ.worker ≠ .exited := by rw [hchecking]; nofun
    unfold check
    split
    · rename_i hempty
      by_cases hdown : σ.paramOpShutdown = true
      · rw [if_pos hdown]
        exact .workerMoves hfree rfl hgone (fun _ => hdown) nofun
      · rw [if_neg hdown]
        exact .workerMoves hfree rfl hgone nofun fun _ => ⟨hempty, Bool.eq_false_iff.mpr hdown⟩
    · exact .take hchecking ‹_›
  · cases hs

theorem step_rule {σ σ' : OpQueueState} {a : OpQueueAction} (hs : σ.step a = some σ') :
    σ.Step a σ' := by
  cases a with
  | call op =>
      obtain rfl := Option.some.inj hs
      exact .call op
  | enqueue position => exact enqueue_rule hs
  | check => exact check_rule hs
  | notifyOne position | dropArgument position | endIteration | destroyDrained | notifyAll =>
      simp only [step] at hs
      split at hs
      · obtain rfl := Option.some.inj hs
        constructor
        assumption
      · cases hs
  | lock =>
      simp only [step] at hs
      split at hs
      · rename_i hlocking
        obtain rfl := Option.some.inj hs
        exact .workerMoves (by rw [hlocking]; rfl) rfl (by rw [hlocking]; nofun) nofun nofun
      · rename_i hwoken
        obtain rfl := Option.some.inj hs
        exact .workerMoves (by rw [hwoken]; rfl) rfl (by rw [hwoken]; nofun) nofun nofun
      · cases hs
  | wake =>
      simp only [step] at hs
      split at hs
      · rename_i hwaiting
        obtain rfl := Option.some.inj hs
        exact .workerMoves (by rw [hwaiting]; rfl) rfl (by rw [hwaiting]; nofun) nofun nofun
      · cases hs
  | handle returns =>
      simp only [step] at hs
      split at hs
      · obtain rfl := Option.some.inj hs
        exact .handle returns ‹_›
      · obtain rfl := Option.some.inj hs
        exact .echo returns ‹_›
      · cases hs
  | drain =>
      simp only [step] at hs
      split at hs
      · split at hs
        · cases hs
        · obtain rfl := Option.some.inj hs
          exact .drain ‹_›
      · cases hs
  | beginStop =>
      simp only [step] at hs
      split at hs
      · rename_i hstop
        obtain rfl := Option.some.inj hs
        exact .stopMoves (by rw [hstop]; nofun) (by rw [hstop]; rfl) (by rw [hstop]; rfl) nofun
      · cases hs
  | join =>
      simp only [step] at hs
      split at hs
      · rename_i hstop hexited
        obtain rfl := Option.some.inj hs
        exact .stopMoves (by rw [hstop]; nofun) (by rw [hstop]; rfl) (by rw [hstop]; rfl)
          fun _ => .inr hexited
      · cases hs
  | returnStop =>
      simp only [step] at hs
      split at hs
      · rename_i hstop
        obtain rfl := Option.some.inj hs
        exact .stopMoves (by rw [hstop]; nofun) (by rw [hstop]; rfl) (by rw [hstop]; rfl)
          fun _ => .inl (by rw [hstop]; rfl)
      · cases hs

end OpQueueState

/-! ## Owners -/

namespace OpQueueState

/-- Where the call with this number is: there should be one place. -/
def stages (σ : OpQueueState) (i : Nat) : Nat :=
  (σ.entering.map QueuedOp.call).count i + (σ.dropping.map QueuedOp.call).count i +
    σ.notifying.count i + σ.returned.count i

/-- Who owns the operation of this call: there should be one owner, or it is destroyed. -/
def owners (σ : OpQueueState) (i : Nat) : Nat :=
  (σ.entering.map QueuedOp.call).count i + (σ.dropping.map QueuedOp.call).count i +
    (σ.paramOpQueue.map QueuedOp.call).count i + (σ.stop.drained.map QueuedOp.call).count i +
    (σ.worker.current.toList.map QueuedOp.call).count i + σ.destroyed.count i

/-- Each call is at one stage, and its operation has one owner. -/
structure Owned (σ : OpQueueState) : Prop where
  stages : ∀ i, σ.stages i = if i < σ.issued then 1 else 0
  owners : ∀ i, σ.owners i = if i < σ.issued then 1 else 0

variable {σ : OpQueueState}

/-- A notification touches the worker only. -/
theorem notified_eq (σ : OpQueueState) : ∃ worker, σ.notified = { σ with worker := worker } := by
  unfold notified
  split
  · exact ⟨.woken, rfl⟩
  · exact ⟨σ.worker, rfl⟩

namespace Owned

/-- The worker goes on with the operation it has. -/
theorem move (h : σ.Owned) {worker : OpWorkerPc} (hcurrent : worker.current = σ.worker.current) :
    Owned { σ with worker := worker } := by
  refine ⟨h.stages, fun i => ?_⟩
  rw [← h.owners i]
  simp only [OpQueueState.owners, hcurrent]

/-- A call begins, and owns its operation. -/
theorem call (h : σ.Owned) (op : ParameterOp) {requests responders : List Nat} :
    Owned { σ with
      issued := σ.issued + 1
      entering := σ.entering ++ [⟨σ.issued, op⟩]
      requests := requests
      responders := responders } := by
  have hnew : ∀ i, [σ.issued].count i + (if i < σ.issued then 1 else 0) =
      if i < σ.issued + 1 then 1 else 0 := by
    intro i
    rw [List.count_singleton]
    by_cases heq : σ.issued = i
    · subst heq
      simp
    · have hlt : i < σ.issued + 1 ↔ i < σ.issued := by omega
      simp [heq, hlt]
  constructor
  · intro i
    have hbefore := h.stages i
    have hnew := hnew i
    simp only [OpQueueState.stages, List.map_append, List.count_append, List.map_cons,
      List.map_nil] at hbefore ⊢
    omega
  · intro i
    have hbefore := h.owners i
    have hnew := hnew i
    simp only [OpQueueState.owners, List.map_append, List.count_append, List.map_cons,
      List.map_nil] at hbefore ⊢
    omega

/-- A step that creates no call moves what there is. -/
theorem of_counts (h : σ.Owned) {σ' : OpQueueState} (hissued : σ'.issued = σ.issued)
    (hstages : ∀ i, σ'.stages i = σ.stages i) (howners : ∀ i, σ'.owners i = σ.owners i) :
    σ'.Owned :=
  ⟨fun i => by rw [hstages, hissued, h.stages], fun i => by rw [howners, hissued, h.owners]⟩

/-- The locked section of a call that finds the flag up. -/
theorem reject (h : σ.Owned) {position : Nat} {op : QueuedOp}
    (hop : σ.entering[position]? = some op) :
    Owned { σ with
      entering := σ.entering.eraseIdx position
      dropping := σ.dropping ++ [op] } := by
  have hmoved := List.count_map_eraseIdx hop QueuedOp.call
  refine h.of_counts rfl (fun i => ?_) (fun i => ?_)
  · have hmoved := hmoved i
    simp only [OpQueueState.stages, List.map_append, List.count_append, List.map_cons,
      List.map_nil]
    omega
  · have hmoved := hmoved i
    simp only [OpQueueState.owners, List.map_append, List.count_append, List.map_cons,
      List.map_nil]
    omega

/-- The locked section of a call that queues its operation. -/
theorem push (h : σ.Owned) {position : Nat} {op : QueuedOp}
    (hop : σ.entering[position]? = some op) {enqueued : List QueuedOp} :
    Owned { σ with
      entering := σ.entering.eraseIdx position
      notifying := σ.notifying ++ [op.call]
      paramOpQueue := σ.paramOpQueue ++ [op]
      enqueued := enqueued } := by
  have hmoved := List.count_map_eraseIdx hop QueuedOp.call
  refine h.of_counts rfl (fun i => ?_) (fun i => ?_)
  · have hmoved := hmoved i
    simp only [OpQueueState.stages, List.count_append]
    omega
  · have hmoved := hmoved i
    simp only [OpQueueState.owners, List.map_append, List.count_append, List.map_cons,
      List.map_nil]
    omega

theorem returns (h : σ.Owned) {position call : Nat}
    (hcall : σ.notifying[position]? = some call) :
    Owned { σ with
      notifying := σ.notifying.eraseIdx position
      returned := σ.returned ++ [call] } := by
  have hmoved := List.count_map_eraseIdx hcall id
  refine h.of_counts rfl (fun i => ?_) (fun i => rfl)
  have hmoved := hmoved i
  simp only [List.map_id, id_eq] at hmoved
  simp only [OpQueueState.stages, List.count_append]
  omega

/-- A call that owns its operation returns, and destroys it. -/
theorem dropArgument (h : σ.Owned) {position : Nat} {op : QueuedOp}
    (hop : σ.dropping[position]? = some op) :
    Owned { σ.destroy op.call with
      dropping := σ.dropping.eraseIdx position
      returned := σ.returned ++ [op.call] } := by
  have hmoved := List.count_map_eraseIdx hop QueuedOp.call
  refine h.of_counts rfl (fun i => ?_) (fun i => ?_)
  · have hmoved := hmoved i
    simp only [OpQueueState.stages, OpQueueState.destroy, List.count_append]
    omega
  · have hmoved := hmoved i
    simp only [OpQueueState.owners, OpQueueState.destroy, List.count_append]
    omega

/-- The worker takes the first operation of the queue. -/
theorem take (h : σ.Owned) {op : QueuedOp} {rest : List QueuedOp}
    (hqueue : σ.paramOpQueue = op :: rest) (hfree : σ.worker.current = none)
    {started : List QueuedOp} :
    Owned { σ with paramOpQueue := rest, worker := .handling op, started := started } := by
  have htaken : (OpWorkerPc.handling op).current = some op := rfl
  refine h.of_counts rfl (fun i => rfl) (fun i => ?_)
  simp only [OpQueueState.owners, hqueue, hfree, htaken, Option.toList_some, Option.toList_none,
    List.map_cons, List.map_nil, List.count_nil, List.count_cons (l := rest.map QueuedOp.call),
    List.count_singleton]
  omega

/-- The worker has the mutex again, and its operation dies. -/
theorem endIteration (h : σ.Owned) {op : QueuedOp} (hop : σ.worker = .relocking op) :
    Owned { σ.destroy op.call with worker := .checking } := by
  refine h.of_counts rfl (fun i => rfl) (fun i => ?_)
  simp only [OpQueueState.owners, OpQueueState.destroy, hop, OpWorkerPc.current,
    Option.toList_some, Option.toList_none, List.map_cons, List.map_nil, List.count_nil,
    List.count_append]
  omega

/-- `stop` takes what is in the queue. -/
theorem drain (h : σ.Owned) (hstop : σ.stop.drained = []) {abandoned : List QueuedOp} :
    Owned { σ with
      paramOpShutdown := true
      paramOpQueue := []
      stop := .notifying σ.paramOpQueue
      abandoned := abandoned } := by
  have hdrained : (StopPhase.notifying σ.paramOpQueue).drained = σ.paramOpQueue := rfl
  refine h.of_counts rfl (fun i => rfl) (fun i => ?_)
  simp only [OpQueueState.owners, hstop, hdrained, List.map_nil, List.count_nil]
  omega

/-- `stop` goes on with what it took. -/
theorem stopMoves (h : σ.Owned) {stop : StopPhase} (hdrained : stop.drained = σ.stop.drained) :
    Owned { σ with stop := stop } := by
  refine h.of_counts rfl (fun i => rfl) (fun i => ?_)
  simp only [OpQueueState.owners, hdrained]

theorem destroyDrained (h : σ.Owned) {op : QueuedOp} {drained : List QueuedOp}
    (hstop : σ.stop = .destroying (op :: drained)) :
    Owned { σ.destroy op.call with stop := .destroying drained } := by
  refine h.of_counts rfl (fun i => rfl) (fun i => ?_)
  simp only [OpQueueState.owners, OpQueueState.destroy, hstop, StopPhase.drained, List.map_cons,
    List.count_cons (l := drained.map QueuedOp.call), List.count_append, List.count_singleton]
  omega

end Owned

/-! ## Responders -/

/-- The operations on their way to their handler, or in it. -/
def holders (σ : OpQueueState) : List QueuedOp :=
  σ.entering ++ σ.dropping ++ σ.paramOpQueue ++ σ.stop.drained ++ σ.worker.running.toList

/-- The operation whose handler is running is in the worker's hands. -/
theorem running_current {worker : OpWorkerPc} {q : QueuedOp} (h : q ∈ worker.running) :
    worker.current = some q := by
  cases worker <;> first | exact h | cases h

theorem count_of_mem {l : List QueuedOp} {q : QueuedOp} (h : q ∈ l) :
    1 ≤ (l.map QueuedOp.call).count q.call :=
  List.count_pos_iff.mpr (List.mem_map_of_mem h)

theorem mem_holders {q : QueuedOp} : q ∈ σ.holders ↔ q ∈ σ.entering ∨ q ∈ σ.dropping ∨
    q ∈ σ.paramOpQueue ∨ q ∈ σ.stop.drained ∨ q ∈ σ.worker.running := by
  simp only [holders, List.mem_append, Option.mem_toList, or_assoc, Option.mem_def]

/-- Those operations are counted among the owned ones, apart from the destroyed ones. -/
theorem count_holders (σ : OpQueueState) (i : Nat) :
    (σ.holders.map QueuedOp.call).count i + σ.destroyed.count i ≤ σ.owners i := by
  have hrunning : (σ.worker.running.toList.map QueuedOp.call).count i ≤
      (σ.worker.current.toList.map QueuedOp.call).count i := by
    cases σ.worker <;> first | exact Nat.le_refl _ | exact Nat.zero_le _
  simp only [holders, owners, List.map_append, List.count_append]
  omega

theorem Owned.owners_le (h : σ.Owned) (i : Nat) : σ.owners i ≤ 1 := by
  rw [h.owners i]
  split <;> omega

/-- An operation with an owner is not destroyed. -/
theorem Owned.not_destroyed (h : σ.Owned) {q : QueuedOp} (hq : q ∈ σ.holders) :
    q.call ∉ σ.destroyed := by
  intro hdestroyed
  have hcount : 1 ≤ σ.destroyed.count q.call := List.count_pos_iff.mpr hdestroyed
  have hheld := count_of_mem hq
  have hall := σ.count_holders q.call
  have hle := h.owners_le q.call
  omega

/-- No two operations have one number. -/
theorem Owned.ne_relocking (h : σ.Owned) {op q : QueuedOp} (hop : σ.worker = .relocking op)
    (hq : q ∈ σ.holders) : q.call ≠ op.call := by
  intro heq
  have hle := h.owners_le q.call
  have hheld := count_of_mem hq
  have hcurrent : 1 ≤ (σ.worker.current.toList.map QueuedOp.call).count q.call := by
    rw [hop, heq]
    exact count_of_mem (List.mem_singleton_self op)
  have hrunning : σ.worker.running = none := by
    rw [hop]
    rfl
  simp only [holders, hrunning, Option.toList_none, List.append_nil, List.map_append,
    List.count_append] at hheld
  unfold OpQueueState.owners at hle
  omega

/-- The responder of each request is held by its operation, answered or dropped. -/
structure Answerable (σ : OpQueueState) : Prop where
  requests : ∀ i, σ.responders.count i + σ.answered.count i + σ.dropped.count i =
    σ.requests.count i
  once : ∀ i, σ.requests.count i ≤ 1
  issued : ∀ i ∈ σ.requests, i < σ.issued
  holders : ∀ q ∈ σ.holders, q.op.hasResponder = true → q.call ∈ σ.responders
  destroyed : ∀ i ∈ σ.destroyed, i ∉ σ.responders

namespace Answerable

/-- Nothing is answered or destroyed. -/
theorem mono (h : σ.Answerable) {σ' : OpQueueState} (hrequests : σ'.requests = σ.requests)
    (hresponders : σ'.responders = σ.responders) (hanswered : σ'.answered = σ.answered)
    (hdropped : σ'.dropped = σ.dropped) (hdestroyed : σ'.destroyed = σ.destroyed)
    (hissued : σ'.issued = σ.issued) (hholders : ∀ q ∈ σ'.holders, q ∈ σ.holders) :
    σ'.Answerable := by
  refine ⟨?_, ?_, ?_, ?_, ?_⟩
  · intro i
    rw [hresponders, hanswered, hdropped, hrequests]
    exact h.requests i
  · intro i
    rw [hrequests]
    exact h.once i
  · intro i hi
    rw [hissued]
    exact h.issued i (hrequests ▸ hi)
  · intro q hq hresponder
    rw [hresponders]
    exact h.holders q (hholders q hq) hresponder
  · intro i hi
    rw [hresponders]
    exact h.destroyed i (hdestroyed ▸ hi)

/-- A new call may bring a responder. -/
theorem call (h : σ.Answerable) (howned : σ.Owned) (op : ParameterOp) :
    Answerable { σ with
      issued := σ.issued + 1
      entering := σ.entering ++ [⟨σ.issued, op⟩]
      requests := if op.hasResponder then σ.requests ++ [σ.issued] else σ.requests
      responders := if op.hasResponder then σ.responders ++ [σ.issued] else σ.responders } := by
  have hnew : σ.requests.count σ.issued = 0 :=
    List.count_eq_zero.mpr fun hmem => Nat.lt_irrefl _ (h.issued _ hmem)
  refine ⟨?_, ?_, ?_, ?_, ?_⟩
  · intro i
    have hbefore := h.requests i
    show (if op.hasResponder then σ.responders ++ [σ.issued] else σ.responders).count i +
      σ.answered.count i + σ.dropped.count i =
        (if op.hasResponder then σ.requests ++ [σ.issued] else σ.requests).count i
    split
    · rw [List.count_append, List.count_append]
      omega
    · exact hbefore
  · intro i
    have hbefore := h.once i
    show (if op.hasResponder then σ.requests ++ [σ.issued] else σ.requests).count i ≤ 1
    split
    · rw [List.count_append, List.count_singleton]
      split
      · rename_i heq
        obtain rfl : σ.issued = i := by simpa using heq
        omega
      · exact hbefore
    · exact hbefore
  · intro i hi
    show i < σ.issued + 1
    rcases List.mem_ite_append_singleton.mp hi with hold | ⟨-, rfl⟩
    · have hlt := h.issued i hold
      omega
    · omega
  · intro q hq hresponder
    rcases mem_holders.mp hq with hentering | hrest
    · rcases List.mem_append.mp hentering with hold | hlast
      · have hheld := h.holders q (mem_holders.mpr (.inl hold)) hresponder
        exact List.mem_ite_append_singleton.mpr (.inl hheld)
      · obtain rfl := List.mem_singleton.mp hlast
        exact List.mem_ite_append_singleton.mpr (.inr ⟨hresponder, rfl⟩)
    · have hheld := h.holders q (mem_holders.mpr (.inr hrest)) hresponder
      exact List.mem_ite_append_singleton.mpr (.inl hheld)
  · intro i hi hheld
    rcases List.mem_ite_append_singleton.mp hheld with hold | ⟨-, rfl⟩
    · exact h.destroyed i hi hold
    · -- the new number is not that of a destroyed operation
      have hcount : 1 ≤ σ.destroyed.count σ.issued := List.count_pos_iff.mpr hi
      have howners := howned.owners σ.issued
      simp only [OpQueueState.owners, Nat.lt_irrefl, if_false] at howners
      omega

/-- A handler answers. -/
theorem respond (h : σ.Answerable) {op : QueuedOp} {σ' : OpQueueState}
    (hrunning : op ∈ σ.worker.running) (hresponder : op.op.hasResponder = true)
    (hσ' : σ' = { σ with worker := .relocking op }.respond op.call) (howned : σ'.Owned) :
    σ'.Answerable := by
  subst hσ'
  have hheld : op.call ∈ σ.responders := by
    refine h.holders op ?_ hresponder
    exact List.mem_append_right _ (Option.mem_toList.mpr hrunning)
  refine ⟨?_, h.once, h.issued, ?_, ?_⟩
  · intro i
    have hbefore := h.requests i
    have herased := List.count_erase_add hheld i
    simp only [OpQueueState.respond, List.count_append]
    omega
  · intro q hq hq'
    have hne := howned.ne_relocking rfl hq
    refine (List.mem_erase_of_ne hne).mpr (h.holders q ?_ hq')
    simp only [OpQueueState.holders, OpQueueState.respond, List.mem_append] at hq ⊢
    exact hq.imp_right nofun
  · intro i hi hmem
    exact h.destroyed i hi (List.mem_of_mem_erase hmem)

/-- An operation dies, with the responder if it still holds it. -/
theorem destroy (h : σ.Answerable) {call : Nat} {σ' : OpQueueState}
    (hrequests : σ'.requests = σ.requests) (hresponders : σ'.responders = σ.responders.erase call)
    (hanswered : σ'.answered = σ.answered)
    (hdropped : σ'.dropped = if call ∈ σ.responders then σ.dropped ++ [call] else σ.dropped)
    (hdestroyed : σ'.destroyed = σ.destroyed ++ [call]) (hissued : σ'.issued = σ.issued)
    (hholders : ∀ q ∈ σ'.holders, q ∈ σ.holders) (howned : σ'.Owned) : σ'.Answerable := by
  have hcount : ∀ i, (σ.responders.erase call).count i + σ.answered.count i +
      (if call ∈ σ.responders then σ.dropped ++ [call] else σ.dropped).count i =
        σ.requests.count i := by
    intro i
    have hbefore := h.requests i
    split
    · rename_i hheld
      have herased := List.count_erase_add hheld i
      rw [List.count_append]
      omega
    · rename_i hnot
      rw [List.erase_of_not_mem hnot]
      exact hbefore
  refine ⟨?_, ?_, ?_, ?_, ?_⟩
  · intro i
    rw [hresponders, hanswered, hdropped, hrequests]
    exact hcount i
  · intro i
    rw [hrequests]
    exact h.once i
  · intro i hi
    rw [hissued]
    exact h.issued i (hrequests ▸ hi)
  · intro q hq hresponder
    have hne : q.call ≠ call := by
      intro heq
      apply howned.not_destroyed hq
      rw [hdestroyed, heq]
      exact List.mem_append_right _ (List.mem_singleton_self _)
    rw [hresponders]
    exact (List.mem_erase_of_ne hne).mpr (h.holders q (hholders q hq) hresponder)
  · intro i hi
    rw [hresponders]
    rw [hdestroyed] at hi
    rcases List.mem_append.mp hi with hold | hlast
    · exact fun hmem => h.destroyed i hold (List.mem_of_mem_erase hmem)
    · obtain rfl := List.mem_singleton.mp hlast
      intro hmem
      -- a responder is there once, so none is left
      have hone := h.requests i
      have hle := h.once i
      have hleft : 1 ≤ (σ.responders.erase i).count i := List.count_pos_iff.mpr hmem
      have herased := List.count_erase_add (List.mem_of_mem_erase hmem) i
      rw [List.count_singleton_self] at herased
      omega

end Answerable

/-! ## Order -/

/-- The sets among these operations. -/
def setsOf (ops : List QueuedOp) : List Nat :=
  (ops.filter fun q => q.op.sets).map QueuedOp.call

/-- Operations are taken in the order they came, and none is forgotten. -/
structure Ordered (σ : OpQueueState) : Prop where
  enqueued : σ.enqueued = σ.started ++ σ.paramOpQueue ++ σ.abandoned
  nodup : (σ.enqueued.map QueuedOp.call).Nodup
  flag : σ.paramOpShutdown = σ.stop.hasDrained
  queue : σ.paramOpShutdown = true → σ.paramOpQueue = []
  abandoned : σ.paramOpShutdown = false → σ.abandoned = []
  exited : σ.worker = .exited → σ.paramOpShutdown = true
  joined : σ.stop.hasJoined = true → σ.worker = .exited
  current : ∀ q, σ.worker.current = some q → ∃ before, σ.started = before ++ [q]
  started : ∀ q ∈ σ.started, σ.worker.current = some q ∨ q.call ∈ σ.destroyed
  drained : ∀ q ∈ σ.abandoned, q ∈ σ.stop.drained ∨ q.call ∈ σ.destroyed
  /-- A set is applied when its handler has made its first call. -/
  applied : (∀ q, σ.worker ≠ .handling q) → σ.applied = setsOf σ.started
  applying : ∀ q before, σ.worker = .handling q → σ.started = before ++ [q] →
    σ.applied = setsOf before
  /-- A get runs against the sets that came before it. -/
  reads : ∀ read ∈ σ.reads, ∃ before q, before ++ [q] <+: σ.enqueued ∧ q.call = read.1 ∧
    read.2 = setsOf before

namespace Ordered

/-- The worker goes on without an operation. -/
theorem move (h : σ.Ordered) {worker : OpWorkerPc} (hbefore : σ.worker.current = none)
    (hafter : worker.current = none) (hgone : σ.worker ≠ .exited)
    (hexited : worker = .exited → σ.paramOpShutdown = true) :
    Ordered { σ with worker := worker } where
  enqueued := h.enqueued
  nodup := h.nodup
  flag := h.flag
  queue := h.queue
  abandoned := h.abandoned
  exited := hexited
  joined hjoined := absurd (h.joined hjoined) hgone
  current q hq := by
    rw [show worker.current = some q from hq] at hafter
    cases hafter
  started q hq := by
    have hdone := h.started q hq
    rw [hbefore] at hdone
    exact .inr (hdone.resolve_left nofun)
  drained := h.drained
  applied _ := by
    apply h.applied
    intro q hq
    rw [hq] at hbefore
    cases hbefore
  applying q before hq _ := by
    rw [show worker = .handling q from hq] at hafter
    cases hafter
  reads := h.reads

theorem notified (h : σ.Ordered) : σ.notified.Ordered := by
  unfold OpQueueState.notified
  split
  · rename_i hwaiting
    exact h.move (by rw [hwaiting]; rfl) rfl (by rw [hwaiting]; nofun) nofun
  · exact h

/-- What only the calls see. -/
theorem callMoves (h : σ.Ordered) {issued : Nat} {entering dropping : List QueuedOp}
    {notifying returned requests responders answered dropped : List Nat} :
    Ordered { σ with
      issued := issued
      entering := entering
      dropping := dropping
      notifying := notifying
      returned := returned
      requests := requests
      responders := responders
      answered := answered
      dropped := dropped } :=
  ⟨h.enqueued, h.nodup, h.flag, h.queue, h.abandoned, h.exited, h.joined, h.current, h.started,
    h.drained, h.applied, h.applying, h.reads⟩

/-- One more operation is destroyed. -/
theorem destroyed (h : σ.Ordered) (call : Nat) :
    Ordered { σ with destroyed := σ.destroyed ++ [call] } :=
  ⟨h.enqueued, h.nodup, h.flag, h.queue, h.abandoned, h.exited, h.joined, h.current,
    fun q hq => (h.started q hq).imp_right (List.mem_append_left _),
    fun q hq => (h.drained q hq).imp_right (List.mem_append_left _),
    h.applied, h.applying, h.reads⟩

/-- A call queues its operation, which has not been queued before. -/
theorem push (h : σ.Ordered) (howned : σ.Owned) {op : QueuedOp} (hop : op ∈ σ.entering)
    (hup : σ.paramOpShutdown = false) {entering : List QueuedOp} {notifying : List Nat} :
    Ordered { σ with
      entering := entering
      notifying := notifying
      paramOpQueue := σ.paramOpQueue ++ [op]
      enqueued := σ.enqueued ++ [op] } := by
  have hnone := h.abandoned hup
  have hnew : op.call ∉ σ.enqueued.map QueuedOp.call := by
    intro hmem
    obtain ⟨q, hq, heq⟩ := List.mem_map.mp hmem
    have hle := howned.owners_le op.call
    have hentering := count_of_mem hop
    unfold OpQueueState.owners at hle
    rw [h.enqueued, hnone, List.append_nil] at hq
    rcases List.mem_append.mp hq with hstarted | hqueued
    · rcases h.started q hstarted with hcurrent | hdestroyed
      · have hcount := count_of_mem (Option.mem_toList.mpr hcurrent)
        rw [heq] at hcount
        omega
      · have hcount : 1 ≤ σ.destroyed.count q.call := List.count_pos_iff.mpr hdestroyed
        rw [heq] at hcount
        omega
    · have hcount := count_of_mem hqueued
      rw [heq] at hcount
      omega
  refine ⟨?_, ?_, h.flag, ?_, h.abandoned, h.exited, h.joined, h.current, h.started,
    h.drained, h.applied, h.applying, ?_⟩
  · show σ.enqueued ++ [op] = σ.started ++ (σ.paramOpQueue ++ [op]) ++ σ.abandoned
    rw [h.enqueued, hnone]
    simp
  · show ((σ.enqueued ++ [op]).map QueuedOp.call).Nodup
    rw [List.map_append]
    exact List.nodup_append_singleton h.nodup hnew
  · intro hdown
    rw [hup] at hdown
    cases hdown
  · intro read hread
    obtain ⟨before, q, hinitial, hread⟩ := h.reads read hread
    exact ⟨before, q, hinitial.trans (List.prefix_append _ _), hread⟩

/-- The worker takes the first operation of the queue. -/
theorem take (h : σ.Ordered) {op : QueuedOp} {rest : List QueuedOp}
    (hqueue : σ.paramOpQueue = op :: rest) (hworker : σ.worker = .checking) :
    Ordered { σ with
      paramOpQueue := rest
      worker := .handling op
      started := σ.started ++ [op] } := by
  have hdone : ∀ q ∈ σ.started, q.call ∈ σ.destroyed := by
    intro q hq
    have hdone := h.started q hq
    rw [hworker] at hdone
    exact hdone.resolve_left nofun
  refine ⟨?_, h.nodup, h.flag, ?_, h.abandoned, nofun, ?_, ?_,
    ?_, h.drained, fun hnot => absurd rfl (hnot op), ?_, h.reads⟩
  · show σ.enqueued = σ.started ++ [op] ++ rest ++ σ.abandoned
    rw [h.enqueued, hqueue]
    simp
  · intro hdown
    have hempty := h.queue hdown
    rw [hqueue] at hempty
    cases hempty
  · intro hjoined
    have hexited := h.joined hjoined
    rw [hworker] at hexited
    cases hexited
  · intro q hq
    obtain rfl := Option.some.inj hq
    exact ⟨σ.started, rfl⟩
  · intro q hq
    rcases List.mem_append.mp hq with hold | hlast
    · exact .inr (hdone q hold)
    · obtain rfl := List.mem_singleton.mp hlast
      exact .inl rfl
  · intro q before _ hstarted
    obtain ⟨rfl, -⟩ := List.append_inj' hstarted rfl
    apply h.applied
    intro q hq
    rw [hworker] at hq
    cases hq

/-- The handler goes on, and has done what a set does. -/
theorem handled (h : σ.Ordered) {op : QueuedOp} (hop : σ.worker.current = some op)
    {worker : OpWorkerPc} (hcurrent : worker.current = some op)
    (hworker : ∀ q, worker ≠ .handling q) {applied : List Nat} {reads : List (Nat × List Nat)}
    (happlied : applied = setsOf σ.started)
    (hreads : ∀ read ∈ reads, ∃ before q, before ++ [q] <+: σ.enqueued ∧ q.call = read.1 ∧
      read.2 = setsOf before) :
    Ordered { σ with worker := worker, applied := applied, reads := reads } where
  enqueued := h.enqueued
  nodup := h.nodup
  flag := h.flag
  queue := h.queue
  abandoned := h.abandoned
  exited hexited := by
    rw [show worker = .exited from hexited] at hcurrent
    cases hcurrent
  joined hjoined := by
    rw [h.joined hjoined] at hop
    cases hop
  current q hq := h.current q (hop.trans (hcurrent.symm.trans hq))
  started q hq := (h.started q hq).imp_left fun hcur => hcurrent.trans (hop.symm.trans hcur)
  drained := h.drained
  applied _ := happlied
  applying q before hq := absurd hq (hworker q)
  reads := hreads

/-- The first call of a handler, if it is not a set that makes one. -/
theorem finish (h : σ.Ordered) {op : QueuedOp} (hop : σ.worker = .handling op)
    (hsets : op.op.sets = false) :
    Ordered { σ with worker := .relocking op } ∧
      Ordered { σ with
        worker := .relocking op
        reads := σ.reads ++ [(op.call, σ.applied)] } := by
  have hcurrent : σ.worker.current = some op := by rw [hop]; rfl
  obtain ⟨before, hstarted⟩ := h.current op hcurrent
  have hbefore := h.applying op before hop hstarted
  have happlied : σ.applied = setsOf σ.started := by
    rw [hbefore, hstarted, setsOf, setsOf, List.filter_append]
    simp [hsets]
  refine ⟨h.handled hcurrent rfl (by nofun) happlied h.reads,
    h.handled hcurrent rfl (by nofun) happlied fun read hread => ?_⟩
  rcases List.mem_append.mp hread with hold | hlast
  · exact h.reads read hold
  · obtain rfl := List.mem_singleton.mp hlast
    refine ⟨before, op, ?_, rfl, hbefore⟩
    rw [h.enqueued, hstarted, List.append_assoc]
    exact List.prefix_append _ _

/-- A set calls `setParams`. -/
theorem apply (h : σ.Ordered) {op : QueuedOp} (hop : σ.worker = .handling op)
    (hsets : op.op.sets = true) {worker : OpWorkerPc} (hcurrent : worker.current = some op)
    (hworker : ∀ q, worker ≠ .handling q) :
    Ordered { σ with worker := worker, applied := σ.applied ++ [op.call] } := by
  have hbefore : σ.worker.current = some op := by rw [hop]; rfl
  obtain ⟨before, hstarted⟩ := h.current op hbefore
  refine h.handled hbefore hcurrent hworker ?_ h.reads
  rw [h.applying op before hop hstarted, hstarted, setsOf, setsOf, List.filter_append]
  simp [hsets]

/-- The worker drops the operation it is done with. -/
theorem endIteration (h : σ.Ordered) {op : QueuedOp} (hop : σ.worker = .relocking op) :
    Ordered { σ with worker := .checking, destroyed := σ.destroyed ++ [op.call] } where
  enqueued := h.enqueued
  nodup := h.nodup
  flag := h.flag
  queue := h.queue
  abandoned := h.abandoned
  exited := nofun
  joined hjoined := by
    rw [h.joined hjoined] at hop
    cases hop
  current _ := nofun
  started q hq := by
    refine .inr ?_
    rcases h.started q hq with hcurrent | hdestroyed
    · rw [hop] at hcurrent
      obtain rfl := Option.some.inj hcurrent
      exact List.mem_append_right _ (List.mem_singleton_self _)
    · exact List.mem_append_left _ hdestroyed
  drained q hq := (h.drained q hq).imp_right (List.mem_append_left _)
  applied _ := h.applied fun q hq => by
    rw [hop] at hq
    cases hq
  applying _ _ := nofun
  reads := h.reads

/-- The locked section of `stop`. -/
theorem drain (h : σ.Ordered) (hstop : σ.stop = .begun) :
    Ordered { σ with
      paramOpShutdown := true
      paramOpQueue := []
      stop := .notifying σ.paramOpQueue
      abandoned := σ.paramOpQueue } := by
  have hup : σ.paramOpShutdown = false := by
    rw [h.flag, hstop]
    rfl
  refine ⟨?_, h.nodup, rfl, fun _ => rfl, nofun, fun _ => rfl, nofun, h.current, h.started,
    fun q hq => .inl hq, h.applied, h.applying, h.reads⟩
  show σ.enqueued = σ.started ++ [] ++ σ.paramOpQueue
  rw [h.enqueued, h.abandoned hup, List.append_nil, List.append_nil]

/-- `stop` goes on. -/
theorem stopMoves (h : σ.Ordered) {stop : StopPhase}
    (hflag : stop.hasDrained = σ.stop.hasDrained)
    (hjoined : stop.hasJoined = true → σ.worker = .exited)
    (hdrained : ∀ q ∈ σ.stop.drained, q ∈ stop.drained ∨ q.call ∈ σ.destroyed) :
    Ordered { σ with stop := stop } :=
  ⟨h.enqueued, h.nodup, h.flag.trans hflag.symm, h.queue, h.abandoned, h.exited, hjoined,
    h.current, h.started, fun q hq => (h.drained q hq).elim (hdrained q) .inr, h.applied,
    h.applying, h.reads⟩

end Ordered

/-! ## Steps and runs -/

/-- All three together. Only a set reads back. -/
structure Sound (σ : OpQueueState) : Prop where
  owned : σ.Owned
  answerable : σ.Answerable
  ordered : σ.Ordered
  echoing : ∀ op, σ.worker = .echoing op → op.op.hasResponder = true

namespace Sound

/-- The worker goes on without an operation. -/
theorem move (h : σ.Sound) {worker : OpWorkerPc} (hbefore : σ.worker.current = none)
    (hafter : worker.current = none) (hgone : σ.worker ≠ .exited)
    (hexited : worker = .exited → σ.paramOpShutdown = true) :
    Sound { σ with worker := worker } := by
  refine ⟨h.owned.move (hafter.trans hbefore.symm), ?_,
    h.ordered.move hbefore hafter hgone hexited, ?_⟩
  · refine h.answerable.mono rfl rfl rfl rfl rfl rfl fun q hq => ?_
    rcases List.mem_append.mp hq with hold | hrunning
    · exact List.mem_append_left _ hold
    · have hcurrent := running_current (Option.mem_toList.mp hrunning)
      rw [show OpWorkerPc.current worker = some q from hcurrent] at hafter
      cases hafter
  · intro op hop
    rw [show worker = .echoing op from hop] at hafter
    cases hafter

/-- The locked section of `enqueueParameterOp`. -/
theorem enqueue (h : σ.Sound) {position : Nat} {op : QueuedOp}
    (hop : σ.entering[position]? = some op) :
    Sound { σ with
        entering := σ.entering.eraseIdx position
        dropping := σ.dropping ++ [op] } ∧
      (σ.paramOpShutdown = false →
        Sound { σ with
          entering := σ.entering.eraseIdx position
          notifying := σ.notifying ++ [op.call]
          paramOpQueue := σ.paramOpQueue ++ [op]
          enqueued := σ.enqueued ++ [op] }) := by
  have hmem := List.mem_of_getElem? hop
  constructor
  · refine ⟨h.owned.reject hop, ?_, h.ordered.callMoves, h.echoing⟩
    refine h.answerable.mono rfl rfl rfl rfl rfl rfl fun q hq => mem_holders.mpr ?_
    rcases mem_holders.mp hq with hentering | hdropping | hrest
    · exact .inl (List.mem_of_mem_eraseIdx hentering)
    · rcases List.mem_append.mp hdropping with hold | hlast
      · exact .inr (.inl hold)
      · obtain rfl := List.mem_singleton.mp hlast
        exact .inl hmem
    · exact .inr (.inr hrest)
  · intro hup
    refine ⟨h.owned.push hop, ?_, h.ordered.push h.owned hmem hup, h.echoing⟩
    refine h.answerable.mono rfl rfl rfl rfl rfl rfl fun q hq => mem_holders.mpr ?_
    rcases mem_holders.mp hq with hentering | hdropping | hqueue | hrest
    · exact .inl (List.mem_of_mem_eraseIdx hentering)
    · exact .inr (.inl hdropping)
    · rcases List.mem_append.mp hqueue with hold | hlast
      · exact .inr (.inr (.inl hold))
      · obtain rfl := List.mem_singleton.mp hlast
        exact .inl hmem
    · exact .inr (.inr (.inr hrest))

theorem notified (h : σ.Sound) : σ.notified.Sound := by
  unfold OpQueueState.notified
  split
  · rename_i hwaiting
    exact h.move (by rw [hwaiting]; rfl) rfl (by rw [hwaiting]; nofun) nofun
  · exact h

/-- A call returns, having notified the worker. -/
theorem returns (h : σ.Sound) {position call : Nat}
    (hcall : σ.notifying[position]? = some call) :
    Sound { σ with
      notifying := σ.notifying.eraseIdx position
      returned := σ.returned ++ [call] } :=
  ⟨h.owned.returns hcall, h.answerable.mono rfl rfl rfl rfl rfl rfl fun _ => id,
    h.ordered.callMoves, h.echoing⟩

/-- A call returns and destroys its operation. -/
theorem dropArgument (h : σ.Sound) {position : Nat} {op : QueuedOp}
    (hop : σ.dropping[position]? = some op) :
    Sound { σ.destroy op.call with
      dropping := σ.dropping.eraseIdx position
      returned := σ.returned ++ [op.call] } := by
  have howned := h.owned.dropArgument hop
  refine ⟨howned, ?_, (h.ordered.destroyed op.call).callMoves, h.echoing⟩
  refine h.answerable.destroy rfl rfl rfl rfl rfl rfl (fun q hq => mem_holders.mpr ?_) howned
  rcases mem_holders.mp hq with hentering | hdropping | hrest
  · exact .inl hentering
  · exact .inr (.inl (List.mem_of_mem_eraseIdx hdropping))
  · exact .inr (.inr hrest)

/-- The worker takes an operation from the queue. -/
theorem take (h : σ.Sound) {op : QueuedOp} {rest : List QueuedOp}
    (hqueue : σ.paramOpQueue = op :: rest) (hworker : σ.worker = .checking) :
    Sound { σ with
      paramOpQueue := rest
      worker := .handling op
      started := σ.started ++ [op] } := by
  refine ⟨h.owned.take hqueue (by rw [hworker]; rfl), ?_, h.ordered.take hqueue hworker, nofun⟩
  refine h.answerable.mono rfl rfl rfl rfl rfl rfl fun q hq => ?_
  simp only [holders, OpWorkerPc.running, Option.toList_some, hqueue, List.mem_append,
    List.mem_cons] at hq ⊢
  tauto

/-- A handler ends, without an answer. -/
theorem ends (h : σ.Sound) {op : QueuedOp} (hop : σ.worker.current = some op)
    {applied : List Nat} {reads : List (Nat × List Nat)}
    (hordered : Ordered { σ with
      worker := .relocking op, applied := applied, reads := reads }) :
    Sound { σ with worker := .relocking op, applied := applied, reads := reads } := by
  refine ⟨?_, ?_, hordered, nofun⟩
  · have howned : Owned { σ with worker := .relocking op } := h.owned.move hop.symm
    exact ⟨howned.stages, howned.owners⟩
  · refine h.answerable.mono rfl rfl rfl rfl rfl rfl fun q hq => ?_
    rcases List.mem_append.mp hq with hold | hrunning
    · exact List.mem_append_left _ hold
    · cases hrunning

/-- A handler ends with its answer. -/
theorem answers (h : σ.Sound) {op : QueuedOp} (hop : op ∈ σ.worker.running)
    (hresponder : op.op.hasResponder = true) {applied : List Nat} {reads : List (Nat × List Nat)}
    (hordered : Ordered { σ with
      worker := .relocking op, applied := applied, reads := reads }) :
    Sound ({ σ with
      worker := .relocking op, applied := applied, reads := reads }.respond op.call) := by
  have howned := (h.ends (running_current hop) hordered).owned
  have howned : Owned ({ σ with
      worker := .relocking op, applied := applied, reads := reads }.respond op.call) :=
    ⟨howned.stages, howned.owners⟩
  have hanswerable : Answerable ({ σ with worker := .relocking op }.respond op.call) :=
    h.answerable.respond hop hresponder rfl ⟨howned.stages, howned.owners⟩
  exact ⟨howned, ⟨hanswerable.requests, hanswerable.once, hanswerable.issued, hanswerable.holders,
    hanswerable.destroyed⟩, hordered.callMoves, nofun⟩

/-- What the handlers do at their first call into the backend. -/
theorem handle (h : σ.Sound) {op : QueuedOp} (hop : σ.worker = .handling op) (returns : Bool) :
    (σ.handle op returns).Sound := by
  have hrunning : op ∈ σ.worker.running := by rw [hop]; rfl
  have hcurrent := running_current hrunning
  unfold OpQueueState.handle
  split
  · rename_i names hget
    have hordered := (h.ordered.finish hop (by rw [hget]; rfl)).2
    cases returns with
    | false => exact h.ends hcurrent hordered
    | true => exact h.answers hrunning (by rw [hget]; rfl) hordered
  · rename_i parameters hset
    split
    · rename_i hempty
      -- nothing to apply: an empty answer
      have hordered := (h.ordered.finish hop (by simp [hset, ParameterOp.sets, hempty])).1
      exact h.answers hrunning (by rw [hset]; rfl) hordered
    · rename_i hnonempty
      have hsets : op.op.sets = true := by simp [hset, ParameterOp.sets, hnonempty]
      cases returns with
      | false => exact h.ends hcurrent (h.ordered.apply hop hsets rfl nofun)
      | true =>
          have howned : Owned { σ with worker := .echoing op } := h.owned.move hcurrent.symm
          refine ⟨⟨howned.stages, howned.owners⟩, ?_, h.ordered.apply hop hsets rfl nofun,
            fun other hother => ?_⟩
          case refine_2 =>
            obtain rfl : op = other := by simpa using hother
            rw [hset]
            rfl
          refine h.answerable.mono rfl rfl rfl rfl rfl rfl fun q hq => ?_
          rw [OpQueueState.holders, hop]
          exact hq
  · rename_i names hsubscribe
    exact h.ends hcurrent (h.ordered.finish hop (by rw [hsubscribe]; rfl)).1
  · rename_i names hunsubscribe
    exact h.ends hcurrent (h.ordered.finish hop (by rw [hunsubscribe]; rfl)).1

/-- The second call of a set: the new values are read back. -/
theorem echo (h : σ.Sound) {op : QueuedOp} (hop : σ.worker = .echoing op) (returns : Bool) :
    (σ.finish op returns).Sound := by
  have hrunning : op ∈ σ.worker.running := by rw [hop]; rfl
  have hcurrent := running_current hrunning
  have happlied := h.ordered.applied fun q hq => by
    rw [hop] at hq
    cases hq
  have hordered : Ordered { σ with
      worker := .relocking op, applied := σ.applied, reads := σ.reads } :=
    h.ordered.handled hcurrent rfl (by nofun) happlied h.ordered.reads
  cases returns with
  | false => exact h.ends hcurrent hordered
  | true => exact h.answers hrunning (h.echoing op hop) hordered

theorem endIteration (h : σ.Sound) {op : QueuedOp} (hop : σ.worker = .relocking op) :
    Sound { σ.destroy op.call with worker := .checking } := by
  have howned := h.owned.endIteration hop
  refine ⟨howned, ?_, (h.ordered.endIteration hop).callMoves, nofun⟩
  refine h.answerable.destroy rfl rfl rfl rfl rfl rfl (fun q hq => ?_) howned
  rw [OpQueueState.holders, hop]
  exact hq

/-- `stop` takes the queue. -/
theorem drain (h : σ.Sound) (hstop : σ.stop = .begun) :
    Sound { σ with
      paramOpShutdown := true
      paramOpQueue := []
      stop := .notifying σ.paramOpQueue
      abandoned := σ.paramOpQueue } := by
  refine ⟨h.owned.drain (by rw [hstop]; rfl), ?_, h.ordered.drain hstop, h.echoing⟩
  refine h.answerable.mono rfl rfl rfl rfl rfl rfl fun q hq => ?_
  simp only [holders, StopPhase.drained, hstop, List.append_nil, List.mem_append] at hq ⊢
  tauto

/-- `stop` goes on with what it took. -/
theorem stopMoves (h : σ.Sound) {stop : StopPhase} (hdrained : stop.drained = σ.stop.drained)
    (hflag : stop.hasDrained = σ.stop.hasDrained)
    (hjoined : stop.hasJoined = true → σ.worker = .exited) : Sound { σ with stop := stop } := by
  refine ⟨h.owned.stopMoves hdrained, ?_,
    h.ordered.stopMoves hflag hjoined fun q hq => .inl (hdrained ▸ hq), h.echoing⟩
  refine h.answerable.mono rfl rfl rfl rfl rfl rfl fun q hq => ?_
  rw [OpQueueState.holders, ← hdrained]
  exact hq

theorem destroyDrained (h : σ.Sound) {op : QueuedOp} {drained : List QueuedOp}
    (hstop : σ.stop = .destroying (op :: drained)) :
    Sound { σ.destroy op.call with stop := .destroying drained } := by
  have howned := h.owned.destroyDrained hstop
  refine ⟨howned, ?_, ?_, h.echoing⟩
  · refine h.answerable.destroy rfl rfl rfl rfl rfl rfl (fun q hq => ?_) howned
    simp only [holders, OpQueueState.destroy, StopPhase.drained, hstop, List.mem_append,
      List.mem_cons] at hq ⊢
    tauto
  · have hordered : Ordered { σ with
        destroyed := σ.destroyed ++ [op.call], stop := .destroying drained } := by
      refine (h.ordered.destroyed op.call).stopMoves (by rw [hstop]; rfl)
        (fun _ => h.ordered.joined (by rw [hstop]; rfl)) fun q hq => ?_
      rw [show σ.stop.drained = op :: drained by rw [hstop]; rfl] at hq
      rcases List.mem_cons.mp hq with rfl | hrest
      · exact .inr (List.mem_append_right _ (List.mem_singleton_self _))
      · exact .inl hrest
    exact hordered.callMoves

theorem step {σ' : OpQueueState} {a : OpQueueAction} (h : σ.Sound) (hs : σ.Step a σ') :
    σ'.Sound := by
  cases hs with
  | call op =>
      exact ⟨h.owned.call op, h.answerable.call h.owned op, h.ordered.callMoves, h.echoing⟩
  | reject hop => exact (h.enqueue hop).1
  | push hop hup => exact (h.enqueue hop).2 hup
  | notifyOne hcall =>
      obtain ⟨worker, hnotified⟩ := σ.notified_eq
      have hsound := h.notified
      rw [hnotified] at hsound ⊢
      exact hsound.returns hcall
  | dropArgument hop => exact h.dropArgument hop
  | workerMoves hbefore hafter hgone hexited _ => exact h.move hbefore hafter hgone hexited
  | take hworker hqueue => exact h.take hqueue hworker
  | handle returns hop => exact h.handle hop returns
  | echo returns hop => exact h.echo hop returns
  | endIteration hop => exact h.endIteration hop
  | stopMoves _ hdrained hflag hjoined =>
      apply h.stopMoves hdrained hflag
      intro hafter
      exact (hjoined (StopPhase.hasDrained_of_hasJoined hafter)).elim h.ordered.joined id
  | drain hstop => exact h.drain hstop
  | notifyAll hstop =>
      obtain ⟨worker, hnotified⟩ := σ.notified_eq
      have hsound := h.notified
      rw [hnotified] at hsound ⊢
      exact hsound.stopMoves (by rw [hstop]; rfl) (by rw [hstop]; rfl) nofun
  | destroyDrained hstop => exact h.destroyDrained hstop

theorem of_reachable (h : opQueueSystem.Reachable σ) : σ.Sound := by
  refine TSys.Run.invariant h ⟨?_, fun _ _ _ hsound _ hs => hsound.step (step_rule hs)⟩
  rintro _ rfl
  refine ⟨⟨fun i => rfl, fun i => rfl⟩, ⟨fun i => rfl, fun i => Nat.zero_le _, nofun, nofun, nofun⟩,
    ⟨rfl, List.nodup_nil, rfl, nofun, fun _ => rfl, nofun, nofun, nofun, nofun, nofun,
      fun _ => rfl, nofun, nofun⟩, nofun⟩

end Sound

/-! ## What the callers get -/

theorem finish_answered (σ : OpQueueState) (op : QueuedOp) (answers : Bool) :
    (σ.finish op answers).started = σ.started ∧
      ((σ.finish op answers).answered = σ.answered ∨
        (σ.finish op answers).answered = σ.answered ++ [op.call]) := by
  unfold finish
  cases answers with
  | false => exact ⟨rfl, .inl rfl⟩
  | true => exact ⟨rfl, .inr rfl⟩

theorem handle_answered (σ : OpQueueState) (op : QueuedOp) (returns : Bool) :
    (σ.handle op returns).started = σ.started ∧
      ((σ.handle op returns).answered = σ.answered ∨
        (σ.handle op returns).answered = σ.answered ++ [op.call]) := by
  unfold handle
  split
  · exact finish_answered ..
  · split
    · exact finish_answered ..
    · cases returns <;> exact ⟨rfl, .inl rfl⟩
  · exact finish_answered ..
  · exact finish_answered ..

/-- Only the operation in the worker's hands is answered. -/
theorem Step.answered {σ' : OpQueueState} {a : OpQueueAction} (hs : σ.Step a σ') :
    (∃ taken, σ'.started = σ.started ++ taken) ∧ (σ'.answered = σ.answered ∨
      ∃ q, σ.worker.current = some q ∧ σ'.answered = σ.answered ++ [q.call]) := by
  cases hs with
  | take => exact ⟨⟨_, rfl⟩, .inl rfl⟩
  | @handle op returns hop =>
      obtain ⟨hstarted, hanswered⟩ := σ.handle_answered op returns
      refine ⟨⟨[], by rw [hstarted, List.append_nil]⟩, hanswered.imp_right fun hmore => ?_⟩
      exact ⟨op, by rw [hop]; rfl, hmore⟩
  | @echo op returns hop =>
      obtain ⟨hstarted, hanswered⟩ := σ.finish_answered op returns
      refine ⟨⟨[], by rw [hstarted, List.append_nil]⟩, hanswered.imp_right fun hmore => ?_⟩
      exact ⟨op, by rw [hop]; rfl, hmore⟩
  | notifyOne | notifyAll =>
      obtain ⟨worker, hnotified⟩ := σ.notified_eq
      rw [hnotified]
      exact ⟨⟨[], (List.append_nil _).symm⟩, .inl rfl⟩
  | _ => exact ⟨⟨[], (List.append_nil _).symm⟩, .inl rfl⟩

/-- An operation that is answered was started. -/
theorem answered_started (h : opQueueSystem.Reachable σ) :
    ∀ i ∈ σ.answered, i ∈ σ.started.map QueuedOp.call := by
  refine TSys.Run.invariant_of (I := fun τ => ∀ i ∈ τ.answered, i ∈ τ.started.map QueuedOp.call) h
    (fun _ => Sound.of_reachable) ?_ ?_
  · rintro _ rfl
    exact fun i hi => absurd hi List.not_mem_nil
  · intro σ a σ' hanswered hsound _ hs i hi
    obtain ⟨⟨taken, hstarted⟩, hcases⟩ := (step_rule hs).answered
    rw [hstarted, List.map_append]
    apply List.mem_append_left _
    rcases hcases with hsame | ⟨q, hcurrent, hmore⟩
    · exact hanswered i (hsame ▸ hi)
    · rw [hmore] at hi
      rcases List.mem_append.mp hi with hold | hlast
      · exact hanswered i hold
      · obtain rfl := List.mem_singleton.mp hlast
        obtain ⟨before, hbefore⟩ := hsound.ordered.current q hcurrent
        rw [hbefore]
        exact List.mem_map_of_mem (List.mem_append_right _ (List.mem_singleton_self q))

/-- The operations run one at a time, in the order they were queued, none of them twice,
and a get finds the effects of the sets before it. -/
structure InOrder (σ : OpQueueState) : Prop where
  fifo : σ.started <+: σ.enqueued
  once : (σ.enqueued.map QueuedOp.call).Nodup
  alone : ∀ q, σ.worker.current = some q → ∃ before, σ.started = before ++ [q] ∧
    ∀ other ∈ before, other.call ∈ σ.destroyed
  reads : ∀ read ∈ σ.reads, ∃ before q, before ++ [q] <+: σ.enqueued ∧ q.call = read.1 ∧
    read.2 = setsOf before

/-- After `stop` has returned nothing is started, and what a call brought is gone when the
call has returned; if it was not started, its responder was dropped. -/
structure Stopped (σ : OpQueueState) : Prop where
  exited : σ.worker = .exited
  started : ∀ a σ', σ.step a = some σ' → σ'.stop = .returned ∧ σ'.started = σ.started
  destroyed : ∀ i ∈ σ.returned, σ.destroyed.count i = 1 ∧ i ∉ σ.responders
  dropped : ∀ i ∈ σ.returned, i ∈ σ.requests → i ∉ σ.started.map QueuedOp.call →
    σ.dropped.count i = 1

theorem Sound.inOrder (h : σ.Sound) : σ.InOrder where
  fifo := by
    rw [h.ordered.enqueued, List.append_assoc]
    exact List.prefix_append _ _
  once := h.ordered.nodup
  alone q hq := by
    obtain ⟨before, hbefore⟩ := h.ordered.current q hq
    refine ⟨before, hbefore, fun other hother => ?_⟩
    have hstarted : other ∈ σ.started := hbefore ▸ List.mem_append_left _ hother
    apply (h.ordered.started other hstarted).resolve_left
    intro hcurrent
    -- it would have been queued twice
    obtain rfl : q = other := Option.some.inj (hq.symm.trans hcurrent)
    have hnodup := h.ordered.nodup
    rw [h.ordered.enqueued, hbefore] at hnodup
    simp only [List.map_append, List.append_assoc] at hnodup
    have hdisjoint := List.disjoint_of_nodup_append hnodup
    apply hdisjoint (List.mem_map_of_mem hother)
    simp
  reads := h.ordered.reads

/-- Once the worker is gone, nothing is taken from the queue. -/
theorem Step.exited {σ' : OpQueueState} {a : OpQueueAction} (hs : σ.Step a σ')
    (hexited : σ.worker = .exited) (hstop : σ.stop = .returned) :
    σ'.stop = .returned ∧ σ'.started = σ.started := by
  cases hs with
  | workerMoves _ _ hgone => exact absurd hexited hgone
  | take hworker | handle _ hworker | echo _ hworker | endIteration hworker =>
      rw [hexited] at hworker
      cases hworker
  | stopMoves hbusy => exact absurd hstop hbusy
  | drain hphase | notifyAll hphase | destroyDrained hphase =>
      rw [hstop] at hphase
      cases hphase
  | notifyOne =>
      obtain ⟨worker, hnotified⟩ := σ.notified_eq
      rw [hnotified]
      exact ⟨hstop, rfl⟩
  | _ => exact ⟨hstop, rfl⟩

/-- A call that has returned is not on its way. -/
theorem Owned.destroyed_once (h : σ.Owned) (hqueue : σ.paramOpQueue = [])
    (hdrained : σ.stop.drained = []) (hcurrent : σ.worker.current = none) {i : Nat}
    (hi : i ∈ σ.returned) : σ.destroyed.count i = 1 := by
  have hstages := h.stages i
  have howners := h.owners i
  have hreturned : 1 ≤ σ.returned.count i := List.count_pos_iff.mpr hi
  simp only [OpQueueState.stages] at hstages
  simp only [OpQueueState.owners, hqueue, hdrained, hcurrent, Option.toList_none, List.map_nil,
    List.count_nil] at howners
  by_cases hissued : i < σ.issued
  · rw [if_pos hissued] at hstages howners
    omega
  · rw [if_neg hissued] at hstages
    omega

/-- A responder that is gone was answered or dropped. -/
theorem Answerable.settled (h : σ.Answerable) {i : Nat} (hrequest : i ∈ σ.requests)
    (hgone : i ∉ σ.responders) : σ.answered.count i + σ.dropped.count i = 1 := by
  have hall := h.requests i
  have hone := h.once i
  have hsome : 1 ≤ σ.requests.count i := List.count_pos_iff.mpr hrequest
  rw [List.count_eq_zero.mpr hgone] at hall
  omega

/-- Each responder is answered once or dropped once, and never both: as soon as nobody holds it
any more, which is so when its operation is destroyed or the worker is done with it. -/
structure Settled (σ : OpQueueState) : Prop where
  atMostOnce : ∀ i, σ.answered.count i + σ.dropped.count i ≤ 1
  gone : ∀ i ∈ σ.requests, i ∉ σ.responders → σ.answered.count i + σ.dropped.count i = 1
  destroyed : ∀ i ∈ σ.requests, i ∈ σ.destroyed →
    σ.answered.count i + σ.dropped.count i = 1
  executed : ∀ q ∈ σ.started, q.call ∈ σ.requests → σ.worker.current ≠ some q →
    σ.answered.count q.call + σ.dropped.count q.call = 1

theorem Sound.settled (h : σ.Sound) : σ.Settled := by
  have hdestroyed : ∀ i ∈ σ.requests, i ∈ σ.destroyed →
      σ.answered.count i + σ.dropped.count i = 1 :=
    fun i hrequest hdead => h.answerable.settled hrequest (h.answerable.destroyed i hdead)
  refine ⟨fun i => ?_, fun i => h.answerable.settled, hdestroyed, ?_⟩
  · have hall := h.answerable.requests i
    have hone := h.answerable.once i
    omega
  · intro q hstarted hrequest hdone
    exact hdestroyed q.call hrequest ((h.ordered.started q hstarted).resolve_left hdone)

theorem stopped_of_returned (h : opQueueSystem.Reachable σ) (hstop : σ.stop = .returned) :
    σ.Stopped := by
  have hsound := Sound.of_reachable h
  have hexited : σ.worker = .exited := hsound.ordered.joined (by rw [hstop]; rfl)
  have hqueue : σ.paramOpQueue = [] := by
    apply hsound.ordered.queue
    rw [hsound.ordered.flag, hstop]
    rfl
  have hdestroyed : ∀ i ∈ σ.returned, σ.destroyed.count i = 1 ∧ i ∉ σ.responders := by
    intro i hi
    have hcount := hsound.owned.destroyed_once hqueue (by rw [hstop]; rfl)
      (by rw [hexited]; rfl) hi
    refine ⟨hcount, hsound.answerable.destroyed i (List.count_pos_iff.mp ?_)⟩
    omega
  refine ⟨hexited, fun a σ' hs => (step_rule hs).exited hexited hstop, hdestroyed, ?_⟩
  intro i hi hrequest hnot
  have hsettled := hsound.answerable.settled hrequest (hdestroyed i hi).2
  have hanswered : σ.answered.count i = 0 :=
    List.count_eq_zero.mpr fun hmem => hnot (answered_started h i hmem)
  omega

/-! ## Wakeups -/

theorem notified_ne_waiting (σ : OpQueueState) : σ.notified.worker ≠ .waiting := by
  unfold notified
  split
  · nofun
  · assumption

theorem finish_ne_waiting (σ : OpQueueState) (op : QueuedOp) (answers : Bool) :
    (σ.finish op answers).worker ≠ .waiting := by
  cases answers <;> nofun

theorem handle_ne_waiting (σ : OpQueueState) (op : QueuedOp) (returns : Bool) :
    (σ.handle op returns).worker ≠ .waiting := by
  unfold handle
  split
  · exact finish_ne_waiting _ op returns
  · split
    · exact finish_ne_waiting _ op true
    · cases returns <;> nofun
  · exact finish_ne_waiting _ op false
  · exact finish_ne_waiting _ op false

/-- While the worker waits, whoever gave it something to do has still to notify it. -/
structure Woken (σ : OpQueueState) : Prop where
  queue : σ.worker = .waiting → σ.paramOpQueue ≠ [] → σ.notifying ≠ []
  flag : σ.worker = .waiting → σ.paramOpShutdown = true →
    ∃ drained, σ.stop = .notifying drained

/-- A worker that does not wait needs no wakeup. -/
theorem Woken.of_ne_waiting (h : σ.worker ≠ .waiting) : σ.Woken :=
  ⟨fun hwaiting => absurd hwaiting h, fun hwaiting => absurd hwaiting h⟩

theorem Woken.step {σ' : OpQueueState} {a : OpQueueAction} (h : σ.Woken) (hordered : σ.Ordered)
    (hs : σ.Step a σ') : σ'.Woken := by
  cases hs with
  | push => exact ⟨fun _ _ => List.append_ne_nil_of_right_ne_nil _ nofun, h.flag⟩
  | notifyOne | notifyAll => exact .of_ne_waiting σ.notified_ne_waiting
  | workerMoves _ _ _ _ hwaits =>
      refine ⟨fun hwaiting hsome => absurd (hwaits hwaiting).1 hsome, fun hwaiting hdown => ?_⟩
      have hup := (hwaits hwaiting).2
      rw [show σ.paramOpShutdown = true from hdown] at hup
      cases hup
  | take | endIteration => exact .of_ne_waiting nofun
  | @handle op returns => exact .of_ne_waiting (σ.handle_ne_waiting op returns)
  | @echo op returns => exact .of_ne_waiting (σ.finish_ne_waiting op returns)
  | stopMoves _ _ hflag hjoined =>
      refine ⟨h.queue, fun hwaiting hdown => ?_⟩
      -- the flag is up, so that this is the end of `stop`, behind the join
      have hdrained : StopPhase.hasDrained _ = true := hflag.trans (hordered.flag.symm.trans hdown)
      have hexited := (hjoined hdrained).elim hordered.joined id
      rw [show σ.worker = .waiting from hwaiting] at hexited
      cases hexited
  | drain => exact ⟨fun _ hsome => absurd rfl hsome, fun _ _ => ⟨_, rfl⟩⟩
  | destroyDrained hstop =>
      have hexited : σ.worker = .exited := hordered.joined (by rw [hstop]; rfl)
      refine .of_ne_waiting ?_
      show σ.worker ≠ .waiting
      rw [hexited]
      nofun
  | _ => exact ⟨h.queue, h.flag⟩

/-- **No wakeup is lost.** -/
theorem woken_of_reachable (h : opQueueSystem.Reachable σ) : σ.Woken := by
  refine TSys.Run.invariant_of h (fun _ => Sound.of_reachable) ?_
    fun _ _ _ hwoken hsound _ hs => hwoken.step hsound.ordered (step_rule hs)
  rintro _ rfl
  exact .of_ne_waiting nofun

end OpQueueState

open OpQueueState

/-- **The operation queue.** In every state that calls of `enqueueParameterOp`, the worker
and one `stop` can reach, however the backend answers: the operations run in order; after
`stop` has returned none is started, and those of the calls that have returned are
destroyed; the worker leaves only when `stop` has raised the flag; and each responder is
answered once or dropped once, never both, at the latest when the worker is done with its
operation. -/
theorem operations_in_order {σ : OpQueueState} (h : opQueueSystem.Reachable σ) :
    σ.InOrder ∧ (σ.stop = .returned → σ.Stopped) ∧
      (σ.worker = .exited → σ.stop.hasDrained = true) ∧ σ.Settled := by
  have hsound := Sound.of_reachable h
  refine ⟨hsound.inOrder, stopped_of_returned h, ?_, hsound.settled⟩
  intro hexited
  rw [← hsound.ordered.flag]
  exact hsound.ordered.exited hexited

/-- A get is answered. Another one waits in the queue behind a set whose read back throws;
`stop` takes it, and a subscription finds the flag up. -/
def stoppedBehindSet : List OpQueueAction :=
  [.call (.get ["/rate"]), .enqueue 0, .notifyOne 0, .lock, .check, .handle true, .endIteration,
    .check, .call (.set [⟨"/rate", .none, some (.integer 2)⟩]), .enqueue 0, .notifyOne 0, .lock,
    .check, .handle true, .call (.get ["/rate"]), .enqueue 0, .notifyOne 0, .beginStop,
    .call (.subscribe ["/rate"]), .drain, .enqueue 0, .dropArgument 0, .notifyAll,
    .handle false, .endIteration, .check, .join, .destroyDrained, .returnStop]

theorem operations_in_order_stopped : ∃ σ,
    opQueueSystem.exec .initial stoppedBehindSet = some σ ∧ σ.applied = [1] ∧
      σ.answered = [0] ∧ σ.dropped = [1, 2] ∧ σ.Stopped ∧ σ.Settled := by
  have hrun : ∃ σ, opQueueSystem.exec .initial stoppedBehindSet = some σ ∧ σ.stop = .returned ∧
      σ.applied = [1] ∧ σ.answered = [0] ∧ σ.dropped = [1, 2] := ⟨_, rfl, rfl, rfl, rfl, rfl⟩
  obtain ⟨σ, hexec, hstop, happlied, hanswered, hdropped⟩ := hrun
  have hreach : opQueueSystem.Reachable σ := TSys.Reachable.exec (.init rfl) hexec
  obtain ⟨-, hstopped, -, hsettled⟩ := operations_in_order hreach
  exact ⟨σ, hexec, happlied, hanswered, hdropped, hstopped hstop, hsettled⟩

end FoxgloveBridge
