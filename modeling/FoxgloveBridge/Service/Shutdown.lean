import FoxgloveBridge.Service.ExactlyOnce

/-!
# Service calls at shutdown

The destructor of the bridge, beside the service calls that are in flight: it joins the poll
thread, stops the transports, after which no callback runs, and destroys the members, the
list of pending calls among them. A responder that is still in a shared call is destroyed
with the last reference to it, which sends the client an error status.

The list is hardly ever the last one. Each worker captured a reference of its own, and the
destructor waits for no worker. So a responder is dropped with the list only where the worker
could not be started, and when the destructor has finished every responder has been answered
or destroyed exactly if no worker was still in its call with the responder in place, or had
the responder and was yet to answer (`shutdown_releases_iff`).
-/

namespace FoxgloveBridge

/-- The threads the service calls run on; time passes on none of them. -/
inductive ServiceThread
  | poll
  | transport
  | worker
  | clock
  deriving DecidableEq, Repr

def ServiceAction.thread : ServiceAction → ServiceThread
  | .updateServices _ | .sweepBegins | .sweepLocks | .sweepChecks | .sweepAdvances
  | .sweepUnlocks | .sweepTakes | .sweepResponds | .sweepReturns => .poll
  | .receive .. | .proceed _ | .startWorker _ => .transport
  | .callReturns .. | .workerTakes _ | .workerResponds _ => .worker
  | .tick _ => .clock

/-- The request that arrives with the step. -/
def ServiceAction.arriving : ServiceAction → List RequestId
  | .receive id _ => [id]
  | _ => []

/-- Requests arrive on the threads of the transports. -/
theorem ServiceAction.arriving_eq_nil {a : ServiceAction} (h : a.thread ≠ .transport) :
    a.arriving = [] := by
  cases a with
  | receive id request => exact absurd rfl h
  | _ => rfl

/-- The handler is not inside the callback any more. -/
def HandlerPhase.settled : HandlerPhase → Bool
  | .rejected .. | .returned .. => true
  | .unseen | .found .. | .queued .. => false

/-- The worker runs, and its capture refers to the shared call. -/
def CallPhase.running : CallPhase → Bool
  | .notStarted | .finished => false
  | .calling .. | .called .. | .responding _ => true

/-- How far the destructor has come. -/
inductive BridgeShutdownPhase
  | running
  /-- The poll thread is joined. -/
  | pollJoined
  /-- The server and the gateway are stopped. -/
  | transportsStopped
  /-- The members are gone. -/
  | destroyed
  deriving DecidableEq, Repr

/-- The threads that are left. -/
def BridgeShutdownPhase.runs : BridgeShutdownPhase → ServiceThread → Bool
  | .running, _ => true
  | .pollJoined, thread => thread ≠ .poll
  | .transportsStopped, thread | .destroyed, thread => thread = .worker ∨ thread = .clock

structure BridgeShutdown where
  service : ServiceState
  phase : BridgeShutdownPhase
  /-- The requests whose responders were passed to `handleServiceRequest`. -/
  received : List RequestId
  /-- The responders that were destroyed without having been taken. -/
  dropped : List RequestId

inductive BridgeShutdownAction
  | service (a : ServiceAction)
  /-- `std::thread` throws; the handler is left with the exception. -/
  | workerFails (id : RequestId)
  | joinPollThread
  | stopTransports
  | destroyMembers
  deriving DecidableEq, Repr

namespace BridgeShutdown

/-- The responders in the list to whose shared calls no running worker refers. -/
def unshared (σ : BridgeShutdown) : List RequestId :=
  (σ.service.pendingServiceCalls.map PendingEntry.call).filter fun id =>
    (σ.service.pending id).responder && !(σ.service.worker id).running

variable (serviceCallTimeoutMs : Int)

def step (σ : BridgeShutdown) : BridgeShutdownAction → Option BridgeShutdown
  | .service a =>
      if σ.phase.runs a.thread then
        (σ.service.step serviceCallTimeoutMs a).map fun service =>
          { σ with service := service, received := σ.received ++ a.arriving }
      else none
  | .workerFails id =>
      if σ.phase.runs .transport then
        match σ.service.handler id with
        | .queued request details =>
            let handler := Function.update σ.service.handler id (.returned request details)
            some { σ with service := { σ.service with handler := handler } }
        | _ => none
      else none
  | .joinPollThread =>
      -- the cycle in progress is finished first, and the sweep with it
      if σ.phase = .running ∧ σ.service.sweep = .idle then
        some { σ with phase := .pollJoined }
      else none
  | .stopTransports =>
      if σ.phase = .pollJoined ∧ ∀ id ∈ σ.received, (σ.service.handler id).settled = true then
        some { σ with phase := .transportsStopped }
      else none
  | .destroyMembers =>
      if σ.phase = .transportsStopped then
        some { σ with
          service := { σ.service with pendingServiceCalls := [] }
          phase := .destroyed
          dropped := σ.unshared }
      else none

/-- The bridge before its first request. -/
def Initial (σ : BridgeShutdown) : Prop :=
  σ.service.Initial ∧ σ.phase = .running ∧ σ.received = [] ∧ σ.dropped = []

end BridgeShutdown

def shutdownSystem (serviceCallTimeoutMs : Int) : TSys BridgeShutdown BridgeShutdownAction where
  init := BridgeShutdown.Initial
  step := BridgeShutdown.step serviceCallTimeoutMs

/-- The client waits for the worker: which is in its call, or on the way from there to the
responder that waits for it, or has taken the responder and not answered yet. -/
def ServiceState.CallInFlight (σ : ServiceState) (id : RequestId) : Prop :=
  (σ.pending id).responder = true ∧ (σ.worker id).running = true ∨ σ.WorkerOwes id

/-- Every responder that was passed to the handler has sent an answer, or was destroyed, which
sends an error status. -/
def BridgeShutdown.AllReleased (σ : BridgeShutdown) : Prop :=
  ∀ id ∈ σ.received, id ∈ σ.service.answers.map Prod.fst ∨ id ∈ σ.dropped

variable {serviceCallTimeoutMs : Int}

/-! ## What holds of the calls until the members are gone -/

namespace ServiceState

/-- The invariants of the service calls that speak of a single responder. -/
structure Sound (σ : ServiceState) : Prop where
  placed : σ.Placed
  answered : σ.Answered
  tracked : σ.Tracked
  checked : ∀ id, Checked σ.answers id (σ.handler id)

theorem Sound.initial {σ : ServiceState} (h : σ.Initial) : σ.Sound where
  placed := .initial h
  answered := .initial h
  tracked := .initial h
  checked id := by rw [h.1 id]; trivial

theorem Sound.step {σ σ' : ServiceState} {a : ServiceAction} (h : σ.Sound)
    (hs : σ.Step serviceCallTimeoutMs a σ') : σ'.Sound where
  placed := h.placed.step hs
  answered := h.answered.step h.placed hs
  tracked := h.tracked.step h.placed hs
  checked := checked_step h.checked hs

/-- A handler that is left without a worker leaves the call to the list. -/
theorem Sound.workerFails {σ : ServiceState} (h : σ.Sound) {id : RequestId}
    {request : ServiceRequest} {details : ServiceDetails}
    (hqueued : σ.handler id = .queued request details) :
    Sound { σ with handler := Function.update σ.handler id (.returned request details) } := by
  have haccepted := h.placed.handler id
  have hpass := h.checked id
  rw [hqueued] at haccepted hpass
  refine ⟨?_, ?_, ?_, ?_⟩
  · exact h.placed.setHandler (by rw [hqueued]; rfl) (.returned request details) haccepted
  · exact ⟨h.answered.consumed, h.answered.answers, h.answered.iff, h.answered.workerOwes,
      h.answered.sweepOwes⟩
  · exact ⟨h.tracked.stamped, h.tracked.held, h.tracked.completed⟩
  · exact checked_update h.checked (List.Subset.refl _) hpass

/-- A rejected request was answered up front. -/
theorem Sound.consumed_of_rejected {σ : ServiceState} (h : σ.Sound) {id : RequestId}
    {request : ServiceRequest} {details : Option ServiceDetails}
    (hid : σ.handler id = .rejected request details) : id ∈ σ.consumed := by
  have hchecked := h.checked id
  rw [hid] at hchecked
  obtain ⟨message, -, hanswer⟩ := hchecked
  exact ((h.answered.iff id).mp (List.mem_map_of_mem hanswer)).1

/-- An accepted request that has not used its responder keeps it in the shared call. -/
theorem Sound.present_or_consumed {σ : ServiceState} (h : σ.Sound) {id : RequestId}
    (hid : (σ.handler id).settled = true) :
    (σ.pending id).responder = true ∨ id ∈ σ.consumed := by
  by_cases hconsumed : id ∈ σ.consumed
  · exact .inr hconsumed
  · have haccepted := h.placed.handler id
    cases hphase : σ.handler id with
    | rejected request details => exact absurd (h.consumed_of_rejected hphase) hconsumed
    | returned request details =>
        rw [hphase] at haccepted
        exact .inl ((h.placed.present id).mpr ⟨haccepted, hconsumed⟩)
    | unseen => rw [hphase] at hid; cases hid
    | found request details => rw [hphase] at hid; cases hid
    | queued request details => rw [hphase] at hid; cases hid

/-- While no sweep runs, a responder that is used and not owed by its worker was answered. -/
theorem Sound.answered_of_consumed {σ : ServiceState} (h : σ.Sound) (hidle : σ.sweep = .idle)
    {id : RequestId} (hid : id ∈ σ.consumed) (howes : ¬ σ.WorkerOwes id) :
    id ∈ σ.answers.map Prod.fst := by
  refine (h.answered.iff id).mpr ⟨hid, howes, ?_⟩
  unfold SweepOwes
  rw [hidle]
  nofun

/-- A call in flight is not answered. -/
theorem Sound.not_answered {σ : ServiceState} (h : σ.Sound) {id : RequestId}
    (hflight : σ.CallInFlight id) : id ∉ σ.answers.map Prod.fst := by
  intro hanswered
  obtain ⟨hconsumed, howes, -⟩ := (h.answered.iff id).mp hanswered
  rcases hflight with ⟨hpresent, -⟩ | howing
  · exact ((h.placed.present id).mp hpresent).2 hconsumed
  · exact howes howing

/-- The worker of a call in flight runs. -/
theorem CallInFlight.running {σ : ServiceState} {id : RequestId} (h : σ.CallInFlight id) :
    (σ.worker id).running = true := by
  rcases h with ⟨-, hworker⟩ | ⟨reply, hreply⟩
  · exact hworker
  · rw [hreply]
    rfl

/-- Once the poll thread is joined the sweep does not move. -/
theorem Step.sweep_eq {σ σ' : ServiceState} {a : ServiceAction}
    (hs : σ.Step serviceCallTimeoutMs a σ') (ha : a.thread ≠ .poll) : σ'.sweep = σ.sweep := by
  cases hs with
  | servicesUpdated | sweepBegan | sweepLocked | checked | erasedCompleted | movedExpired | kept
  | sweepUnlocked | sweepTook | sweepLate | sweepResponded | sweepReturned =>
      exact absurd rfl ha
  | _ => rfl

/-- The handlers move on the threads of the transports. -/
theorem Step.handler_eq {σ σ' : ServiceState} {a : ServiceAction}
    (hs : σ.Step serviceCallTimeoutMs a σ') (ha : a.thread ≠ .transport) :
    σ'.handler = σ.handler := by
  cases hs with
  | unknown | found | rejected | accepted | workerStarted => exact absurd rfl ha
  | _ => rfl

theorem Step.answers_subset {σ σ' : ServiceState} {a : ServiceAction}
    (hs : σ.Step serviceCallTimeoutMs a σ') : σ.answers ⊆ σ'.answers := by
  cases hs with
  | unknown | rejected | workerResponded | sweepResponded => exact List.subset_append_left _ _
  | _ => exact List.Subset.refl _

/-- A handler is entered by the arrival of its request. -/
theorem Step.arrived {σ σ' : ServiceState} {a : ServiceAction}
    (hs : σ.Step serviceCallTimeoutMs a σ') {j : RequestId} (hj : σ'.handler j ≠ .unseen) :
    σ.handler j ≠ .unseen ∨ j ∈ a.arriving := by
  have hother : ∀ {id : RequestId} {phase : HandlerPhase}, j ≠ id →
      Function.update σ.handler id phase j ≠ .unseen → σ.handler j ≠ .unseen := by
    intro id phase hne hupdate
    rwa [Function.update_of_ne hne] at hupdate
  cases hs with
  | @unknown id request _ _ _ | @found id request _ _ =>
      by_cases hji : j = id
      · exact .inr (List.mem_singleton.mpr hji)
      · exact .inl (hother hji hj)
  | @rejected id _ _ _ hphase _ | @accepted id _ _ hphase _ _ | @workerStarted id _ _ _ _ hphase =>
      by_cases hji : j = id
      · exact .inl (by rw [hji, hphase]; nofun)
      · exact .inl (hother hji hj)
  | _ => exact .inl hj

end ServiceState

namespace BridgeShutdown

/-- Until the members are gone the calls are sound, and each part that was stopped is still. -/
structure Prepared (σ : BridgeShutdown) : Prop where
  sound : σ.service.Sound
  received : ∀ id, σ.service.handler id ≠ .unseen → id ∈ σ.received
  joined : σ.phase ≠ .running → σ.service.sweep = .idle
  settled : σ.phase = .transportsStopped →
    ∀ id ∈ σ.received, (σ.service.handler id).settled = true

variable {σ σ' : BridgeShutdown}

theorem Prepared.service (h : σ.Prepared) {a : ServiceAction} {service : ServiceState}
    (hruns : σ.phase.runs a.thread = true) (hs : σ.service.Step serviceCallTimeoutMs a service) :
    Prepared { σ with service := service, received := σ.received ++ a.arriving } := by
  refine ⟨h.sound.step hs, ?_, ?_, ?_⟩
  · intro id hid
    rcases hs.arrived hid with hold | harriving
    · exact List.mem_append_left _ (h.received id hold)
    · exact List.mem_append_right _ harriving
  · intro hphase
    have hthread : a.thread ≠ .poll := by
      intro hpoll
      change σ.phase ≠ .running at hphase
      rw [hpoll] at hruns
      cases hp : σ.phase with
      | running => exact hphase hp
      | pollJoined | transportsStopped | destroyed => rw [hp] at hruns; cases hruns
    show service.sweep = .idle
    rw [hs.sweep_eq hthread]
    exact h.joined hphase
  · intro hphase id hid
    change σ.phase = .transportsStopped at hphase
    have hthread : a.thread ≠ .transport := by
      intro htransport
      rw [htransport, hphase] at hruns
      cases hruns
    rw [ServiceAction.arriving_eq_nil hthread, List.append_nil] at hid
    show (service.handler id).settled = true
    rw [hs.handler_eq hthread]
    exact h.settled hphase id hid

theorem Prepared.workerFails (h : σ.Prepared) {id : RequestId} {request : ServiceRequest}
    {details : ServiceDetails} (hruns : σ.phase.runs .transport = true)
    (hqueued : σ.service.handler id = .queued request details) :
    Prepared { σ with
      service := { σ.service with
        handler := Function.update σ.service.handler id (.returned request details) } } := by
  refine ⟨h.sound.workerFails hqueued, ?_, h.joined, ?_⟩
  · intro j hj
    by_cases hji : j = id
    · exact h.received j (by rw [hji, hqueued]; nofun)
    · exact h.received j (by simpa [Function.update_of_ne hji] using hj)
  · intro hphase
    change σ.phase = .transportsStopped at hphase
    rw [hphase] at hruns
    cases hruns

/-- The destruction of the members apart, every step leaves the state prepared. -/
theorem Prepared.step (h : σ.Prepared) {a : BridgeShutdownAction} (ha : a ≠ .destroyMembers)
    (hs : σ.step serviceCallTimeoutMs a = some σ') : σ'.Prepared := by
  cases a with
  | service a =>
      obtain ⟨hruns, hmap⟩ := Option.ite_none_right_eq_some.mp hs
      obtain ⟨service, hservice, rfl⟩ := Option.map_eq_some_iff.mp hmap
      exact h.service hruns (ServiceState.step_rule hservice)
  | workerFails id =>
      obtain ⟨hruns, hmatch⟩ := Option.ite_none_right_eq_some.mp hs
      split at hmatch
      · obtain rfl := Option.some.inj hmatch
        exact h.workerFails hruns ‹_›
      · cases hmatch
  | joinPollThread =>
      obtain ⟨⟨-, hidle⟩, hσ'⟩ := Option.ite_none_right_eq_some.mp hs
      obtain rfl := Option.some.inj hσ'
      exact ⟨h.sound, h.received, fun _ => hidle, nofun⟩
  | stopTransports =>
      obtain ⟨⟨hphase, hsettled⟩, hσ'⟩ := Option.ite_none_right_eq_some.mp hs
      obtain rfl := Option.some.inj hσ'
      exact ⟨h.sound, h.received, fun _ => h.joined (by rw [hphase]; nofun), fun _ => hsettled⟩
  | destroyMembers => exact absurd rfl ha

theorem destroyMembers_eq_some_iff (serviceCallTimeoutMs : Int) :
    σ.step serviceCallTimeoutMs .destroyMembers = some σ' ↔ σ.phase = .transportsStopped ∧
      σ' = { σ with
        service := { σ.service with pendingServiceCalls := [] }
        phase := .destroyed
        dropped := σ.unshared } := by
  rw [step, Option.ite_none_right_eq_some, Option.some.injEq, eq_comm (b := σ')]

/-- Without its members the bridge takes no step but of its workers. -/
theorem destroyed_step {a : BridgeShutdownAction} (hphase : σ.phase = .destroyed)
    (hs : σ.step serviceCallTimeoutMs a = some σ') :
    ∃ b service, a = .service b ∧ b.thread ≠ .transport ∧
      σ.service.step serviceCallTimeoutMs b = some service ∧
      σ' = { σ with service := service, received := σ.received ++ b.arriving } := by
  cases a with
  | service b =>
      obtain ⟨hruns, hmap⟩ := Option.ite_none_right_eq_some.mp hs
      obtain ⟨service, hservice, rfl⟩ := Option.map_eq_some_iff.mp hmap
      refine ⟨b, service, rfl, ?_, hservice, rfl⟩
      intro htransport
      rw [htransport, hphase] at hruns
      cases hruns
  | workerFails id => simp [step, hphase, BridgeShutdownPhase.runs] at hs
  | joinPollThread => simp [step, hphase] at hs
  | stopTransports => simp [step, hphase] at hs
  | destroyMembers => simp [step, hphase] at hs

theorem prepared (h : (shutdownSystem serviceCallTimeoutMs).Reachable σ) :
    σ.phase ≠ .destroyed → σ.Prepared := by
  refine TSys.Run.invariant (I := fun τ => τ.phase ≠ .destroyed → τ.Prepared) h ⟨?_, ?_⟩
  · rintro τ ⟨hservice, hphase, hreceived, -⟩ -
    refine ⟨.initial hservice, fun id hid => absurd (hservice.1 id) hid, ?_, ?_⟩
    · intro hne
      exact absurd hphase hne
    · rw [hphase]
      nofun
  · intro τ a τ' hprepared _ hs hphase
    by_cases ha : a = .destroyMembers
    · subst ha
      obtain ⟨-, rfl⟩ := (destroyMembers_eq_some_iff serviceCallTimeoutMs).mp hs
      exact absurd rfl hphase
    · refine (hprepared fun hdestroyed => ?_).step ha hs
      -- the destructor does not come back
      obtain ⟨b, service, -, -, -, rfl⟩ := destroyed_step hdestroyed hs
      exact hphase hdestroyed

/-! ## What the destruction releases -/

/-- With the sweep over, the list holds every responder that was not taken. -/
theorem Prepared.mem_unshared (h : σ.Prepared) (hphase : σ.phase = .transportsStopped)
    {id : RequestId} (hid : (σ.service.pending id).responder = true)
    (hworker : (σ.service.worker id).running = false) : id ∈ σ.unshared := by
  have hidle := h.joined (by rw [hphase]; nofun)
  have hheld := h.sound.tracked.held id hid
  rw [hidle] at hheld
  obtain ⟨entry, hentry, rfl⟩ := hheld.resolve_right List.not_mem_nil
  refine List.mem_filter.mpr ⟨List.mem_map_of_mem hentry, ?_⟩
  rw [hid, hworker]
  rfl

/-- The destruction releases everything exactly if no client waits for a worker. -/
theorem Prepared.releases_iff (h : σ.Prepared)
    (hs : σ.step serviceCallTimeoutMs .destroyMembers = some σ') :
    σ'.AllReleased ↔ ∀ id, ¬ σ.service.CallInFlight id := by
  obtain ⟨hphase, rfl⟩ := (destroyMembers_eq_some_iff serviceCallTimeoutMs).mp hs
  constructor
  · intro hall id hflight
    have hworker := hflight.running
    have hreturned : (σ.service.handler id).hasReturned = true := by
      refine h.sound.placed.worker id fun hnot => ?_
      rw [hnot] at hworker
      cases hworker
    have hreceived : id ∈ σ.received := by
      refine h.received id fun hunseen => ?_
      rw [hunseen] at hreturned
      cases hreturned
    rcases hall id hreceived with hanswered | hdropped
    · exact h.sound.not_answered hflight hanswered
    · -- the worker's reference keeps the responder from being destroyed
      have hlast := (List.mem_filter.mp hdropped).2
      rw [hworker, Bool.not_true, Bool.and_false] at hlast
      cases hlast
  · intro hnone id hreceived
    have hidle := h.joined (by rw [hphase]; nofun)
    rcases h.sound.present_or_consumed (h.settled hphase id hreceived) with hpresent | hconsumed
    · refine .inr (h.mem_unshared hphase hpresent ?_)
      exact Bool.eq_false_iff.mpr fun hworker => hnone id (.inl ⟨hpresent, hworker⟩)
    · exact .inl (h.sound.answered_of_consumed hidle hconsumed fun howes => hnone id (.inr howes))

/-- What was released stays so while the workers that are left go on. -/
theorem AllReleased.step (h : σ.AllReleased) (hphase : σ.phase = .destroyed)
    {a : BridgeShutdownAction} (hs : σ.step serviceCallTimeoutMs a = some σ') : σ'.AllReleased := by
  obtain ⟨b, service, -, hthread, hservice, rfl⟩ := destroyed_step hphase hs
  intro id hid
  rw [ServiceAction.arriving_eq_nil hthread, List.append_nil] at hid
  rcases h id hid with hanswered | hdropped
  · exact .inl (List.map_subset _ (ServiceState.step_rule hservice).answers_subset hanswered)
  · exact .inr hdropped

/-- Only the destructor destroys the members. -/
theorem phase_of_step {a : BridgeShutdownAction} (ha : a ≠ .destroyMembers)
    (hs : σ.step serviceCallTimeoutMs a = some σ') (hphase : σ'.phase = .destroyed) :
    σ.phase = .destroyed := by
  cases a with
  | service a =>
      obtain ⟨-, hmap⟩ := Option.ite_none_right_eq_some.mp hs
      obtain ⟨service, -, rfl⟩ := Option.map_eq_some_iff.mp hmap
      exact hphase
  | workerFails id =>
      obtain ⟨-, hmatch⟩ := Option.ite_none_right_eq_some.mp hs
      split at hmatch
      · obtain rfl := Option.some.inj hmatch
        exact hphase
      · cases hmatch
  | joinPollThread =>
      obtain ⟨-, hσ'⟩ := Option.ite_none_right_eq_some.mp hs
      obtain rfl := Option.some.inj hσ'
      cases hphase
  | stopTransports =>
      obtain ⟨-, hσ'⟩ := Option.ite_none_right_eq_some.mp hs
      obtain rfl := Option.some.inj hσ'
      cases hphase
  | destroyMembers => exact absurd rfl ha

/-- In a run that destroys the members only with no call in flight, everything is released
from then on. -/
theorem released_of_run
    (h : (shutdownSystem serviceCallTimeoutMs).Run
      (fun τ a => a = .destroyMembers → ∀ id, ¬ τ.service.CallInFlight id) σ)
    (hphase : σ.phase = .destroyed) : σ.AllReleased := by
  refine TSys.Run.invariant_of (I := fun τ => τ.phase = .destroyed → τ.AllReleased)
    (J := (shutdownSystem serviceCallTimeoutMs).Reachable) h (fun _ hr => hr.reachable)
    ?_ ?_ hphase
  · rintro τ ⟨-, hrunning, -⟩ hdestroyed
    rw [hrunning] at hdestroyed
    cases hdestroyed
  · intro τ a τ' hreleased hreach hnone hs hdestroyed
    by_cases ha : a = .destroyMembers
    · subst ha
      have hstep : τ.step serviceCallTimeoutMs .destroyMembers = some τ' := hs
      have hstopped := ((destroyMembers_eq_some_iff serviceCallTimeoutMs).mp hstep).1
      exact ((prepared hreach (by rw [hstopped]; nofun)).releases_iff hstep).mpr (hnone rfl)
    · have hbefore := phase_of_step ha hs hdestroyed
      exact (hreleased hbefore).step hbefore hs

/-- **Service calls at shutdown.** In every run that ends with the destruction of the bridge,
each responder that was passed to the handler has then been answered or destroyed if and only
if no client was waiting for a worker: one in its call with the responder in place, or one
that had taken the responder and not answered yet. -/
theorem shutdown_releases_iff {serviceCallTimeoutMs : Int} {σ σ' : BridgeShutdown}
    (h : (shutdownSystem serviceCallTimeoutMs).Reachable σ)
    (hs : σ.step serviceCallTimeoutMs .destroyMembers = some σ') :
    σ'.AllReleased ↔ ∀ id, ¬ σ.service.CallInFlight id := by
  have hphase := ((destroyMembers_eq_some_iff serviceCallTimeoutMs).mp hs).1
  exact (prepared h (by rw [hphase]; nofun)).releases_iff hs

end BridgeShutdown

/-! ## Runs -/

/-- The bridge with one service, before its first request. -/
def oneServiceBridge : BridgeShutdown := ⟨oneService, .running, [], []⟩

theorem oneServiceBridge_reachable {serviceCallTimeoutMs : Int} :
    (shutdownSystem serviceCallTimeoutMs).Reachable oneServiceBridge :=
  .init ⟨⟨fun _ => rfl, fun _ => rfl, fun _ => rfl, rfl, rfl, rfl, rfl, rfl, rfl⟩, rfl, rfl, rfl⟩

/-- A request is accepted and its worker calls the service. -/
def callStarted : List BridgeShutdownAction :=
  [.service (.receive 0 ⟨"/reset", "ros1", []⟩), .service (.proceed 0),
    .service (.startWorker 0)]

/-- The worker answers before the transports are stopped. -/
def stoppedAfterReturn : List BridgeShutdownAction :=
  callStarted ++ [.joinPollThread, .service (.callReturns 0 true [1]), .service (.workerTakes 0),
    .service (.workerResponds 0), .stopTransports]

theorem shutdown_releases_returned : ∃ σ σ',
    (shutdownSystem 1000).exec oneServiceBridge stoppedAfterReturn = some σ ∧
    σ.step 1000 .destroyMembers = some σ' ∧ σ'.service.answers = [(0, .ok [1])] ∧
    σ'.AllReleased := by
  have hexec : (shutdownSystem 1000).exec oneServiceBridge stoppedAfterReturn = some _ := rfl
  have hreach := oneServiceBridge_reachable.exec hexec
  refine ⟨_, _, hexec, rfl, rfl, ?_⟩
  refine (BridgeShutdown.shutdown_releases_iff hreach rfl).mpr ?_
  have hsound := (BridgeShutdown.prepared hreach nofun).sound
  rintro id (⟨hpresent, -⟩ | howes)
  · -- the one request that was accepted is also the one that was used up
    obtain ⟨haccepted, hconsumed⟩ := (hsound.placed.present id).mp hpresent
    exact hconsumed haccepted
  · -- and its worker is through
    obtain rfl : id = 0 := List.mem_singleton.mp (hsound.answered.workerOwes id howes).1
    obtain ⟨reply, hreply⟩ := howes
    cases hreply

/-- The service does not return while the bridge is destroyed: the client is sent nothing. -/
theorem not_released_calling : ∃ σ σ',
    (shutdownSystem 1000).exec oneServiceBridge
      (callStarted ++ [.joinPollThread, .stopTransports]) = some σ ∧
    σ.step 1000 .destroyMembers = some σ' ∧ 0 ∈ σ'.received ∧
    σ'.service.answers = [] ∧ σ'.dropped = [] ∧ ¬ σ'.AllReleased := by
  refine ⟨_, _, rfl, rfl, by decide, rfl, rfl, fun hall => ?_⟩
  rcases hall 0 (by decide) with hanswered | hdropped
  · cases hanswered
  · cases hdropped

end FoxgloveBridge
