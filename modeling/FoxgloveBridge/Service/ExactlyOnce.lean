import FoxgloveBridge.Lib.Lists
import FoxgloveBridge.Service.Calls
import Mathlib.Tactic.Tauto

/-!
# Every service request is answered once

What holds of the service calls in every reachable state. A responder is in one
place at a time: with the request until it is rejected or queued, then in the
shared call until the worker or the sweep takes it out, then with the taker until
it answers. From this follow, in turn, that no request is answered twice, that a
call whose responder is still there is in the list or in the sweep's own vector,
and that a finished sweep has left nothing behind that was due when it began.
-/

namespace FoxgloveBridge

namespace ServiceState

variable {serviceCallTimeoutMs : Int}

/-! ## Where a responder is -/

/-- What the handler's progress says about a request having been queued or used
up. -/
def Agrees (id : RequestId) (accepted consumed : List RequestId) : HandlerPhase → Prop
  | .unseen | .found _ _ => id ∉ accepted ∧ id ∉ consumed
  | .rejected _ _ => id ∉ accepted
  | .queued _ _ | .returned _ _ => id ∈ accepted

/-- The handler, the worker and the shared call of a request tell the same
story. -/
structure Placed (σ : ServiceState) : Prop where
  handler : ∀ id, Agrees id σ.accepted σ.consumed (σ.handler id)
  worker : ∀ id, σ.worker id ≠ .notStarted → (σ.handler id).hasReturned = true
  present : ∀ id, (σ.pending id).responder = true ↔ id ∈ σ.accepted ∧ id ∉ σ.consumed

theorem Placed.initial {σ : ServiceState} (h : σ.Initial) : σ.Placed := by
  obtain ⟨hhandler, hpending, hworker, -, -, hconsumed, -, haccepted, -⟩ := h
  constructor
  · intro id
    simp [hhandler, Agrees, haccepted, hconsumed]
  · intro id hid
    exact absurd (hworker id) hid
  · intro id
    simp [hpending, haccepted]

/-- Using up responders does not disturb a handler that has not used its own. -/
theorem Agrees.append {id j : RequestId} {accepted consumed : List RequestId}
    {phase : HandlerPhase} (h : Agrees j accepted consumed phase)
    (hj : j ∉ accepted → j ≠ id) : Agrees j accepted (consumed ++ [id]) phase := by
  cases phase with
  | unseen | found => exact ⟨h.1, by simpa using ⟨h.2, hj h.1⟩⟩
  | rejected | queued | returned => exact h

/-- A request whose handler is still running has no worker. -/
theorem Placed.ne_of_worker {σ : ServiceState} (h : σ.Placed) {id j : RequestId}
    (hid : (σ.handler id).hasReturned = false) (hj : σ.worker j ≠ .notStarted) : j ≠ id := by
  rintro rfl
  simp [h.worker j hj] at hid

theorem Placed.not_returned {σ : ServiceState} (h : σ.Placed) {id : RequestId}
    (hid : id ∉ σ.accepted) : (σ.handler id).hasReturned = false := by
  have hagrees := h.handler id
  cases hphase : σ.handler id with
  | returned request details =>
      rw [hphase] at hagrees
      exact absurd hagrees hid
  | _ => rfl

theorem Placed.reject {σ : ServiceState} (h : σ.Placed) {id : RequestId}
    (hid : id ∉ σ.accepted) (request : ServiceRequest) (details : Option ServiceDetails)
    (message : String) : (σ.reject id request details message).Placed := by
  refine ⟨?_, ?_, ?_⟩
  · intro j
    by_cases hj : j = id
    · subst hj
      simpa [ServiceState.reject, Agrees] using hid
    · simp only [ServiceState.reject, Function.update_of_ne hj]
      exact (h.handler j).append fun _ => hj
  · intro j hj
    have hji := h.ne_of_worker (h.not_returned hid) hj
    simpa [ServiceState.reject, Function.update_of_ne hji] using h.worker j hj
  · intro j
    rw [show ((σ.reject id request details message).pending j) = σ.pending j from rfl, h.present j]
    have hne : j ∈ σ.accepted → j ≠ id := fun hj hid' => hid (hid' ▸ hj)
    simp only [ServiceState.reject, List.mem_append, List.mem_singleton]
    tauto

theorem Placed.accept {σ : ServiceState} (h : σ.Placed) {id : RequestId}
    (hid : id ∉ σ.accepted ∧ id ∉ σ.consumed) (request : ServiceRequest)
    (details : ServiceDetails) : (σ.accept serviceCallTimeoutMs id request details).Placed := by
  refine ⟨?_, ?_, ?_⟩
  · intro j
    by_cases hj : j = id
    · subst hj
      simp [ServiceState.accept, Agrees]
    · simp only [ServiceState.accept, Function.update_of_ne hj]
      have hold := h.handler j
      cases hphase : σ.handler j <;> rw [hphase] at hold <;> simpa [Agrees, hj] using hold
  · intro j hj
    have hji := h.ne_of_worker (h.not_returned hid.1) hj
    simpa [ServiceState.accept, Function.update_of_ne hji] using h.worker j hj
  · intro j
    by_cases hj : j = id
    · subst hj
      simpa [ServiceState.accept] using hid.2
    · simpa [ServiceState.accept, Function.update_of_ne hj, hj] using h.present j

theorem Placed.take {σ : ServiceState} (h : σ.Placed) {id : RequestId}
    (hid : (σ.pending id).responder = true) : (σ.take id).Placed := by
  have haccepted : id ∈ σ.accepted := ((h.present id).mp hid).1
  refine ⟨?_, h.worker, ?_⟩
  · intro j
    exact (h.handler j).append fun hj hji => hj (hji ▸ haccepted)
  · intro j
    by_cases hj : j = id
    · subst hj
      simp [ServiceState.take]
    · simpa [ServiceState.take, Function.update_of_ne hj, hj] using h.present j

theorem Placed.setWorker {σ : ServiceState} (h : σ.Placed) {id : RequestId}
    (hid : (σ.handler id).hasReturned = true) (phase : CallPhase) :
    (σ.setWorker id phase).Placed := by
  refine ⟨h.handler, fun j hj => ?_, h.present⟩
  by_cases hji : j = id
  · exact hji ▸ hid
  · exact h.worker j (by simpa [ServiceState.setWorker, Function.update_of_ne hji] using hj)

/-- A change of one handler before its worker exists. -/
theorem Placed.setHandler {σ : ServiceState} (h : σ.Placed) {id : RequestId}
    (hid : (σ.handler id).hasReturned = false) (phase : HandlerPhase)
    (hphase : Agrees id σ.accepted σ.consumed phase) :
    ({ σ with handler := Function.update σ.handler id phase } : ServiceState).Placed := by
  refine ⟨?_, ?_, h.present⟩
  · intro j
    by_cases hj : j = id
    · subst hj
      simpa using hphase
    · simpa [Function.update_of_ne hj] using h.handler j
  · intro j hj
    have hji := h.ne_of_worker hid hj
    simpa [Function.update_of_ne hji] using h.worker j hj

theorem Placed.returned_of {σ : ServiceState} (h : σ.Placed) {id : RequestId}
    {phase : CallPhase} (hid : σ.worker id = phase) (hphase : phase ≠ .notStarted) :
    (σ.handler id).hasReturned = true :=
  h.worker id (hid ▸ hphase)

/-- Before it is queued or rejected a request is in none of the lists. -/
theorem Placed.open_of {σ : ServiceState} (h : σ.Placed) {id : RequestId}
    (hid : σ.handler id = .unseen ∨ ∃ request details, σ.handler id = .found request details) :
    id ∉ σ.accepted ∧ id ∉ σ.consumed := by
  have hagrees := h.handler id
  rcases hid with hunseen | ⟨request, details, hfound⟩
  · rwa [hunseen] at hagrees
  · rwa [hfound] at hagrees

theorem Placed.step {σ σ' : ServiceState} {a : ServiceAction} (h : σ.Placed)
    (hs : σ.Step serviceCallTimeoutMs a σ') : σ'.Placed := by
  cases hs with
  | @unknown id request message hunseen _ =>
      exact h.reject (h.open_of (.inl hunseen)).1 request none message
  | @found id request details hunseen =>
      exact h.setHandler (by rw [hunseen]; rfl) _ (h.open_of (.inl hunseen))
  | @rejected id request details message hfound _ =>
      exact h.reject (h.open_of (.inr ⟨_, _, hfound⟩)).1 request (some details) message
  | @accepted id request details hfound _ _ =>
      exact h.accept (h.open_of (.inr ⟨_, _, hfound⟩)) request details
  | @workerStarted id request details _ _ hqueued =>
      have haccepted := h.handler id
      rw [hqueued] at haccepted
      have hplaced := h.setHandler (by rw [hqueued]; rfl) (.returned request details) haccepted
      exact hplaced.setWorker (by simp [HandlerPhase.hasReturned]) _
  | callReturned hcalling => exact h.setWorker (h.returned_of hcalling (by simp)) _
  | workerTook hcalled hpresent =>
      exact (h.take hpresent).setWorker (h.returned_of hcalled (by simp)) _
  | workerLate hcalled _ => exact h.setWorker (h.returned_of hcalled (by simp)) _
  | @workerResponded id reply hresponding =>
      have hplaced : (σ.respond id reply).Placed := ⟨h.handler, h.worker, h.present⟩
      exact hplaced.setWorker (h.returned_of hresponding (by simp)) _
  | sweepTook _ hpresent =>
      have hplaced := h.take hpresent
      exact ⟨hplaced.handler, hplaced.worker, hplaced.present⟩
  | _ => exact ⟨h.handler, h.worker, h.present⟩

theorem placed {σ : ServiceState} (h : (serviceSystem serviceCallTimeoutMs).Reachable σ) :
    σ.Placed :=
  h.invariant
    { init := fun _ h0 => .initial h0
      step := fun _ _ _ hi _ hs => hi.step (step_rule hs) }

/-! ## Who owes an answer -/

/-- The sweep holds the taken responder of `id`. -/
def SweepOwes (σ : ServiceState) (id : RequestId) : Prop :=
  ∃ sweep expired, σ.sweep = .responding sweep id expired

/-- The worker of `id` holds its taken responder. -/
def WorkerOwes (σ : ServiceState) (id : RequestId) : Prop :=
  ∃ reply, σ.worker id = .responding reply

/-- Each responder is used up once. Until it is answered exactly one of the
worker and the sweep holds it, and afterwards neither does. -/
structure Answered (σ : ServiceState) : Prop where
  consumed : σ.consumed.Nodup
  answers : (σ.answers.map Prod.fst).Nodup
  iff : ∀ id, id ∈ σ.answers.map Prod.fst ↔
    id ∈ σ.consumed ∧ ¬ σ.WorkerOwes id ∧ ¬ σ.SweepOwes id
  workerOwes : ∀ id, σ.WorkerOwes id → id ∈ σ.consumed ∧ ¬ σ.SweepOwes id
  sweepOwes : ∀ id, σ.SweepOwes id → id ∈ σ.consumed

theorem Answered.initial {σ : ServiceState} (h : σ.Initial) : σ.Answered := by
  obtain ⟨-, -, hworker, -, hsweep, hconsumed, hanswers, -, -⟩ := h
  constructor <;> simp [WorkerOwes, SweepOwes, hworker, hsweep, hconsumed, hanswers]

/-- What the invariant reads besides the answers and the consumed responders is
who owes an answer. -/
theorem Answered.of_owes {σ σ' : ServiceState} (h : σ.Answered)
    (hconsumed : σ'.consumed = σ.consumed) (hanswers : σ'.answers = σ.answers)
    (hworker : ∀ id, σ'.WorkerOwes id ↔ σ.WorkerOwes id)
    (hsweep : ∀ id, σ'.SweepOwes id ↔ σ.SweepOwes id) : σ'.Answered where
  consumed := hconsumed ▸ h.consumed
  answers := hanswers ▸ h.answers
  iff id := by rw [hconsumed, hanswers, hworker, hsweep]; exact h.iff id
  workerOwes id := by rw [hconsumed, hworker, hsweep]; exact h.workerOwes id
  sweepOwes id := by rw [hconsumed, hsweep]; exact h.sweepOwes id

/-- Answering a request that nobody has used up or holds. -/
theorem Answered.reject {σ : ServiceState} (h : σ.Answered) {id : RequestId}
    (hid : id ∉ σ.consumed) (request : ServiceRequest) (details : Option ServiceDetails)
    (message : String) : (σ.reject id request details message).Answered := by
  have hanswered : id ∉ σ.answers.map Prod.fst := fun ha => hid ((h.iff id).mp ha).1
  have hworker : ¬ σ.WorkerOwes id := fun ho => hid (h.workerOwes id ho).1
  have hsweep : ¬ σ.SweepOwes id := fun ho => hid (h.sweepOwes id ho)
  have hw : ∀ j, (σ.reject id request details message).WorkerOwes j ↔ σ.WorkerOwes j :=
    fun _ => .rfl
  have hsw : ∀ j, (σ.reject id request details message).SweepOwes j ↔ σ.SweepOwes j :=
    fun _ => .rfl
  refine ⟨List.nodup_append_singleton h.consumed hid, ?_, ?_, ?_, ?_⟩
  · simpa [ServiceState.reject] using List.nodup_append_singleton h.answers hanswered
  · intro j
    rw [hw, hsw]
    simp only [ServiceState.reject, List.map_append, List.map_cons, List.map_nil, List.mem_append,
      List.mem_singleton, h.iff j]
    by_cases hj : j = id
    · subst hj
      tauto
    · tauto
  · intro j hj
    exact ⟨List.mem_append_left _ (h.workerOwes j hj).1, (h.workerOwes j hj).2⟩
  · intro j hj
    exact List.mem_append_left _ (h.sweepOwes j hj)

/-- One of the two takes the responder and owes the answer from then on. -/
theorem Answered.take {σ σ' : ServiceState} (h : σ.Answered) {id : RequestId}
    (hid : id ∉ σ.consumed) (hconsumed : σ'.consumed = σ.consumed ++ [id])
    (hanswers : σ'.answers = σ.answers)
    (howes : (∀ j, σ'.WorkerOwes j ↔ σ.WorkerOwes j ∨ j = id) ∧
        (∀ j, σ'.SweepOwes j ↔ σ.SweepOwes j) ∨
      (∀ j, σ'.WorkerOwes j ↔ σ.WorkerOwes j) ∧
        ∀ j, σ'.SweepOwes j ↔ σ.SweepOwes j ∨ j = id) : σ'.Answered := by
  have hfree : ¬ σ.WorkerOwes id ∧ ¬ σ.SweepOwes id :=
    ⟨fun ho => hid (h.workerOwes id ho).1, fun ho => hid (h.sweepOwes id ho)⟩
  have hothers : ∀ j, j ≠ id → ((σ'.WorkerOwes j ↔ σ.WorkerOwes j) ∧
      (σ'.SweepOwes j ↔ σ.SweepOwes j)) := by
    intro j hj
    rcases howes with ⟨hw, hs⟩ | ⟨hw, hs⟩ <;> simp [hw, hs, hj]
  have htaker : (σ'.WorkerOwes id ∨ σ'.SweepOwes id) ∧ (σ'.WorkerOwes id → ¬ σ'.SweepOwes id) := by
    rcases howes with ⟨hw, hs⟩ | ⟨hw, hs⟩ <;> simp [hw, hs, hfree]
  have hmem : ∀ j, j ∈ σ'.consumed ↔ j ∈ σ.consumed ∨ j = id := by simp [hconsumed]
  refine ⟨hconsumed ▸ List.nodup_append_singleton h.consumed hid, hanswers ▸ h.answers,
    fun j => ?_, fun j => ?_, fun j => ?_⟩
  all_goals by_cases hj : j = id
  · subst hj
    have hnot : j ∉ σ.answers.map Prod.fst := fun hanswered => hid ((h.iff j).mp hanswered).1
    rw [hanswers]
    exact iff_of_false hnot fun hboth => htaker.1.elim hboth.2.1 hboth.2.2
  · simpa [hmem, hj, hothers j hj, hanswers] using h.iff j
  · subst hj
    exact fun ho => ⟨(hmem j).mpr (.inr rfl), htaker.2 ho⟩
  · simpa [hmem, hj, hothers j hj] using h.workerOwes j
  · exact fun _ => (hmem j).mpr (.inr hj)
  · simpa [hmem, hj, hothers j hj] using h.sweepOwes j

/-- Whoever owes the answer gives it and owes nothing any more. -/
theorem Answered.respond {σ σ' : ServiceState} (h : σ.Answered) {id : RequestId}
    {reply : ServiceReply} (hid : id ∈ σ.consumed) (howes : σ.WorkerOwes id ∨ σ.SweepOwes id)
    (hconsumed : σ'.consumed = σ.consumed) (hanswers : σ'.answers = σ.answers ++ [(id, reply)])
    (hworker : ∀ j, σ'.WorkerOwes j ↔ σ.WorkerOwes j ∧ j ≠ id)
    (hsweep : ∀ j, σ'.SweepOwes j ↔ σ.SweepOwes j ∧ j ≠ id) : σ'.Answered := by
  have hanswered : id ∉ σ.answers.map Prod.fst := by
    rw [h.iff id]
    tauto
  refine ⟨hconsumed ▸ h.consumed, ?_, ?_, ?_, ?_⟩
  · rw [hanswers, List.map_append]
    exact List.nodup_append_singleton h.answers hanswered
  · intro j
    have hiff := h.iff j
    rw [hanswers, List.map_append, List.mem_append, hconsumed, hworker, hsweep, hiff]
    by_cases hj : j = id
    · subst hj
      simpa using hid
    · simp [hj]
  · intro j
    have hold := h.workerOwes j
    rw [hconsumed, hworker, hsweep]
    tauto
  · intro j
    have hold := h.sweepOwes j
    rw [hconsumed, hsweep]
    tauto

/-- Only a worker that is responding owes an answer. -/
theorem workerOwes_setWorker {σ : ServiceState} {id : RequestId} {phase : CallPhase}
    (hold : ¬ σ.WorkerOwes id) (hphase : ∀ reply, phase ≠ .responding reply) (j : RequestId) :
    (σ.setWorker id phase).WorkerOwes j ↔ σ.WorkerOwes j := by
  by_cases hj : j = id
  · subst hj
    simpa [WorkerOwes, setWorker, hphase] using hold
  · simp [WorkerOwes, setWorker, Function.update_of_ne hj]

theorem not_workerOwes {σ : ServiceState} {id : RequestId} {phase : CallPhase}
    (h : σ.worker id = phase) (hphase : ∀ reply, phase ≠ .responding reply) :
    ¬ σ.WorkerOwes id := by
  rintro ⟨reply, hreply⟩
  exact hphase reply (h ▸ hreply)

/-- A step of the sweep between two phases that owe nothing. -/
theorem Answered.setSweep {σ σ' : ServiceState} (h : σ.Answered)
    (hconsumed : σ'.consumed = σ.consumed) (hanswers : σ'.answers = σ.answers)
    (hworker : σ'.worker = σ.worker)
    (hold : ∀ sweep id expired, σ.sweep ≠ .responding sweep id expired)
    (hnew : ∀ sweep id expired, σ'.sweep ≠ .responding sweep id expired) : σ'.Answered :=
  h.of_owes hconsumed hanswers (fun id => by simp only [WorkerOwes, hworker])
    fun id => by simp [SweepOwes, hold, hnew]

theorem Answered.step {σ σ' : ServiceState} {a : ServiceAction} (h : σ.Answered) (hp : σ.Placed)
    (hs : σ.Step serviceCallTimeoutMs a σ') : σ'.Answered := by
  cases hs with
  | @unknown id request message hunseen _ =>
      exact h.reject (hp.open_of (.inl hunseen)).2 request none message
  | @rejected id request details message hfound _ =>
      exact h.reject (hp.open_of (.inr ⟨_, _, hfound⟩)).2 request (some details) message
  | @workerStarted id _ _ _ _ hqueued =>
      -- a queued request has no worker yet
      have hnot : ¬ σ.WorkerOwes id := fun ⟨reply, hreply⟩ => by
        simpa [hqueued, HandlerPhase.hasReturned] using hp.returned_of hreply (by simp)
      exact h.of_owes rfl rfl (workerOwes_setWorker hnot (by simp)) fun _ => .rfl
  | callReturned hcalling =>
      exact h.of_owes rfl rfl
        (workerOwes_setWorker (not_workerOwes hcalling (by simp)) (by simp)) fun _ => .rfl
  | @workerTook id _ _ _ _ reply hcalled hpresent =>
      refine h.take ((hp.present id).mp hpresent).2 rfl rfl (.inl ⟨fun j => ?_, fun _ => .rfl⟩)
      by_cases hj : j = id
      · simp [hj, WorkerOwes, ServiceState.setWorker]
      · simp [hj, WorkerOwes, ServiceState.setWorker, ServiceState.take]
  | workerLate hcalled _ =>
      exact h.of_owes rfl rfl
        (workerOwes_setWorker (not_workerOwes hcalled (by simp)) (by simp)) fun _ => .rfl
  | @workerResponded id reply hresponding =>
      have howes := h.workerOwes id ⟨reply, hresponding⟩
      refine h.respond howes.1 (.inl ⟨reply, hresponding⟩) rfl rfl (fun j => ?_) fun j => ?_
      · by_cases hj : j = id
        · simp [hj, WorkerOwes, ServiceState.setWorker]
        · simp [hj, WorkerOwes, ServiceState.setWorker, ServiceState.respond]
      · have hne : σ.SweepOwes j → j ≠ id := fun hj hid => howes.2 (hid ▸ hj)
        exact ⟨fun hj => ⟨hj, hne hj⟩, And.left⟩
  | sweepBegan hidle => exact h.setSweep rfl rfl rfl (by simp [hidle]) (by simp)
  | sweepLocked hbegan => exact h.setSweep rfl rfl rfl (by simp [hbegan]) (by simp)
  | checked hscanning | erasedCompleted hscanning | movedExpired hscanning | kept hscanning
  | sweepUnlocked hscanning =>
      exact h.setSweep rfl rfl rfl (by simp [hscanning]) (by simp)
  | @sweepTook sweep call expired hanswering hpresent =>
      refine h.take ((hp.present call).mp hpresent).2 rfl rfl (.inr ⟨fun _ => .rfl, fun j => ?_⟩)
      simp [SweepOwes, hanswering, eq_comm]
  | sweepLate hanswering | sweepReturned hanswering =>
      exact h.setSweep rfl rfl rfl (by simp [hanswering]) (by simp)
  | @sweepResponded sweep call expired reply hresponding =>
      have howes : σ.SweepOwes call := ⟨sweep, expired, hresponding⟩
      refine h.respond (h.sweepOwes call howes) (.inr howes) rfl rfl (fun j => ?_) fun j => ?_
      · have hne : σ.WorkerOwes j → j ≠ call := fun hj hid => (h.workerOwes j hj).2 (hid ▸ howes)
        exact ⟨fun hj => ⟨hj, hne hj⟩, And.left⟩
      · simp [SweepOwes, hresponding, eq_comm]
  | _ => exact h.of_owes rfl rfl (fun _ => .rfl) fun _ => .rfl

theorem answered {σ : ServiceState} (h : (serviceSystem serviceCallTimeoutMs).Reachable σ) :
    σ.Answered :=
  h.invariant_of (fun _ hr => placed hr.reachable) (fun _ h0 => .initial h0)
    fun _ _ _ hi hp _ hs => hi.step hp (step_rule hs)

/-! ## Where an accepted call is held -/

/-- The list of calls with their deadlines is right, a call whose responder is
there is held by the list or by the sweep, and the sweep's flag for the entry at
its iterator is not out of date once it says completed. -/
structure Tracked (σ : ServiceState) : Prop where
  stamped : ∀ entry ∈ σ.pendingServiceCalls,
    entry.call ∈ σ.accepted ∧ entry.deadline = σ.deadline entry.call
  held : ∀ id, (σ.pending id).responder = true →
    (∃ entry ∈ σ.pendingServiceCalls, entry.call = id) ∨ id ∈ σ.sweep.expired
  completed : ∀ sweep expired it, σ.sweep = .scanning sweep expired it (some true) →
    ∀ entry, σ.pendingServiceCalls[it]? = some entry → (σ.pending entry.call).responder = false

theorem Tracked.initial {σ : ServiceState} (h : σ.Initial) : σ.Tracked := by
  obtain ⟨-, hpending, -, hlist, hsweep, -, -, -, -⟩ := h
  constructor <;> simp [hpending, hlist, hsweep]

theorem Tracked.accept {σ : ServiceState} (h : σ.Tracked) {id : RequestId}
    (hid : id ∉ σ.accepted) (hfree : σ.sweep.locked = false) (request : ServiceRequest)
    (details : ServiceDetails) : (σ.accept serviceCallTimeoutMs id request details).Tracked := by
  refine ⟨?_, ?_, ?_⟩
  · intro entry hentry
    rcases List.mem_append.mp hentry with hold | hnew
    · obtain ⟨haccepted, hdeadline⟩ := h.stamped entry hold
      have hne : entry.call ≠ id := fun heq => hid (heq ▸ haccepted)
      exact ⟨List.mem_append_left _ haccepted,
        hdeadline.trans (by simp [ServiceState.accept, Function.update_of_ne hne])⟩
    · obtain rfl := List.mem_singleton.mp hnew
      simp [ServiceState.accept]
  · intro j hj
    by_cases hji : j = id
    · exact .inl ⟨_, List.mem_append_right _ (List.mem_singleton_self _), hji.symm⟩
    · have hold := h.held j (by simpa [ServiceState.accept, Function.update_of_ne hji] using hj)
      exact hold.imp_left fun ⟨entry, hentry, hcall⟩ =>
        ⟨entry, List.mem_append_left _ hentry, hcall⟩
  · intro sweep expired it hscanning
    -- the list is free, so no scan is in progress
    have hlocked : σ.sweep.locked = true := by
      rw [show σ.sweep = _ from hscanning]
      rfl
    simp [hlocked] at hfree

/-- Taking responders out frees calls from being held. -/
theorem Tracked.of_present {σ σ' : ServiceState} (h : σ.Tracked)
    (hlist : σ'.pendingServiceCalls = σ.pendingServiceCalls) (haccepted : σ'.accepted = σ.accepted)
    (hdeadline : σ'.deadline = σ.deadline) (hsweep : σ'.sweep = σ.sweep)
    (hpresent : ∀ id, (σ'.pending id).responder = true → (σ.pending id).responder = true) :
    σ'.Tracked := by
  refine ⟨?_, ?_, ?_⟩
  · rw [hlist, haccepted, hdeadline]
    exact h.stamped
  · intro id hid
    rw [hlist, hsweep]
    exact h.held id (hpresent id hid)
  · intro sweep expired it
    rw [hlist, hsweep]
    intro hscanning entry hentry
    have hold := h.completed sweep expired it hscanning entry hentry
    exact Bool.eq_false_iff.mpr fun hp => by simp [hpresent _ hp] at hold

theorem take_present {σ : ServiceState} {id j : RequestId}
    (h : ((σ.take id).pending j).responder = true) : j ≠ id ∧ (σ.pending j).responder = true := by
  by_cases hj : j = id
  · subst hj
    simp [take] at h
  · exact ⟨hj, by simpa [take, Function.update_of_ne hj] using h⟩

/-- A step of the sweep that keeps the list, and in its vector every call whose
responder is there. -/
theorem Tracked.setSweep {σ σ' : ServiceState} (h : σ.Tracked)
    (hlist : σ'.pendingServiceCalls = σ.pendingServiceCalls) (haccepted : σ'.accepted = σ.accepted)
    (hdeadline : σ'.deadline = σ.deadline)
    (hpresent : ∀ id, (σ'.pending id).responder = true → (σ.pending id).responder = true)
    (hexpired : ∀ id, (σ'.pending id).responder = true →
      id ∈ σ.sweep.expired → id ∈ σ'.sweep.expired)
    (hflag : ∀ sweep expired it, σ'.sweep ≠ .scanning sweep expired it (some true)) :
    σ'.Tracked := by
  refine ⟨?_, ?_, ?_⟩
  · rw [hlist, haccepted, hdeadline]
    exact h.stamped
  · intro id hid
    rw [hlist]
    exact (h.held id (hpresent id hid)).imp_right (hexpired id hid)
  · intro sweep expired it hscanning
    exact absurd hscanning (hflag sweep expired it)

/-- Erasing an entry at the iterator whose call is gone or moved to the vector. -/
theorem Tracked.eraseIdx {σ σ' : ServiceState} (h : σ.Tracked) {it : Nat} {entry : PendingEntry}
    (hentry : σ.pendingServiceCalls[it]? = some entry)
    (hlist : σ'.pendingServiceCalls = σ.pendingServiceCalls.eraseIdx it)
    (haccepted : σ'.accepted = σ.accepted) (hdeadline : σ'.deadline = σ.deadline)
    (hpending : σ'.pending = σ.pending) (hexpired : σ.sweep.expired ⊆ σ'.sweep.expired)
    (hmoved : (σ.pending entry.call).responder = true → entry.call ∈ σ'.sweep.expired)
    (hflag : ∀ sweep expired it, σ'.sweep ≠ .scanning sweep expired it (some true)) :
    σ'.Tracked := by
  refine ⟨?_, ?_, ?_⟩
  · intro e he
    rw [hlist] at he
    rw [haccepted, hdeadline]
    exact h.stamped e (List.mem_of_mem_eraseIdx he)
  · intro id hid
    rw [hpending] at hid
    rcases h.held id hid with ⟨e, he, hcall⟩ | hold
    · by_cases hee : e = entry
      · subst hee
        exact .inr (hcall ▸ hmoved (hcall ▸ hid))
      · exact .inl ⟨e, hlist ▸ List.mem_eraseIdx_of_ne he hentry hee, hcall⟩
    · exact .inr (hexpired hold)
  · intro sweep expired it hscanning
    exact absurd hscanning (hflag sweep expired it)

theorem Tracked.step {σ σ' : ServiceState} {a : ServiceAction} (h : σ.Tracked) (hp : σ.Placed)
    (hs : σ.Step serviceCallTimeoutMs a σ') : σ'.Tracked := by
  cases hs with
  | @accepted id request details hfound _ hfree =>
      exact h.accept (hp.open_of (.inr ⟨_, _, hfound⟩)).1 hfree request details
  | workerTook => exact h.of_present rfl rfl rfl rfl fun _ hid => (take_present hid).2
  | sweepBegan hphase | sweepLocked hphase | sweepUnlocked hphase | kept hphase
  | sweepResponded hphase | sweepReturned hphase =>
      exact h.setSweep rfl rfl rfl (fun _ hid => hid) (by simp [hphase, SweepPhase.expired])
        (by simp)
  | @checked sweep expired it entry hscanning hentry =>
      refine ⟨h.stamped, ?_, ?_⟩
      · intro id hid
        simpa [hscanning, SweepPhase.expired] using h.held id hid
      · intro _ _ _ hnew entry' hentry'
        -- the flag is what the check has just read
        obtain ⟨-, -, rfl, hflag⟩ : _ ∧ _ ∧ it = _ ∧ _ := by simpa using hnew
        obtain rfl := Option.some.inj (hentry.symm.trans hentry')
        simpa using hflag
  | @erasedCompleted sweep expired it entry hscanning hentry =>
      have hgone := h.completed sweep expired it hscanning entry hentry
      refine h.eraseIdx hentry rfl rfl rfl rfl ?_ (fun hthere => ?_) (by simp)
      · simp [hscanning, SweepPhase.expired]
      · simp [hthere] at hgone
  | @movedExpired sweep expired it entry hscanning hentry _ =>
      refine h.eraseIdx hentry rfl rfl rfl rfl ?_ (fun _ => ?_) (by simp)
      · simp [hscanning, SweepPhase.expired]
      · simp [SweepPhase.expired]
  | @sweepTook sweep call expired hanswering _ =>
      refine h.setSweep rfl rfl rfl (fun _ hid => (take_present hid).2) ?_ (by simp)
      intro id hid
      simp [hanswering, SweepPhase.expired, (take_present hid).1]
  | @sweepLate sweep call expired hanswering hgone =>
      refine h.setSweep rfl rfl rfl (fun _ hid => hid) ?_ (by simp)
      intro id hid
      have hthere : (σ.pending id).responder = true := hid
      have hne : id ≠ call := by
        rintro rfl
        simp [hthere] at hgone
      simp [hanswering, SweepPhase.expired, hne]
  | _ => exact ⟨h.stamped, h.held, h.completed⟩

theorem tracked {σ : ServiceState} (h : (serviceSystem serviceCallTimeoutMs).Reachable σ) :
    σ.Tracked :=
  h.invariant_of (fun _ hr => placed hr.reachable) (fun _ h0 => .initial h0)
    fun _ _ _ hi hp _ hs => hi.step hp (step_rule hs)

/-! ## What a sweep leaves behind -/

/-- What a step may do to the fields that a sweep compares. -/
structure Grows (serviceCallTimeoutMs : Int) (σ σ' : ServiceState) : Prop where
  clock : σ.clock ≤ σ'.clock
  accepted : ∀ id ∈ σ.accepted, id ∈ σ'.accepted ∧ σ'.deadline id = σ.deadline id
  fresh : ∀ id ∈ σ'.accepted, id ∉ σ.accepted →
    σ'.deadline id = σ.clock + 1000000 * serviceCallTimeoutMs
  consumed : ∀ id ∈ σ.consumed, id ∈ σ'.consumed
  present : ∀ id ∈ σ.accepted, (σ'.pending id).responder = true → (σ.pending id).responder = true

theorem Grows.of_same {σ σ' : ServiceState} (hclock : σ.clock ≤ σ'.clock)
    (haccepted : σ'.accepted = σ.accepted) (hdeadline : σ'.deadline = σ.deadline)
    (hconsumed : ∀ id ∈ σ.consumed, id ∈ σ'.consumed)
    (hpresent : ∀ id, (σ'.pending id).responder = true → (σ.pending id).responder = true) :
    Grows serviceCallTimeoutMs σ σ' where
  clock := hclock
  accepted id hid := ⟨haccepted ▸ hid, by rw [hdeadline]⟩
  fresh id hid hnot := absurd (haccepted ▸ hid) hnot
  consumed := hconsumed
  present id _ := hpresent id

theorem Step.grows {σ σ' : ServiceState} {a : ServiceAction} (hp : σ.Placed)
    (hs : σ.Step serviceCallTimeoutMs a σ') : Grows serviceCallTimeoutMs σ σ' := by
  cases hs with
  | @ticked elapsed =>
      have hclock : σ.clock ≤ σ.clock + elapsed := by omega
      exact .of_same hclock rfl rfl (fun _ => id) fun _ => id
  | unknown | rejected =>
      exact .of_same (Int.le_refl _) rfl rfl (fun _ => List.mem_append_left _) fun _ => id
  | @accepted id request details hfound _ _ =>
      have hid := (hp.open_of (.inr ⟨_, _, hfound⟩)).1
      have hne : ∀ j ∈ σ.accepted, j ≠ id := fun j hj hji => hid (hji ▸ hj)
      refine ⟨Int.le_refl _, fun j hj => ⟨List.mem_append_left _ hj, ?_⟩, ?_, fun _ hj => hj, ?_⟩
      · simp [accept, Function.update_of_ne (hne j hj)]
      · intro j hj hnot
        obtain rfl : j = id := by simpa [accept, hnot] using hj
        simp [accept]
      · intro j hj
        simp [accept, Function.update_of_ne (hne j hj)]
  | workerTook | sweepTook =>
      exact .of_same (Int.le_refl _) rfl rfl (fun _ => List.mem_append_left _)
        fun _ hid => (take_present hid).2
  | _ => exact .of_same (Int.le_refl _) rfl rfl (fun _ => id) fun _ => id

/-- A sweep read the clock when it knew every accepted request; one accepted later
has a deadline a whole timeout after that. -/
structure Begun (serviceCallTimeoutMs : Int) (σ : ServiceState) (sweep : Sweep) : Prop where
  now_le : sweep.now ≤ σ.clock
  known : ∀ id ∈ sweep.known, id ∈ σ.accepted
  late : ∀ id ∈ σ.accepted, id ∉ sweep.known →
    sweep.now + 1000000 * serviceCallTimeoutMs ≤ σ.deadline id

theorem Begun.mono {σ σ' : ServiceState} {sweep : Sweep} (h : Begun serviceCallTimeoutMs σ sweep)
    (hg : Grows serviceCallTimeoutMs σ σ') : Begun serviceCallTimeoutMs σ' sweep where
  now_le := Int.le_trans h.now_le hg.clock
  known id hid := (hg.accepted id (h.known id hid)).1
  late id hid hnot := by
    by_cases hold : id ∈ σ.accepted
    · rw [(hg.accepted id hold).2]
      exact h.late id hold hnot
    · rw [hg.fresh id hid hold]
      have := h.now_le
      omega

/-- The requests that a sweep has to see answered. -/
def Due (σ : ServiceState) (sweep : Sweep) (id : RequestId) : Prop :=
  id ∈ sweep.known ∧ σ.deadline id ≤ sweep.now

/-- How far the sweep in progress has come: what the loop has stepped over is not
due, and after the loop every due call whose responder is there is still to be
answered. -/
def Covers (σ : ServiceState) : SweepPhase → Prop
  | .idle | .began _ => True
  | .scanning sweep _ it _ =>
      ∀ i entry, i < it → σ.pendingServiceCalls[i]? = some entry → sweep.now < entry.deadline
  | .answering sweep expired | .responding sweep _ expired =>
      ∀ id, σ.Due sweep id → (σ.pending id).responder = true → id ∈ expired

/-- Every sweep, in progress or finished, began as `Begun` says, and a finished one
has left no due call behind. -/
structure Swept (serviceCallTimeoutMs : Int) (σ : ServiceState) : Prop where
  active : ∀ sweep, σ.sweep.active = some sweep → Begun serviceCallTimeoutMs σ sweep
  covers : σ.Covers σ.sweep
  past : ∀ sweep ∈ σ.swept, Begun serviceCallTimeoutMs σ sweep
  done : ∀ sweep ∈ σ.swept, ∀ id, σ.Due sweep id → id ∈ σ.consumed

theorem Swept.initial {σ : ServiceState} (h : σ.Initial) : Swept serviceCallTimeoutMs σ := by
  obtain ⟨-, -, -, -, hsweep, -, -, -, hswept⟩ := h
  constructor <;> simp [hsweep, hswept, SweepPhase.active, Covers]

theorem Due.of_grows {σ σ' : ServiceState} {sweep : Sweep} {id : RequestId}
    (h : σ'.Due sweep id) (hb : Begun serviceCallTimeoutMs σ sweep)
    (hg : Grows serviceCallTimeoutMs σ σ') : σ.Due sweep id :=
  ⟨h.1, (hg.accepted id (hb.known id h.1)).2 ▸ h.2⟩

/-- Steps that leave the sweep where it is, and the list too while it scans. -/
theorem Covers.of_grows {σ σ' : ServiceState} (h : σ.Covers σ.sweep)
    (hb : ∀ sweep, σ.sweep.active = some sweep → Begun serviceCallTimeoutMs σ sweep)
    (hg : Grows serviceCallTimeoutMs σ σ')
    (hlist : σ.sweep.locked = true → σ'.pendingServiceCalls = σ.pendingServiceCalls) :
    σ'.Covers σ.sweep := by
  cases hsweep : σ.sweep with
  | idle | began => trivial
  | scanning sweep expired it completed =>
      rw [hsweep] at h hlist
      simpa only [Covers, hlist rfl] using h
  | answering sweep expired | responding sweep call expired =>
      rw [hsweep] at h
      have hbegun := hb sweep (by rw [hsweep]; rfl)
      intro id hdue hid
      exact h id (hdue.of_grows hbegun hg) (hg.present id (hbegun.known id hdue.1) hid)

theorem Swept.of_grows {σ σ' : ServiceState} (h : Swept serviceCallTimeoutMs σ)
    (hg : Grows serviceCallTimeoutMs σ σ') (hsweep : σ'.sweep = σ.sweep)
    (hswept : σ'.swept = σ.swept)
    (hlist : σ.sweep.locked = true → σ'.pendingServiceCalls = σ.pendingServiceCalls) :
    Swept serviceCallTimeoutMs σ' where
  active sweep hactive := (h.active sweep (hsweep ▸ hactive)).mono hg
  covers := hsweep ▸ h.covers.of_grows h.active hg hlist
  past sweep hpast := (h.past sweep (hswept ▸ hpast)).mono hg
  done sweep hpast id hdue :=
    hg.consumed id (h.done sweep (hswept ▸ hpast) id
      (hdue.of_grows (h.past sweep (hswept ▸ hpast)) hg))

/-- Steps of the sweep itself, after which the same sweep covers what it has to. -/
theorem Swept.setSweep {σ σ' : ServiceState} (h : Swept serviceCallTimeoutMs σ)
    (hg : Grows serviceCallTimeoutMs σ σ') (hactive : σ'.sweep.active = σ.sweep.active)
    (hswept : σ'.swept = σ.swept) (hcovers : σ'.Covers σ'.sweep) :
    Swept serviceCallTimeoutMs σ' where
  active sweep hs := (h.active sweep (hactive ▸ hs)).mono hg
  covers := hcovers
  past sweep hpast := (h.past sweep (hswept ▸ hpast)).mono hg
  done sweep hpast id hdue :=
    hg.consumed id (h.done sweep (hswept ▸ hpast) id
      (hdue.of_grows (h.past sweep (hswept ▸ hpast)) hg))

/-- After the loop, a due call whose responder is there is not in the list any
more, so it is in the local vector. -/
theorem covers_unlock {σ : ServiceState} {sweep : Sweep} {expired : List RequestId}
    (h : σ.Covers σ.sweep) (ht : σ.Tracked)
    (hscanning : σ.sweep = .scanning sweep expired σ.pendingServiceCalls.length none) :
    σ.Covers (.answering sweep expired) := by
  intro id hdue hid
  rw [hscanning] at h
  rcases ht.held id hid with ⟨entry, hentry, hcall⟩ | hexpired
  · obtain ⟨i, hi, hget⟩ := List.getElem_of_mem hentry
    have hlater := h i entry hi (List.getElem?_eq_some_iff.mpr ⟨hi, hget⟩)
    have hstamp := (ht.stamped entry hentry).2
    have hpast := hdue.2
    rw [hcall] at hstamp
    omega
  · simpa [hscanning, SweepPhase.expired] using hexpired

/-- Erasing at the iterator keeps what the loop has stepped over. -/
theorem covers_eraseIdx {σ : ServiceState} {sweep : Sweep} {expired : List RequestId} {it : Nat}
    {completed : Option Bool} (h : σ.Covers (.scanning sweep expired it completed))
    {σ' : ServiceState} (hlist : σ'.pendingServiceCalls = σ.pendingServiceCalls.eraseIdx it)
    (expired' : List RequestId) : σ'.Covers (.scanning sweep expired' it none) := by
  intro i entry hi hentry
  rw [hlist, List.getElem?_eraseIdx_of_lt hi] at hentry
  exact h i entry hi hentry

theorem Swept.step {σ σ' : ServiceState} {a : ServiceAction} (h : Swept serviceCallTimeoutMs σ)
    (hp : σ.Placed) (ht : σ.Tracked) (hs : σ.Step serviceCallTimeoutMs a σ') :
    Swept serviceCallTimeoutMs σ' := by
  have hg := hs.grows hp
  have hcovers := h.covers
  cases hs with
  | accepted _ _ hfree => exact h.of_grows hg rfl rfl fun hlocked => by simp [hfree] at hlocked
  | sweepBegan hidle =>
      refine ⟨?_, trivial, fun sweep hpast => (h.past sweep hpast).mono hg, h.done⟩
      rintro _ ⟨⟩
      exact ⟨Int.le_refl _, fun _ hid => hid, fun id hid hnot => absurd hid hnot⟩
  | sweepLocked hbegan =>
      apply h.setSweep hg (by rw [hbegan]; rfl) rfl
      intro i entry hi
      exact absurd hi (Nat.not_lt_zero i)
  | checked hscanning _ =>
      rw [hscanning] at hcovers
      exact h.setSweep hg (by rw [hscanning]; rfl) rfl hcovers
  | erasedCompleted hscanning _ | movedExpired hscanning _ _ =>
      rw [hscanning] at hcovers
      exact h.setSweep hg (by rw [hscanning]; rfl) rfl (covers_eraseIdx hcovers rfl _)
  | @kept sweep expired it entry hscanning hentry hlater =>
      rw [hscanning] at hcovers
      apply h.setSweep hg (by rw [hscanning]; rfl) rfl
      intro i e hi he
      rcases Nat.lt_succ_iff_lt_or_eq.mp hi with hlt | rfl
      · exact hcovers i e hlt he
      · obtain rfl := Option.some.inj (hentry.symm.trans he)
        exact hlater
  | sweepUnlocked hscanning =>
      have hafter := covers_unlock hcovers ht hscanning
      exact h.setSweep hg (by rw [hscanning]; rfl) rfl hafter
  | @sweepTook sweep call expired hanswering _ =>
      rw [hanswering] at hcovers
      apply h.setSweep hg (by rw [hanswering]; rfl) rfl
      intro id hdue hid
      obtain ⟨hne, hold⟩ := take_present hid
      exact (List.mem_cons.mp (hcovers id hdue hold)).resolve_left hne
  | @sweepLate sweep call expired hanswering hgone =>
      rw [hanswering] at hcovers
      apply h.setSweep hg (by rw [hanswering]; rfl) rfl
      intro id hdue hid
      have hthere : (σ.pending id).responder = true := hid
      apply (List.mem_cons.mp (hcovers id hdue hthere)).resolve_left
      rintro rfl
      simp [hthere] at hgone
  | sweepResponded hresponding =>
      rw [hresponding] at hcovers
      exact h.setSweep hg (by rw [hresponding]; rfl) rfl hcovers
  | @sweepReturned sweep hanswering =>
      rw [hanswering] at hcovers
      have hbegun := h.active sweep (by rw [hanswering]; rfl)
      refine ⟨by simp [SweepPhase.active], trivial, ?_, ?_⟩
      · intro s hs
        rcases List.mem_append.mp hs with hpast | hnew
        · exact (h.past s hpast).mono hg
        · obtain rfl := List.mem_singleton.mp hnew
          exact hbegun.mono hg
      · intro s hs id hdue
        rcases List.mem_append.mp hs with hpast | hnew
        · exact h.done s hpast id hdue
        · obtain rfl := List.mem_singleton.mp hnew
          -- nothing is left in the vector, so the responder is gone
          by_contra hnot
          have hthere := (hp.present id).mpr ⟨hbegun.known id hdue.1, hnot⟩
          exact absurd (hcovers id hdue hthere) List.not_mem_nil
  | _ => exact h.of_grows hg rfl rfl fun _ => rfl

theorem swept_of_reachable {σ : ServiceState}
    (h : (serviceSystem serviceCallTimeoutMs).Reachable σ) : Swept serviceCallTimeoutMs σ :=
  h.invariant_of (fun _ hr => And.intro (placed hr.reachable) (tracked hr.reachable))
    (fun _ h0 => .initial h0) fun _ _ _ hi hj _ hs => hi.step hj.1 hj.2 (step_rule hs)

/-! ## Which requests are rejected -/

/-- A rejected request has the answer its checks ask for, a queued one has passed
them. -/
def Checked (answers : List (RequestId × ServiceReply)) (id : RequestId) : HandlerPhase → Prop
  | .unseen | .found _ _ => True
  | .rejected request details =>
      ∃ message, rejection request details = some message ∧ (id, .error message) ∈ answers
  | .queued request details | .returned request details =>
      rejection request (some details) = none

theorem Checked.mono {answers answers' : List (RequestId × ServiceReply)} {id : RequestId}
    {phase : HandlerPhase} (h : Checked answers id phase) (hle : answers ⊆ answers') :
    Checked answers' id phase := by
  cases phase with
  | rejected request details =>
      obtain ⟨message, hmessage, hanswer⟩ := h
      exact ⟨message, hmessage, hle hanswer⟩
  | unseen | found | queued | returned => exact h

/-- One handler moves on to a phase that is checked, and answers are only added. -/
theorem checked_update {σ : ServiceState} {answers : List (RequestId × ServiceReply)}
    (h : ∀ id, Checked σ.answers id (σ.handler id)) (hle : σ.answers ⊆ answers) {id : RequestId}
    {phase : HandlerPhase} (hphase : Checked answers id phase) (j : RequestId) :
    Checked answers j (Function.update σ.handler id phase j) := by
  by_cases hj : j = id
  · subst hj
    simpa using hphase
  · simpa [Function.update_of_ne hj] using (h j).mono hle

theorem checked_step {σ σ' : ServiceState} {a : ServiceAction}
    (h : ∀ id, Checked σ.answers id (σ.handler id)) (hs : σ.Step serviceCallTimeoutMs a σ') :
    ∀ id, Checked σ'.answers id (σ'.handler id) := by
  cases hs with
  | unknown _ hmessage | rejected _ hmessage =>
      exact checked_update h (List.subset_append_left _ _) ⟨_, hmessage, by simp⟩
  | found => exact checked_update h (List.Subset.refl _) trivial
  | accepted _ hpass _ => exact checked_update h (List.Subset.refl _) hpass
  | @workerStarted id _ _ _ _ hqueued =>
      have hpass := h id
      rw [hqueued] at hpass
      exact checked_update h (List.Subset.refl _) hpass
  | workerResponded | sweepResponded =>
      exact fun id => (h id).mono (List.subset_append_left _ _)
  | _ => exact h

theorem checked {σ : ServiceState} (h : (serviceSystem serviceCallTimeoutMs).Reachable σ) :
    ∀ id, Checked σ.answers id (σ.handler id) :=
  h.invariant
    { init := fun _ h0 id => by simp [h0.1 id, Checked]
      step := fun _ _ _ hi _ hs => checked_step hi (step_rule hs) }

end ServiceState

/-- Where a handler can be one step later: it goes on with what the lookup found. -/
def HandlerPhase.Leads : HandlerPhase → HandlerPhase → Prop
  | .unseen, _ => True
  | .found request details, after =>
      after = .found request details ∨ after = .rejected request (some details) ∨
        after = .queued request details
  | .queued request details, after =>
      after = .queued request details ∨ after = .returned request details
  | .rejected request details, after => after = .rejected request details
  | .returned request details, after => after = .returned request details

theorem HandlerPhase.leads_self (phase : HandlerPhase) : phase.Leads phase := by
  cases phase with
  | unseen => trivial
  | found | queued => exact .inl rfl
  | rejected | returned => rfl

namespace ServiceState

theorem Step.leads {σ σ' : ServiceState} {a : ServiceAction}
    (hs : σ.Step serviceCallTimeoutMs a σ') (id : RequestId) :
    (σ.handler id).Leads (σ'.handler id) := by
  have hupdate : ∀ {j : RequestId} {phase : HandlerPhase}, (σ.handler j).Leads phase →
      (σ.handler id).Leads (Function.update σ.handler j phase id) := by
    intro j phase hj
    by_cases hne : id = j
    · subst hne
      rwa [Function.update_self]
    · rw [Function.update_of_ne hne]
      exact HandlerPhase.leads_self _
  cases hs with
  | unknown hphase | found hphase =>
      refine hupdate ?_
      rw [hphase]
      trivial
  | rejected hphase =>
      refine hupdate ?_
      rw [hphase]
      exact .inr (.inl rfl)
  | accepted hphase =>
      refine hupdate ?_
      rw [hphase]
      exact .inr (.inr rfl)
  | workerStarted hphase =>
      refine hupdate ?_
      rw [hphase]
      exact .inr rfl
  | _ => exact HandlerPhase.leads_self _

/-- A request is looked up in the table as it is when the request arrives. -/
theorem handler_of_receive {σ σ' : ServiceState} {id : RequestId} {request : ServiceRequest}
    (hs : σ.step serviceCallTimeoutMs (.receive id request) = some σ') :
    σ'.handler id = match σ.advertisedServices.lookup request.serviceName with
      | none => .rejected request none
      | some details => .found request details := by
  cases hlookup : σ.advertisedServices.lookup request.serviceName with
  | none =>
      simp only [step, hlookup] at hs
      split at hs
      · obtain ⟨message, -, rfl⟩ := Option.map_eq_some_iff.mp hs
        exact Function.update_self ..
      · cases hs
  | some details =>
      simp only [step, hlookup] at hs
      split at hs
      · obtain rfl := Option.some.inj hs
        exact Function.update_self ..
      · cases hs

/-- An entry leaves the list by being erased at the sweep's iterator. -/
theorem Step.leaves {σ σ' : ServiceState} {a : ServiceAction}
    (hs : σ.Step serviceCallTimeoutMs a σ') (ht : σ.Tracked) (hsw : Swept serviceCallTimeoutMs σ)
    {entry : PendingEntry} (hin : entry ∈ σ.pendingServiceCalls)
    (hout : entry ∉ σ'.pendingServiceCalls) :
    (σ.pending entry.call).responder = false ∨ entry.deadline ≤ σ.clock := by
  cases hs with
  | accepted => exact absurd (List.mem_append_left _ hin) hout
  | @erasedCompleted sweep expired it erased hscanning hentry =>
      by_cases heq : entry = erased
      · exact .inl (heq ▸ ht.completed sweep expired it hscanning _ hentry)
      · exact absurd (List.mem_eraseIdx_of_ne hin hentry heq) hout
  | @movedExpired sweep _ _ moved hscanning hentry hdue =>
      by_cases heq : entry = moved
      · have hnow := (hsw.active sweep (by rw [hscanning]; rfl)).now_le
        exact .inr (Int.le_trans (heq ▸ hdue) hnow)
      · exact absurd (List.mem_eraseIdx_of_ne hin hentry heq) hout
  | _ => exact absurd hin hout

/-! ## A worker that has finished -/

theorem Placed.accepted_of_worker {σ : ServiceState} (h : σ.Placed) {id : RequestId}
    (hid : σ.worker id ≠ .notStarted) : id ∈ σ.accepted := by
  by_contra hnot
  have hreturned := h.not_returned hnot
  rw [h.worker id hid] at hreturned
  cases hreturned

/-- The worker that finds no responder is late: somebody used it. -/
theorem finished_step {σ σ' : ServiceState} {a : ServiceAction}
    (h : ∀ id, σ.worker id = .finished → id ∈ σ.consumed) (hp : σ.Placed) (ha : σ.Answered)
    (hs : σ.Step serviceCallTimeoutMs a σ') :
    ∀ id, σ'.worker id = .finished → id ∈ σ'.consumed := by
  have hg := hs.grows hp
  have hset : ∀ {j : RequestId} {phase : CallPhase}, (phase = .finished → j ∈ σ.consumed) →
      ∀ id, Function.update σ.worker j phase id = .finished → id ∈ σ'.consumed := by
    intro j phase hj id hid
    by_cases heq : id = j
    · subst heq
      exact hg.consumed id (hj (by simpa using hid))
    · exact hg.consumed id (h id (by simpa [Function.update_of_ne heq] using hid))
  cases hs with
  | workerStarted | callReturned | workerTook => exact hset (by simp)
  | @workerLate id _ _ _ _ hcalled hgone =>
      apply hset
      intro _
      by_contra hnot
      have haccepted : id ∈ σ.accepted := hp.accepted_of_worker (by simp [hcalled])
      simp [(hp.present id).mpr ⟨haccepted, hnot⟩] at hgone
  | workerResponded hresponding => exact hset fun _ => (ha.workerOwes _ ⟨_, hresponding⟩).1
  | _ => exact fun id hid => hg.consumed id (h id hid)

theorem finished {σ : ServiceState} (h : (serviceSystem serviceCallTimeoutMs).Reachable σ) :
    ∀ id, σ.worker id = .finished → id ∈ σ.consumed :=
  h.invariant_of (fun _ hr => And.intro (placed hr.reachable) (answered hr.reachable))
    (fun _ h0 id hid => by simp [h0.2.2.1 id] at hid)
    fun _ _ _ hi hj _ hs => finished_step hi hj.1 hj.2 (step_rule hs)

end ServiceState

/-! ## The guarantees -/

/-- What clients and the bridge can rely on in a state of the service calls. -/
structure ExactlyOnce (serviceCallTimeoutMs : Int) (σ : ServiceState) : Prop where
  /-- No responder is used twice and no request is answered twice. -/
  once : σ.consumed.Nodup ∧ (σ.answers.map Prod.fst).Nodup
  /-- A used responder has been answered, or whoever took it is about to. -/
  answered : ∀ id ∈ σ.consumed,
    id ∈ σ.answers.map Prod.fst ∨ σ.WorkerOwes id ∨ σ.SweepOwes id
  /-- A request is looked up in the table of services as it is when the request arrives, and
  what was found there goes with it. -/
  lookedUp : (∀ id request σ', σ.step serviceCallTimeoutMs (.receive id request) = some σ' →
      σ'.handler id = match σ.advertisedServices.lookup request.serviceName with
        | none => .rejected request none
        | some details => .found request details) ∧
    ∀ id a σ', σ.step serviceCallTimeoutMs a = some σ' → (σ.handler id).Leads (σ'.handler id)
  /-- A request that fails a check gets that error, once, stays rejected and is
  never queued. -/
  rejected : ∀ id request details, σ.handler id = .rejected request details →
    (∃ message, rejection request details = some message ∧
      σ.answers.filter (fun answer => answer.1 = id) = [(id, .error message)]) ∧
    id ∉ σ.accepted ∧ (∀ entry ∈ σ.pendingServiceCalls, entry.call ≠ id) ∧
    ∀ a σ', σ.step serviceCallTimeoutMs a = some σ' → σ'.handler id = .rejected request details
  /-- A queued request has passed the checks. -/
  passed : ∀ id request details,
    σ.handler id = .queued request details ∨ σ.handler id = .returned request details →
    rejection request (some details) = none ∧ id ∈ σ.accepted
  /-- An accepted request whose responder is there is held by the list or by the
  sweep. -/
  held : ∀ id ∈ σ.accepted, (σ.pending id).responder = true →
    (∃ entry ∈ σ.pendingServiceCalls, entry.call = id) ∨ id ∈ σ.sweep.expired
  /-- After its worker has finished the responder is used. -/
  workerFinished : ∀ id, σ.worker id = .finished → id ∈ σ.consumed
  /-- So it is after a sweep that began at or after its deadline, and after its
  acceptance unless the timeout is positive. -/
  sweepFinished : ∀ sweep ∈ σ.swept, ∀ id ∈ σ.accepted, σ.deadline id ≤ sweep.now →
    id ∈ sweep.known ∨ 0 < serviceCallTimeoutMs → id ∈ σ.consumed
  /-- An entry leaves the list completed or past its deadline, which is the one the
  request was queued with. -/
  leaves : ∀ entry ∈ σ.pendingServiceCalls, entry.deadline = σ.deadline entry.call ∧
    ∀ a σ', σ.step serviceCallTimeoutMs a = some σ' → entry ∉ σ'.pendingServiceCalls →
      (σ.pending entry.call).responder = false ∨ entry.deadline ≤ σ.clock

open ServiceState in
/-- **Every service request is answered exactly once.** In any interleaving of
handlers, workers and sweeps no responder is used twice or lost: up-front
rejections answer at once, and an accepted request is answered by its worker or by
the sweep, whichever takes the responder first, at the latest when a sweep that
knew the request after its deadline is over. -/
theorem exactlyOnce {serviceCallTimeoutMs : Int} {σ : ServiceState}
    (h : (serviceSystem serviceCallTimeoutMs).Reachable σ) :
    ExactlyOnce serviceCallTimeoutMs σ := by
  have hplaced := placed h
  have hanswered := answered h
  have htracked := tracked h
  have hswept := swept_of_reachable h
  refine ⟨⟨hanswered.consumed, hanswered.answers⟩, ?_,
    ⟨fun _ _ _ hs => handler_of_receive hs, fun id _ _ hs => (step_rule hs).leads id⟩,
    ?_, ?_,
    fun id _ hid => htracked.held id hid, finished h,
    ?_, ?_⟩
  · intro id hid
    have hiff := hanswered.iff id
    tauto
  · intro id request details hid
    have hchecked := checked h id
    have hnot := hplaced.handler id
    rw [hid] at hchecked hnot
    obtain ⟨message, hmessage, hanswer⟩ := hchecked
    refine ⟨⟨message, hmessage, List.filter_eq_singleton hanswered.answers hanswer⟩, hnot,
      fun entry hentry hcall => hnot (hcall ▸ (htracked.stamped entry hentry).1),
      fun a σ' hs => ?_⟩
    have hleads := (step_rule hs).leads id
    rwa [hid] at hleads
  · intro id request details hid
    have hchecked := checked h id
    have haccepted := hplaced.handler id
    rcases hid with hid | hid <;> rw [hid] at hchecked haccepted <;> exact ⟨hchecked, haccepted⟩
  · intro sweep hsweep id hid hdue hknown
    by_cases hin : id ∈ sweep.known
    · exact hswept.done sweep hsweep id ⟨hin, hdue⟩
    · -- queued after the sweep read the clock: the deadline is still ahead of it
      have hlate := (hswept.past sweep hsweep).late id hid hin
      have hpositive := hknown.resolve_left hin
      omega
  · intro entry hentry
    exact ⟨(htracked.stamped entry hentry).2,
      fun a σ' hs hout => (step_rule hs).leaves htracked hswept hentry hout⟩

/-- The state the examples below start in: one service, nothing received. -/
def oneService : ServiceState where
  advertisedServices := [("/reset", ⟨"std_srvs/Empty", "d41d8cd98f00b204e9800998ecf8427e"⟩)]
  clock := 0
  handler _ := .unseen
  pending _ := ⟨false, ""⟩
  pendingServiceCalls := []
  worker _ := .notStarted
  sweep := .idle
  consumed := []
  answers := []
  accepted := []
  deadline _ := 0
  swept := []

theorem oneService_reachable {serviceCallTimeoutMs : Int} :
    (serviceSystem serviceCallTimeoutMs).Reachable oneService :=
  .init ⟨fun _ => rfl, fun _ => rfl, fun _ => rfl, rfl, rfl, rfl, rfl, rfl, rfl⟩

/-- Two calls are accepted; a sweep begins at their deadline. The worker of the
first takes its responder before the sweep looks at it, the worker of the second
comes after the sweep. -/
def workerThenSweep : List ServiceAction :=
  [.receive 0 ⟨"/reset", "ros1", []⟩, .proceed 0, .startWorker 0,
    .receive 1 ⟨"/reset", "ros1", []⟩, .proceed 1, .startWorker 1,
    .tick 1000000000, .sweepBegins, .sweepLocks, .callReturns 0 true [1], .workerTakes 0,
    .sweepChecks, .sweepAdvances, .sweepChecks, .workerResponds 0, .sweepAdvances,
    .sweepUnlocks, .sweepTakes, .callReturns 1 true [1], .workerTakes 1, .sweepResponds,
    .sweepReturns]

theorem exactlyOnce_worker_and_sweep : ∃ σ,
    (serviceSystem 1000).exec oneService workerThenSweep = some σ ∧ ExactlyOnce 1000 σ ∧
    σ.answers = [(0, .ok [1]),
      (1, .error "Service call to /reset timed out after 1000 ms")] := by
  have hrun : ((serviceSystem 1000).exec oneService workerThenSweep).map (·.answers) =
      some [(0, .ok [1]), (1, .error "Service call to /reset timed out after 1000 ms")] := by
    decide
  obtain ⟨σ, hexec, hanswers⟩ := Option.map_eq_some_iff.mp hrun
  exact ⟨σ, hexec, exactlyOnce (oneService_reachable.exec hexec), hanswers⟩

/-- A request accepted between the loops of a sweep. -/
def acceptedDuringSweep : List ServiceAction :=
  [.sweepBegins, .sweepLocks, .sweepUnlocks, .receive 0 ⟨"/reset", "ros1", []⟩, .proceed 0,
    .sweepReturns]

/-- With a timeout that is not positive, a request accepted while a sweep is in
progress is due at once, and the sweep ends without having seen it. -/
theorem not_sweepFinished_without_known : ¬ ∀ σ : ServiceState, (serviceSystem 0).Reachable σ →
    ∀ sweep ∈ σ.swept, ∀ id ∈ σ.accepted, σ.deadline id ≤ sweep.now → id ∈ σ.consumed := by
  intro h
  have hrun : ((serviceSystem 0).exec oneService acceptedDuringSweep).map
      (fun σ => (σ.swept, σ.accepted, σ.deadline 0, σ.consumed)) = some ([⟨0, []⟩], [0], 0, []) :=
    by decide
  obtain ⟨σ, hexec, hσ⟩ := Option.map_eq_some_iff.mp hrun
  simp only [Prod.mk.injEq] at hσ
  obtain ⟨hswept, haccepted, hdeadline, hconsumed⟩ := hσ
  have hin := h σ (oneService_reachable.exec hexec) ⟨0, []⟩ (by simp [hswept]) 0
    (by simp [haccepted]) (by simp [hdeadline])
  simp [hconsumed] at hin

end FoxgloveBridge
