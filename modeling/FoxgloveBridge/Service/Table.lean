import FoxgloveBridge.Bridge.Tables
import FoxgloveBridge.Service.Calls

/-!
# The service table

`updateAdvertisedServices` with `addService` and `removeService` of the transports, and
the lookups of `handleServiceRequest` in between. Four containers are kept in step: the
list of the master, the map `_advertisedServices`, and what the WebSocket server and the
gateway have registered. Each call into the SDK may fail; one that fails registers
nothing, and removing what is registered succeeds.

The poll thread is the only one that changes the map, and holds `_servicesMutex` only
while it does, so a lookup may come between any two of its steps. What a request finds is
what its service was registered as (`services_agree`).
-/

namespace FoxgloveBridge

/-- What the description provider knows of a service type. -/
structure ServiceDescription where
  md5 : String
  request : List UInt8
  response : List UInt8
  deriving DecidableEq, Repr

/-- `foxglove::ServiceMessageSchema`. -/
structure ServiceMessageSchema where
  encoding : String
  schema : Schema
  deriving DecidableEq, Repr

/-- `foxglove::ServiceSchema`. -/
structure ServiceSchema where
  name : String
  request : Option ServiceMessageSchema
  response : Option ServiceMessageSchema
  deriving DecidableEq, Repr

/-- The details of a service; without a description the checksum stays empty. -/
def ServiceDetails.ofDescription (type : String) (description : Option ServiceDescription) :
    ServiceDetails where
  type := type
  md5sum := (description.map ServiceDescription.md5).getD ""

/-- The schema a service is registered with; without a description it names the type only. -/
def ServiceSchema.ofDescription (type : String) (description : Option ServiceDescription) :
    ServiceSchema where
  name := type
  request := description.map fun description =>
    { encoding := "ros1", schema := ⟨type ++ "Request", "ros1msg", description.request⟩ }
  response := description.map fun description =>
    { encoding := "ros1", schema := ⟨type ++ "Response", "ros1msg", description.response⟩ }

/-- Where `updateAdvertisedServices` is. -/
inductive ServicesPhase
  | idle
  /-- `servicesToRemove` is not empty; the locked section that erases them is next. -/
  | erasing (servicesToRemove : List String)
  /-- `removeService` for each; the first may have left the server already. -/
  | removing (servicesToRemove : List String) (serverDone : Bool)
  /-- The advertise loop, with the names it has still to visit. -/
  | advertising (rest : List String)
  | probing (serviceName : String) (rest : List String)
  | inserting (serviceName : String) (details : ServiceDetails) (schema : ServiceSchema)
      (rest : List String)
  /-- In `addService`: the server is next. -/
  | adding (serviceName : String) (schema : ServiceSchema) (rest : List String)
  /-- `addService` returned false. -/
  | rollingBack (serviceName : String) (rest : List String)
  | addingToGateway (serviceName : String) (schema : ServiceSchema) (rest : List String)
  deriving DecidableEq, Repr

/-- The services that are to be removed. -/
def ServicesPhase.toRemove : ServicesPhase → List String
  | .erasing servicesToRemove | .removing servicesToRemove _ => servicesToRemove
  | _ => []

/-- The services whose removal has begun, with the erasure from the map. -/
def ServicesPhase.removal : ServicesPhase → List String
  | .removing servicesToRemove _ => servicesToRemove
  | _ => []

/-- What is not to be removed is not being removed. -/
theorem ServicesPhase.removal_eq_nil {phase : ServicesPhase} (h : phase.toRemove = []) :
    phase.removal = [] := by
  cases phase <;> first | exact h | rfl

/-- One call. -/
structure ServicesCall where
  serviceNames : List String
  /-- What was advertised when it began. -/
  before : List String
  /-- The services probed and added to the server. -/
  added : List String
  deriving DecidableEq, Repr

/-- A lookup of `handleServiceRequest`. -/
structure ServiceLookup where
  serviceName : String
  /-- What the server had registered then, unless its removal had begun. -/
  registered : Option ServiceSchema
  found : Option ServiceDetails
  deriving DecidableEq, Repr

structure ServiceTable where
  /-- `_advertisedServices`. -/
  advertisedServices : UnorderedMap String ServiceDetails
  /-- The services registered on the WebSocket server. -/
  server : UnorderedMap String ServiceSchema
  /-- The services registered on the gateway, if there is one. -/
  gateway : Option (UnorderedMap String ServiceSchema)
  phase : ServicesPhase
  /-- The call in progress, or the last one. -/
  call : ServicesCall
  lookups : List ServiceLookup
  deriving DecidableEq

/-- One step of the poll thread, or one lookup. -/
inductive ServicesAction
  | call (serviceNames : List String)
  | eraseServices
  | removeFromServer
  | removeFromGateway
  | visit
  /-- The type the probe finds, unless it throws, and the description of that type. -/
  | retrieveServiceType (type : Option String) (description : Option ServiceDescription)
  | insertService
  /-- `Service::create` and `addService` of the server. -/
  | addToServer (created added : Bool)
  | rollBack
  /-- `Service::create` and `addService` of the gateway. -/
  | addToGateway (created added : Bool)
  | handleServiceRequest (serviceName : String)
  deriving DecidableEq, Repr

namespace ServiceTable

variable (σ : ServiceTable)

def initial (hasGateway : Bool) : ServiceTable where
  advertisedServices := ∅
  server := ∅
  gateway := if hasGateway then some ∅ else none
  phase := .idle
  call := ⟨[], [], []⟩
  lookups := []

/-- The advertised services the list does not name. -/
def servicesToRemove (serviceNames : List String) : List String :=
  σ.advertisedServices.keys.filter fun serviceName => !serviceNames.contains serviceName

/-- The SDK's registration, unless its removal has begun. -/
def registered (serviceName : String) : Option ServiceSchema :=
  if serviceName ∈ σ.phase.removal then none else σ.server.lookup serviceName

def step : ServicesAction → Option ServiceTable
  | .call serviceNames =>
      if σ.phase = .idle then
        let servicesToRemove := σ.servicesToRemove serviceNames
        some { σ with
          phase := if servicesToRemove = [] then .advertising serviceNames
            else .erasing servicesToRemove
          call := ⟨serviceNames, σ.advertisedServices.keys, []⟩ }
      else none
  | .eraseServices =>
      match σ.phase with
      | .erasing servicesToRemove =>
          some { σ with
            advertisedServices := UnorderedMap.filter
              (fun serviceName _ => !servicesToRemove.contains serviceName) σ.advertisedServices
            phase := .removing servicesToRemove false }
      | _ => none
  | .removeFromServer =>
      match σ.phase with
      | .removing (serviceName :: rest) false =>
          some { σ with
            server := σ.server.erase serviceName
            phase := .removing (serviceName :: rest) true }
      | _ => none
  | .removeFromGateway =>
      match σ.phase with
      | .removing (serviceName :: rest) true =>
          some { σ with
            gateway := σ.gateway.map fun services => services.erase serviceName
            phase := if rest = [] then .advertising σ.call.serviceNames
              else .removing rest false }
      | _ => none
  | .visit =>
      match σ.phase with
      | .advertising [] => some { σ with phase := .idle }
      | .advertising (serviceName :: rest) =>
          if serviceName ∈ σ.advertisedServices then some { σ with phase := .advertising rest }
          else some { σ with phase := .probing serviceName rest }
      | _ => none
  | .retrieveServiceType type description =>
      match σ.phase with
      | .probing serviceName rest =>
          match type with
          | none => some { σ with phase := .advertising rest }
          | some type =>
              some { σ with
                phase := .inserting serviceName (.ofDescription type description)
                  (.ofDescription type description) rest }
      | _ => none
  | .insertService =>
      match σ.phase with
      | .inserting serviceName details schema rest =>
          some { σ with
            advertisedServices :=
              UnorderedMap.emplace serviceName details σ.advertisedServices
            phase := .adding serviceName schema rest }
      | _ => none
  | .addToServer created added =>
      match σ.phase with
      | .adding serviceName schema rest =>
          if created && added then
            some { σ with
              server := σ.server.insert serviceName schema
              phase := if σ.gateway.isSome then .addingToGateway serviceName schema rest
                else .advertising rest
              call := { σ.call with added := σ.call.added ++ [serviceName] } }
          else some { σ with phase := .rollingBack serviceName rest }
      | _ => none
  | .rollBack =>
      match σ.phase with
      | .rollingBack serviceName rest =>
          some { σ with
            advertisedServices := σ.advertisedServices.erase serviceName
            phase := .advertising rest }
      | _ => none
  | .addToGateway created added =>
      match σ.phase with
      | .addingToGateway serviceName schema rest =>
          some { σ with
            gateway := if created && added then
              σ.gateway.map fun services => services.insert serviceName schema else σ.gateway
            phase := .advertising rest }
      | _ => none
  | .handleServiceRequest serviceName =>
      some { σ with
        lookups := σ.lookups ++
          [⟨serviceName, σ.registered serviceName, σ.advertisedServices.lookup serviceName⟩] }

end ServiceTable

def serviceTableSystem : TSys ServiceTable ServicesAction where
  init σ := ∃ hasGateway, σ = .initial hasGateway
  step := ServiceTable.step

/-! ## Step by step -/

/-- The service that is in the map and not on the server yet. -/
def ServicesPhase.awaiting : ServicesPhase → Option String
  | .adding serviceName _ _ | .rollingBack serviceName _ => some serviceName
  | _ => none

/-- The service that has left the server and not the gateway. -/
def ServicesPhase.leaving : ServicesPhase → Option String
  | .removing (serviceName :: _) true => some serviceName
  | _ => none

section Progress

variable (call : ServicesCall) (advertisedServices : UnorderedMap String ServiceDetails)
  (server : UnorderedMap String ServiceSchema)

/-- A listed service that the call did not find in the map, and what is left of the list. -/
structure NewService (serviceName : String) (rest : List String) : Prop where
  listed : serviceName ∈ call.serviceNames
  rest : ∀ other ∈ rest, other ∈ call.serviceNames
  before : serviceName ∉ call.before
  added : serviceName ∉ call.added
  server : serviceName ∉ server

/-- What holds at each stage of the call. -/
def ServicesPhase.Progress : ServicesPhase → Prop
  | .idle => True
  | .erasing servicesToRemove => call.added = [] ∧
      ∀ serviceName ∈ servicesToRemove, serviceName ∉ call.serviceNames
  | .removing servicesToRemove serverDone =>
      (∀ serviceName ∈ servicesToRemove, serviceName ∉ advertisedServices) ∧
      (serverDone = true → ∀ serviceName ∈ servicesToRemove.head?, serviceName ∉ server)
  | .advertising rest => ∀ serviceName ∈ rest, serviceName ∈ call.serviceNames
  | .probing serviceName rest =>
      NewService call server serviceName rest ∧ serviceName ∉ advertisedServices
  | .inserting serviceName details schema rest =>
      NewService call server serviceName rest ∧ serviceName ∉ advertisedServices ∧
        details.type = schema.name
  | .adding serviceName schema rest => NewService call server serviceName rest ∧
      ∃ details, advertisedServices.lookup serviceName = some details ∧
        details.type = schema.name
  | .rollingBack serviceName rest => NewService call server serviceName rest
  | .addingToGateway serviceName _ rest => serviceName ∈ server ∧
      ∀ other ∈ rest, other ∈ call.serviceNames

end Progress

/-- The containers are in step, up to the one service in hand. -/
structure ServiceTable.Agrees (σ : ServiceTable) : Prop where
  registered : ∀ serviceName schema, σ.server.lookup serviceName = some schema →
    serviceName ∉ σ.phase.removal →
    ∃ details, σ.advertisedServices.lookup serviceName = some details ∧
      details.type = schema.name
  advertised : ∀ serviceName ∈ σ.advertisedServices,
    serviceName ∈ σ.server ∨ σ.phase.awaiting = some serviceName
  gateway : ∀ services ∈ σ.gateway, ∀ serviceName ∈ services,
    serviceName ∈ σ.server ∨ σ.phase.leaving = some serviceName
  listed : ∀ serviceName ∈ σ.server,
    serviceName ∈ σ.call.serviceNames ∨ serviceName ∈ σ.phase.toRemove
  kept : ∀ serviceName ∈ σ.call.serviceNames, serviceName ∈ σ.call.before →
    serviceName ∈ σ.advertisedServices
  added : ∀ serviceName ∈ σ.call.added, serviceName ∈ σ.advertisedServices
  lookups : ∀ l ∈ σ.lookups, ∀ schema, l.registered = some schema →
    ∃ details, l.found = some details ∧ details.type = schema.name
  progress : σ.phase.Progress σ.call σ.advertisedServices σ.server

namespace ServiceTable.Agrees

variable {σ : ServiceTable}

/-- A lookup finds what its service is registered as. -/
theorem lookup (h : σ.Agrees) (serviceName : String) :
    Agrees { σ with
      lookups := σ.lookups ++
        [⟨serviceName, σ.registered serviceName, σ.advertisedServices.lookup serviceName⟩] } := by
  refine ⟨h.registered, h.advertised, h.gateway, h.listed, h.kept, h.added, ?_, h.progress⟩
  intro l hl schema hschema
  rcases List.mem_append.mp hl with hold | hlast
  · exact h.lookups l hold schema hschema
  · obtain rfl := List.mem_singleton.mp hlast
    simp only [ServiceTable.registered, Option.ite_none_left_eq_some] at hschema
    exact h.registered serviceName schema hschema.2 hschema.1

section NothingInHand

variable (h : σ.Agrees)
include h

theorem knows (hremoval : σ.phase.removal = []) {serviceName : String} {schema : ServiceSchema}
    (hlookup : σ.server.lookup serviceName = some schema) :
    ∃ details, σ.advertisedServices.lookup serviceName = some details ∧
      details.type = schema.name :=
  h.registered serviceName schema hlookup (by rw [hremoval]; exact List.not_mem_nil)

theorem mem_advertised (hremoval : σ.phase.removal = []) {serviceName : String}
    (hmem : serviceName ∈ σ.server) : serviceName ∈ σ.advertisedServices := by
  obtain ⟨schema, hlookup⟩ := UnorderedMap.mem_iff_lookup.mp hmem
  obtain ⟨details, hdetails, -⟩ := h.knows hremoval hlookup
  exact UnorderedMap.mem_iff_lookup.mpr ⟨details, hdetails⟩

theorem mem_server (hawaiting : σ.phase.awaiting = none) {serviceName : String}
    (hmem : serviceName ∈ σ.advertisedServices) : serviceName ∈ σ.server := by
  have hadvertised := h.advertised serviceName hmem
  rw [hawaiting] at hadvertised
  exact hadvertised.resolve_right nofun

theorem mem_server_of_gateway (hleaving : σ.phase.leaving = none)
    {services : UnorderedMap String ServiceSchema} (hservices : services ∈ σ.gateway)
    {serviceName : String} (hmem : serviceName ∈ services) : serviceName ∈ σ.server := by
  have hgateway := h.gateway services hservices serviceName hmem
  rw [hleaving] at hgateway
  exact hgateway.resolve_right nofun

theorem mem_serviceNames (htoRemove : σ.phase.toRemove = []) {serviceName : String}
    (hmem : serviceName ∈ σ.server) : serviceName ∈ σ.call.serviceNames := by
  have hlisted := h.listed serviceName hmem
  rw [htoRemove] at hlisted
  exact hlisted.resolve_right List.not_mem_nil

end NothingInHand

/-- The poll thread goes on: no service is in hand, before or after. -/
theorem move (h : σ.Agrees) {phase : ServicesPhase} (htoRemove : σ.phase.toRemove = [])
    (hawaiting : σ.phase.awaiting = phase.awaiting) (hleaving : σ.phase.leaving = none)
    (hprogress : phase.Progress σ.call σ.advertisedServices σ.server) :
    Agrees { σ with phase := phase } where
  registered _ _ hlookup _ := h.knows (ServicesPhase.removal_eq_nil htoRemove) hlookup
  advertised serviceName hmem := hawaiting ▸ h.advertised serviceName hmem
  gateway _ hservices _ hmem := .inl (h.mem_server_of_gateway hleaving hservices hmem)
  listed _ hmem := .inl (h.mem_serviceNames htoRemove hmem)
  kept := h.kept
  added := h.added
  lookups := h.lookups
  progress := hprogress

/-- A call begins: what is not listed is about to be removed. -/
theorem call (h : σ.Agrees) (hidle : σ.phase = .idle) (serviceNames : List String) :
    Agrees { σ with
      phase := if σ.servicesToRemove serviceNames = [] then .advertising serviceNames
        else .erasing (σ.servicesToRemove serviceNames)
      call := ⟨serviceNames, σ.advertisedServices.keys, []⟩ } := by
  have hremoval : σ.phase.removal = [] := by rw [hidle]; rfl
  have hadvertised : ∀ serviceName ∈ σ.advertisedServices, serviceName ∈ σ.server :=
    fun _ => h.mem_server (by rw [hidle]; rfl)
  have hgateway : ∀ services ∈ σ.gateway, ∀ serviceName ∈ services, serviceName ∈ σ.server :=
    fun _ hservices _ => h.mem_server_of_gateway (by rw [hidle]; rfl) hservices
  have hlisted : ∀ serviceName ∈ σ.server,
      serviceName ∈ serviceNames ∨ serviceName ∈ σ.servicesToRemove serviceNames := by
    intro serviceName hmem
    by_cases hin : serviceName ∈ serviceNames
    · exact .inl hin
    · exact .inr (List.mem_filter.mpr ⟨h.mem_advertised hremoval hmem, by simpa using hin⟩)
  split
  · rename_i hnone
    exact ⟨fun _ _ hlookup _ => h.knows hremoval hlookup,
      fun serviceName hmem => .inl (hadvertised serviceName hmem),
      fun services hservices serviceName hmem => .inl (hgateway services hservices _ hmem),
      fun serviceName hmem => .inl (by simpa [hnone] using hlisted serviceName hmem),
      fun _ _ hmem => hmem, nofun, h.lookups, fun _ hmem => hmem⟩
  · refine ⟨fun _ _ hlookup _ => h.knows hremoval hlookup,
      fun serviceName hmem => .inl (hadvertised serviceName hmem),
      fun services hservices serviceName hmem => .inl (hgateway services hservices _ hmem), hlisted,
      fun _ _ hmem => hmem, nofun, h.lookups, rfl, ?_⟩
    intro serviceName hmem
    simpa using (List.mem_filter.mp hmem).2

/-- The locked section that erases the services to remove. -/
theorem eraseServices (h : σ.Agrees) {servicesToRemove : List String}
    (hphase : σ.phase = .erasing servicesToRemove) :
    Agrees { σ with
      advertisedServices := UnorderedMap.filter
        (fun serviceName _ => !servicesToRemove.contains serviceName) σ.advertisedServices
      phase := .removing servicesToRemove false } := by
  have hprogress := h.progress
  rw [hphase] at hprogress
  obtain ⟨hadded, hunlisted⟩ := hprogress
  have hlookup : ∀ serviceName details,
      (UnorderedMap.filter (fun serviceName _ => !servicesToRemove.contains serviceName)
        σ.advertisedServices).lookup serviceName = some details ↔
      σ.advertisedServices.lookup serviceName = some details ∧
        serviceName ∉ servicesToRemove := by
    intro serviceName details
    rw [UnorderedMap.lookup_filter_eq_some_iff]
    simp
  refine ⟨?_, ?_, ?_, ?_, ?_, ?_, h.lookups, ?_, nofun⟩
  · intro serviceName schema hserver hstays
    obtain ⟨details, hdetails, htype⟩ := h.knows (by rw [hphase]; rfl) hserver
    exact ⟨details, (hlookup serviceName details).mpr ⟨hdetails, hstays⟩, htype⟩
  · intro serviceName hmem
    obtain ⟨details, hdetails⟩ := UnorderedMap.mem_iff_lookup.mp hmem
    have hold : serviceName ∈ σ.advertisedServices :=
      UnorderedMap.mem_iff_lookup.mpr ⟨details, ((hlookup _ _).mp hdetails).1⟩
    exact .inl (h.mem_server (by rw [hphase]; rfl) hold)
  · intro services hservices serviceName hmem
    exact .inl (h.mem_server_of_gateway (by rw [hphase]; rfl) hservices hmem)
  · intro serviceName hmem
    have hold := h.listed serviceName hmem
    rw [hphase] at hold
    exact hold
  · intro serviceName hin hbefore
    obtain ⟨details, hdetails⟩ := UnorderedMap.mem_iff_lookup.mp (h.kept serviceName hin hbefore)
    exact UnorderedMap.mem_iff_lookup.mpr ⟨details, (hlookup _ _).mpr
      ⟨hdetails, fun hremove => hunlisted serviceName hremove hin⟩⟩
  · intro serviceName hin
    rw [hadded] at hin
    cases hin
  · intro serviceName hin hmem
    obtain ⟨details, hdetails⟩ := UnorderedMap.mem_iff_lookup.mp hmem
    exact ((hlookup _ _).mp hdetails).2 hin

/-- The server forgets a service that the map has forgotten before. -/
theorem removeFromServer (h : σ.Agrees) {serviceName : String} {rest : List String}
    (hphase : σ.phase = .removing (serviceName :: rest) false) :
    Agrees { σ with
      server := σ.server.erase serviceName
      phase := .removing (serviceName :: rest) true } := by
  have hprogress := h.progress
  rw [hphase] at hprogress
  obtain ⟨herased, -⟩ := hprogress
  have hmem : ∀ other, other ∈ σ.server.erase serviceName ↔
      other ≠ serviceName ∧ other ∈ σ.server := fun other => AList.mem_erase
  refine ⟨?_, ?_, ?_, ?_, h.kept, h.added, h.lookups, herased, ?_⟩
  · intro other schema hserver hstays
    have hne : other ≠ serviceName := fun heq => hstays (heq ▸ List.mem_cons_self)
    rw [AList.lookup_erase_ne hne] at hserver
    exact h.registered other schema hserver (by rw [hphase]; exact hstays)
  · intro other hin
    have hne : other ≠ serviceName := fun heq => herased other (heq ▸ List.mem_cons_self) hin
    exact .inl ((hmem other).mpr ⟨hne, h.mem_server (by rw [hphase]; rfl) hin⟩)
  · intro services hservices other hin
    have hold := h.mem_server_of_gateway (by rw [hphase]; rfl) hservices hin
    by_cases heq : other = serviceName
    · exact .inr (heq ▸ rfl)
    · exact .inl ((hmem other).mpr ⟨heq, hold⟩)
  · intro other hin
    have hold := h.listed other ((hmem other).mp hin).2
    rw [hphase] at hold
    exact hold
  · intro _ other hin hserver
    obtain rfl : serviceName = other := by simpa using hin
    exact ((hmem _).mp hserver).1 rfl

/-- The gateway forgets it too. The loop goes on, or the advertise loop begins. -/
theorem removeFromGateway (h : σ.Agrees) {serviceName : String} {rest : List String}
    (hphase : σ.phase = .removing (serviceName :: rest) true) :
    Agrees { σ with
      gateway := σ.gateway.map fun services => services.erase serviceName
      phase := if rest = [] then .advertising σ.call.serviceNames else .removing rest false } := by
  have hprogress := h.progress
  rw [hphase] at hprogress
  obtain ⟨herased, hgone⟩ := hprogress
  have hgone : serviceName ∉ σ.server := hgone rfl serviceName rfl
  -- the phase that follows has in hand what is left of the removal
  have hnext : ∀ phase : ServicesPhase, phase.removal = rest → phase.toRemove = rest →
      phase.awaiting = none →
      phase.Progress σ.call σ.advertisedServices σ.server →
      Agrees { σ with
        gateway := σ.gateway.map fun services => services.erase serviceName
        phase := phase } := by
    intro phase hremoval htoRemove hawaiting hprogress
    refine ⟨?_, ?_, ?_, ?_, h.kept, h.added, h.lookups, hprogress⟩
    · intro other schema hserver hstays
      apply h.registered other schema hserver
      rw [hphase]
      rw [hremoval] at hstays
      intro hremoved
      rcases List.mem_cons.mp hremoved with rfl | hrest
      · exact hgone (UnorderedMap.mem_iff_lookup.mpr ⟨schema, hserver⟩)
      · exact hstays hrest
    · intro other hin
      exact .inl (h.mem_server (by rw [hphase]; rfl) hin)
    · intro services hservices other hin
      obtain ⟨before, hbefore, rfl⟩ := Option.map_eq_some_iff.mp hservices
      obtain ⟨hne, hin⟩ := AList.mem_erase.mp hin
      have hold := h.gateway before hbefore other hin
      rw [hphase] at hold
      refine .inl (hold.resolve_right fun hleft => ?_)
      exact hne (Option.some.inj hleft).symm
    · intro other hin
      have hold := h.listed other hin
      rw [hphase] at hold
      rw [htoRemove]
      apply hold.imp_right
      intro hremoved
      rcases List.mem_cons.mp hremoved with rfl | hrest
      · exact absurd hin hgone
      · exact hrest
  split
  · rename_i hrest
    exact hnext _ hrest.symm hrest.symm rfl fun _ hmem => hmem
  · exact hnext _ rfl rfl rfl ⟨fun other hin => herased other (List.mem_cons_of_mem _ hin), nofun⟩

/-- The advertise loop visits a service that the map does not have. -/
theorem newService (h : σ.Agrees) {serviceName : String} {rest : List String}
    (hphase : σ.phase = .advertising (serviceName :: rest))
    (hnew : serviceName ∉ σ.advertisedServices) :
    NewService σ.call σ.server serviceName rest := by
  have hprogress := h.progress
  rw [hphase] at hprogress
  have hlisted := hprogress serviceName List.mem_cons_self
  refine ⟨hlisted, fun other hin => hprogress other (List.mem_cons_of_mem _ hin),
    fun hbefore => hnew (h.kept serviceName hlisted hbefore),
    fun hadded => hnew (h.added serviceName hadded), fun hserver => ?_⟩
  exact hnew (h.mem_advertised (by rw [hphase]; rfl) hserver)

/-- The map learns of a service before the server does. -/
theorem insertService (h : σ.Agrees) {serviceName : String} {details : ServiceDetails}
    {schema : ServiceSchema} {rest : List String}
    (hphase : σ.phase = .inserting serviceName details schema rest) :
    Agrees { σ with
      advertisedServices := UnorderedMap.emplace serviceName details σ.advertisedServices
      phase := .adding serviceName schema rest } := by
  have hprogress := h.progress
  rw [hphase] at hprogress
  obtain ⟨hnew, hnot, htype⟩ := hprogress
  have hkept : ∀ other ∈ σ.advertisedServices,
      other ∈ UnorderedMap.emplace serviceName details σ.advertisedServices :=
    fun other hin => UnorderedMap.mem_emplace.mpr (.inr hin)
  refine ⟨?_, ?_,
    ?_, ?_,
    fun other hin hbefore => hkept other (h.kept other hin hbefore),
    fun other hin => hkept other (h.added other hin), h.lookups, hnew, details, ?_, htype⟩
  · intro other schema hserver _
    obtain ⟨found, hfound, htype⟩ := h.knows (by rw [hphase]; rfl) hserver
    exact ⟨found, UnorderedMap.lookup_emplace_of_lookup hfound, htype⟩
  · intro other hin
    rcases UnorderedMap.mem_emplace.mp hin with rfl | hin
    · exact .inr rfl
    · exact .inl (h.mem_server (by rw [hphase]; rfl) hin)
  · intro services hservices other hin
    exact .inl (h.mem_server_of_gateway (by rw [hphase]; rfl) hservices hin)
  · intro other hin
    exact .inl (h.mem_serviceNames (by rw [hphase]; rfl) hin)
  · show (UnorderedMap.emplace serviceName details σ.advertisedServices).lookup _ = _
    rw [UnorderedMap.emplace_of_notMem hnot, AList.lookup_insert]

/-- The server registers a service under the type the map has for it. -/
theorem addToServer (h : σ.Agrees) {serviceName : String} {schema : ServiceSchema}
    {rest : List String} (hphase : σ.phase = .adding serviceName schema rest) :
    Agrees { σ with
      server := σ.server.insert serviceName schema
      phase := if σ.gateway.isSome then .addingToGateway serviceName schema rest
        else .advertising rest
      call := { σ.call with added := σ.call.added ++ [serviceName] } } := by
  have hprogress := h.progress
  rw [hphase] at hprogress
  obtain ⟨hnew, details, hdetails, htype⟩ := hprogress
  have hserver : ∀ other, other ∈ σ.server.insert serviceName schema ↔
      other = serviceName ∨ other ∈ σ.server := fun other => AList.mem_insert ..
  have hnext : ∀ phase : ServicesPhase, phase.removal = [] →
      phase.Progress { σ.call with added := σ.call.added ++ [serviceName] }
        σ.advertisedServices (σ.server.insert serviceName schema) →
      Agrees { σ with
        server := σ.server.insert serviceName schema
        phase := phase
        call := { σ.call with added := σ.call.added ++ [serviceName] } } := by
    intro phase hremoval hprogress
    refine ⟨?_, ?_, ?_, ?_, h.kept, ?_, h.lookups, hprogress⟩
    · intro other registered hlookup _
      by_cases heq : other = serviceName
      · subst heq
        rw [AList.lookup_insert] at hlookup
        obtain rfl := Option.some.inj hlookup
        exact ⟨details, hdetails, htype⟩
      · rw [AList.lookup_insert_ne heq] at hlookup
        exact h.knows (by rw [hphase]; rfl) hlookup
    · intro other hin
      rcases h.advertised other hin with hold | hawaiting
      · exact .inl ((hserver other).mpr (.inr hold))
      · rw [hphase] at hawaiting
        exact .inl ((hserver other).mpr (.inl (Option.some.inj hawaiting).symm))
    · intro services hservices other hin
      have hold := h.mem_server_of_gateway (by rw [hphase]; rfl) hservices hin
      exact .inl ((hserver other).mpr (.inr hold))
    · intro other hin
      rcases (hserver other).mp hin with rfl | hold
      · exact .inl hnew.listed
      · exact .inl (h.mem_serviceNames (by rw [hphase]; rfl) hold)
    · intro other hin
      rcases List.mem_append.mp hin with hold | hlast
      · exact h.added other hold
      · obtain rfl := List.mem_singleton.mp hlast
        exact UnorderedMap.mem_iff_lookup.mpr ⟨details, hdetails⟩
  split
  · exact hnext _ rfl ⟨(hserver serviceName).mpr (.inl rfl), hnew.rest⟩
  · exact hnext _ rfl hnew.rest

/-- The server refused the service, and the map forgets it again. -/
theorem rollBack (h : σ.Agrees) {serviceName : String} {rest : List String}
    (hphase : σ.phase = .rollingBack serviceName rest) :
    Agrees { σ with
      advertisedServices := σ.advertisedServices.erase serviceName
      phase := .advertising rest } := by
  have hnew := h.progress
  rw [hphase] at hnew
  have hkept : ∀ other, other ∈ σ.advertisedServices → other ≠ serviceName →
      other ∈ σ.advertisedServices.erase serviceName :=
    fun other hin hne => AList.mem_erase.mpr ⟨hne, hin⟩
  refine ⟨?_, ?_,
    ?_, ?_,
    fun other hin hbefore => hkept other (h.kept other hin hbefore) ?_,
    fun other hin => hkept other (h.added other hin) ?_, h.lookups, hnew.rest⟩
  · intro other schema hserver _
    have hne : other ≠ serviceName := by
      rintro rfl
      exact hnew.server (UnorderedMap.mem_iff_lookup.mpr ⟨schema, hserver⟩)
    obtain ⟨details, hdetails, htype⟩ := h.knows (by rw [hphase]; rfl) hserver
    exact ⟨details, by rw [← hdetails]; exact AList.lookup_erase_ne hne, htype⟩
  · intro other hin
    obtain ⟨hne, hin⟩ := AList.mem_erase.mp hin
    have hold := h.advertised other hin
    rw [hphase] at hold
    exact .inl (hold.resolve_right fun hawaiting => hne (Option.some.inj hawaiting).symm)
  · intro services hservices other hin
    exact .inl (h.mem_server_of_gateway (by rw [hphase]; rfl) hservices hin)
  · intro other hin
    exact .inl (h.mem_serviceNames (by rw [hphase]; rfl) hin)
  · rintro rfl
    exact hnew.before hbefore
  · rintro rfl
    exact hnew.added hin

/-- The gateway may register it as well. -/
theorem addToGateway (h : σ.Agrees) {serviceName : String} {schema : ServiceSchema}
    {rest : List String} (hphase : σ.phase = .addingToGateway serviceName schema rest)
    (registered : Bool) :
    Agrees { σ with
      gateway := if registered then
        σ.gateway.map fun services => services.insert serviceName schema else σ.gateway
      phase := .advertising rest } := by
  have hprogress := h.progress
  rw [hphase] at hprogress
  obtain ⟨hserver, hrest⟩ := hprogress
  have hmove : Agrees { σ with phase := .advertising rest } :=
    h.move (by rw [hphase]; rfl) (by rw [hphase]; rfl) (by rw [hphase]; rfl) hrest
  refine ⟨hmove.registered, hmove.advertised, fun services hservices other hin => ?_,
    hmove.listed, hmove.kept, hmove.added, hmove.lookups, hmove.progress⟩
  cases registered with
  | false => exact hmove.gateway services hservices other hin
  | true =>
      obtain ⟨before, hbefore, rfl⟩ := Option.map_eq_some_iff.mp hservices
      rcases (AList.mem_insert ..).mp hin with rfl | hold
      · exact .inl hserver
      · exact hmove.gateway before hbefore other hold

theorem step {σ' : ServiceTable} {a : ServicesAction} (h : σ.Agrees) (hs : σ.step a = some σ') :
    σ'.Agrees := by
  have hprogress := h.progress
  cases a with
  | call serviceNames =>
      simp only [ServiceTable.step, Option.ite_none_right_eq_some, Option.some.injEq] at hs
      obtain ⟨hidle, rfl⟩ := hs
      exact h.call hidle serviceNames
  | visit =>
      simp only [ServiceTable.step] at hs
      split at hs
      · rename_i hphase
        obtain rfl := Option.some.inj hs
        exact h.move (by rw [hphase]; rfl) (by rw [hphase]; rfl) (by rw [hphase]; rfl) trivial
      · rename_i serviceName rest hphase
        rw [hphase] at hprogress
        have hrest := fun other hin => hprogress other (List.mem_cons_of_mem serviceName hin)
        split at hs <;> obtain rfl := Option.some.inj hs
        · exact h.move (by rw [hphase]; rfl) (by rw [hphase]; rfl) (by rw [hphase]; rfl) hrest
        · rename_i hnew
          exact h.move (by rw [hphase]; rfl) (by rw [hphase]; rfl) (by rw [hphase]; rfl)
            ⟨h.newService hphase hnew, hnew⟩
      · cases hs
  | retrieveServiceType type description =>
      simp only [ServiceTable.step] at hs
      split at hs
      · rename_i serviceName rest hphase
        rw [hphase] at hprogress
        obtain ⟨hnew, hnot⟩ := hprogress
        cases type with
        | none =>
            -- the probe threw, and the loop skips the service
            obtain rfl := Option.some.inj hs
            exact h.move (by rw [hphase]; rfl) (by rw [hphase]; rfl) (by rw [hphase]; rfl)
              hnew.rest
        | some type =>
            obtain rfl := Option.some.inj hs
            exact h.move (by rw [hphase]; rfl) (by rw [hphase]; rfl) (by rw [hphase]; rfl)
              ⟨hnew, hnot, rfl⟩
      · cases hs
  | addToServer created added =>
      simp only [ServiceTable.step] at hs
      split at hs
      · rename_i serviceName schema rest hphase
        split at hs <;> obtain rfl := Option.some.inj hs
        · exact h.addToServer hphase
        · rw [hphase] at hprogress
          exact h.move (by rw [hphase]; rfl) (by rw [hphase]; rfl) (by rw [hphase]; rfl)
            hprogress.1
      · cases hs
  | handleServiceRequest serviceName =>
      obtain rfl := Option.some.inj hs
      exact h.lookup serviceName
  | eraseServices =>
      simp only [ServiceTable.step] at hs
      split at hs
      · obtain rfl := Option.some.inj hs
        exact h.eraseServices ‹_›
      · cases hs
  | removeFromServer =>
      simp only [ServiceTable.step] at hs
      split at hs
      · obtain rfl := Option.some.inj hs
        exact h.removeFromServer ‹_›
      · cases hs
  | removeFromGateway =>
      simp only [ServiceTable.step] at hs
      split at hs
      · obtain rfl := Option.some.inj hs
        exact h.removeFromGateway ‹_›
      · cases hs
  | insertService =>
      simp only [ServiceTable.step] at hs
      split at hs
      · obtain rfl := Option.some.inj hs
        exact h.insertService ‹_›
      · cases hs
  | rollBack =>
      simp only [ServiceTable.step] at hs
      split at hs
      · obtain rfl := Option.some.inj hs
        exact h.rollBack ‹_›
      · cases hs
  | addToGateway created added =>
      simp only [ServiceTable.step] at hs
      split at hs
      · obtain rfl := Option.some.inj hs
        exact h.addToGateway ‹_› (created && added)
      · cases hs

theorem of_reachable (h : serviceTableSystem.Reachable σ) : σ.Agrees := by
  refine TSys.Run.invariant h ⟨?_, fun _ _ _ hagrees _ hs => hagrees.step hs⟩
  rintro _ ⟨hasGateway, rfl⟩
  refine ⟨nofun, nofun, ?_, nofun, nofun, nofun, nofun, trivial⟩
  intro services hservices
  cases hasGateway with
  | false => cases hservices
  | true =>
      obtain rfl := Option.some.inj hservices
      nofun

end ServiceTable.Agrees

/-! ## Runs -/

variable {σ : ServiceTable}

/-- After a call: the map and the server have the same services, all of them listed; a
listed service that was advertised before, or was probed and added, is one of them; and
the gateway has no other. -/
structure ServiceTable.InStep (σ : ServiceTable) : Prop where
  server : ∀ serviceName, serviceName ∈ σ.advertisedServices ↔ serviceName ∈ σ.server
  listed : ∀ serviceName ∈ σ.advertisedServices, serviceName ∈ σ.call.serviceNames
  present : ∀ serviceName ∈ σ.call.serviceNames,
    serviceName ∈ σ.call.before ∨ serviceName ∈ σ.call.added → serviceName ∈ σ.advertisedServices
  gateway : ∀ services ∈ σ.gateway, ∀ serviceName ∈ services, serviceName ∈ σ.server

/-- What the map has for a service that is registered on the server and whose removal has not
begun: the type it is registered under. -/
def ServiceTable.KnowsRegistered (σ : ServiceTable) : Prop :=
  ∀ serviceName schema, σ.server.lookup serviceName = some schema →
    serviceName ∉ σ.phase.removal →
    ∃ details, σ.advertisedServices.lookup serviceName = some details ∧ details.type = schema.name

/-- **The service table and the transports agree.** In every run, whichever probes and SDK
calls fail and whatever requests are looked up: between two calls the containers are in
step; at every moment the map knows each registered service whose removal has not begun;
and so did every lookup of such a service. -/
theorem services_agree (h : serviceTableSystem.Reachable σ) :
    (σ.phase = .idle → σ.InStep) ∧ σ.KnowsRegistered ∧
      ∀ l ∈ σ.lookups, ∀ schema, l.registered = some schema →
        ∃ details, l.found = some details ∧ details.type = schema.name := by
  have hagrees := ServiceTable.Agrees.of_reachable h
  refine ⟨fun hidle => ?_, hagrees.registered, hagrees.lookups⟩
  have hserver : ∀ serviceName ∈ σ.advertisedServices, serviceName ∈ σ.server :=
    fun _ => hagrees.mem_server (by rw [hidle]; rfl)
  refine ⟨fun serviceName => ⟨hserver serviceName, ?_⟩, ?_, ?_, ?_⟩
  · exact hagrees.mem_advertised (by rw [hidle]; rfl)
  · intro serviceName hmem
    exact hagrees.mem_serviceNames (by rw [hidle]; rfl) (hserver serviceName hmem)
  · intro serviceName hin hpresent
    rcases hpresent with hbefore | hadded
    · exact hagrees.kept serviceName hin hbefore
    · exact hagrees.added serviceName hadded
  · intro _ hservices _
    exact hagrees.mem_server_of_gateway (by rw [hidle]; rfl) hservices

/-- Two calls: "/a" is listed twice and added, the server refuses "/b", the probe of "/c"
fails; then "/a" is gone, and a request comes while it is being removed. -/
def twoCalls : List ServicesAction :=
  [.call ["/a", "/b", "/a", "/c"], .visit, .retrieveServiceType (some "T") none, .insertService,
    .addToServer true true, .addToGateway true false, .visit,
    .retrieveServiceType (some "U") (some ⟨"m", [1], [2]⟩), .insertService,
    .addToServer true false, .rollBack, .handleServiceRequest "/a", .visit, .visit,
    .retrieveServiceType none none, .visit, .call ["/c"], .eraseServices,
    .handleServiceRequest "/a", .removeFromServer, .removeFromGateway, .visit,
    .retrieveServiceType (some "V") none, .insertService, .addToServer true true,
    .addToGateway true true, .visit]

theorem services_agree_two_calls : ∃ σ, serviceTableSystem.exec (.initial true) twoCalls = some σ ∧
    σ.server.keys = ["/c"] ∧ σ.lookups.map ServiceLookup.found = [some ⟨"T", ""⟩, none] ∧
      σ.InStep := by
  refine ⟨_, rfl, rfl, rfl, ?_⟩
  have hexec : serviceTableSystem.exec (.initial true) twoCalls = some _ := rfl
  have hinit : serviceTableSystem.init (.initial true) := ⟨true, rfl⟩
  have hreach := TSys.Reachable.exec (.init hinit) hexec
  exact (services_agree hreach).1 rfl

end FoxgloveBridge
