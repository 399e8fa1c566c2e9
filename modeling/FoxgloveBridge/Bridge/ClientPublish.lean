import FoxgloveBridge.Bridge.Tables
import FoxgloveBridge.Lib.Keyed
import FoxgloveBridge.Lib.Lists
import FoxgloveBridge.Lib.TSys
import Mathlib.Algebra.Group.Int.Defs
import Mathlib.Data.Option.Basic

/-!
# Client publishing

Clients advertise channels of their own and publish ROS messages on them:
`onClientAdvertise`, `onClientUnadvertise` and `onClientMessage`, by any client of either
transport. Channel and client ids are chosen per transport, so the advertisements are keyed
by channel, client and transport.

Below, each of the three is a computation that may throw and that keeps the tables it has
when it throws. Above, the purpose: a keyed machine that holds, for each key, what was last
accepted (`clientMachine`). The tables refine it over any sequence of calls
(`client_publishing_isolated`), with the messages, which are published after the mutex is
released, published in any order.
-/

namespace FoxgloveBridge

/-- `ROS1_MESSAGE_ENCODING`. -/
def ros1MessageEncoding : String := "ros1"

/-- `ClientChannelKey`. -/
structure ClientChannelKey where
  channelId : ChannelId
  clientId : ClientId
  isGateway : Bool
  deriving DecidableEq, Repr

/-- `ClientChannelInfo`: what a transport says of a channel that a client advertises. -/
structure ClientChannelInfo where
  id : ChannelId
  topic : String
  encoding : String
  schemaName : String

/-- `ros_babel_fish::MessageDescription`. -/
structure MessageDescription where
  md5 : String
  messageDefinition : String

/-- `ros::AdvertiseOptions`. -/
structure AdvertiseOptions where
  datatype : String
  hasHeader : Bool
  latch : Bool
  md5sum : String
  messageDefinition : String
  queueSize : Nat
  topic : String

/-- A `ros::Publisher` that is not empty: a handle of the publication roscpp made. -/
structure RosPublisher where
  serial : Nat
  options : AdvertiseOptions

/-- What `advertise` of roscpp comes to. -/
inductive AdvertiseOutcome
  | created (serial : Nat)
  | empty
  | threw (what : String)

/-- `ClientAdvertisement`, with the publisher made for its topic and its type. -/
structure ClientAdvertisement where
  publisher : RosPublisher
  topicName : String
  topicType : String
  md5sum : String
  messageDefinition : String
  publisher_topic : publisher.options.topic = topicName
  publisher_datatype : publisher.options.datatype = topicType
  publisher_md5sum : publisher.options.md5sum = md5sum

/-- `topic_tools::ShapeShifter`, as `morph` and `read` leave it. -/
structure ShapeShifter where
  md5sum : String
  datatype : String
  msgDef : String
  latching : String
  data : List UInt8

/-- A message under this advertisement. The stream that is read has a 32-bit length. -/
def ClientAdvertisement.shapeShifter (ad : ClientAdvertisement) (data : List UInt8) :
    ShapeShifter where
  md5sum := ad.md5sum
  datatype := ad.topicType
  msgDef := ad.messageDefinition
  latching := "0"
  data := data.take (data.length % 2 ^ 32)

/-- What a call throws. -/
inductive ClientCallError
  /-- `ClientChannelError`. -/
  | clientChannelError (text : String)
  /-- An exception of roscpp. -/
  | rosException (what : String)

structure ClientTables where
  /-- `_subscriptionQueueLength`. -/
  subscriptionQueueLength : Int
  /-- `_clientAdvertisedTopics`. -/
  clientAdvertisedTopics : UnorderedMap ClientChannelKey ClientAdvertisement
  /-- The calls of `pokePoll`. -/
  pokes : Nat

/-- The advertisement held under a key. -/
def ClientTables.held (tables : ClientTables) (key : ClientChannelKey) :
    Option ClientAdvertisement :=
  tables.clientAdvertisedTopics.lookup key

/-- Code under `_clientAdvertisementsMutex`. An exception leaves the tables as they are. -/
abbrev ClientM := ExceptT ClientCallError (StateM ClientTables)

/-- What a computation comes to on these tables, and the tables it leaves. -/
def ClientM.on {α : Type} (m : ClientM α) (tables : ClientTables) :
    Except ClientCallError α × ClientTables :=
  StateT.run (ExceptT.run m) tables

/-- `find` in `_clientAdvertisedTopics`. -/
def findAdvertisement (key : ClientChannelKey) : ClientM (Option ClientAdvertisement) := do
  return (← get).held key

def pokePoll : ClientM Unit :=
  modify fun tables => { tables with pokes := tables.pokes + 1 }

/-- The options `onClientAdvertise` calls roscpp with; a negative length wraps. -/
def advertiseOptions (channel : ClientChannelInfo) (msgDescription : MessageDescription)
    (subscriptionQueueLength : Int) : AdvertiseOptions where
  datatype := channel.schemaName
  hasHeader := false
  latch := false
  md5sum := msgDescription.md5
  messageDefinition := msgDescription.messageDefinition
  queueSize := (subscriptionQueueLength % 2 ^ 32).toNat
  topic := channel.topic

/-- What `onClientAdvertise` puts in the table. -/
def advertisement (channel : ClientChannelInfo) (msgDescription : MessageDescription)
    (subscriptionQueueLength : Int) (serial : Nat) : ClientAdvertisement where
  publisher := ⟨serial, advertiseOptions channel msgDescription subscriptionQueueLength⟩
  topicName := channel.topic
  topicType := channel.schemaName
  md5sum := msgDescription.md5
  messageDefinition := msgDescription.messageDefinition
  publisher_topic := rfl
  publisher_datatype := rfl
  publisher_md5sum := rfl

def onClientAdvertise (channel : ClientChannelInfo) (clientId : ClientId) (isGateway : Bool)
    (description : Option MessageDescription) (outcome : AdvertiseOutcome) : ClientM Unit := do
  if channel.encoding ≠ ros1MessageEncoding then
    throw (.clientChannelError ("Unsupported encoding \"" ++ channel.encoding ++
      "\" for client channel " ++ toString channel.id ++ " (expected \"" ++
      ros1MessageEncoding ++ "\")"))
  let key : ClientChannelKey := ⟨channel.id, clientId, isGateway⟩
  if (← findAdvertisement key).isSome then
    throw (.clientChannelError ("Received client advertisement from client ID " ++
      toString clientId ++ " for channel " ++ toString channel.id ++
      " it had already advertised"))
  match description with
  | none =>
      throw (.clientChannelError ("Failed to retrieve type information for data type '" ++
        channel.schemaName ++ "'. Unable to advertise topic " ++ channel.topic))
  | some msgDescription =>
      match outcome with
      | .threw what => throw (.rosException what)
      | .empty =>
          throw (.clientChannelError ("Failed to create publisher for topic " ++
            channel.topic ++ " (" ++ channel.schemaName ++ ")"))
      | .created serial =>
          modify fun tables => { tables with
            clientAdvertisedTopics := UnorderedMap.emplace key
              (advertisement channel msgDescription tables.subscriptionQueueLength serial)
              tables.clientAdvertisedTopics }
          pokePoll

def onClientUnadvertise (clientChannelId : ChannelId) (clientId : ClientId) (isGateway : Bool) :
    ClientM Unit := do
  let key : ClientChannelKey := ⟨clientChannelId, clientId, isGateway⟩
  match ← findAdvertisement key with
  | none =>
      throw (.clientChannelError ("Ignoring client unadvertisement from client ID " ++
        toString clientId ++ " for unknown channel " ++ toString clientChannelId))
  | some _ =>
      modify fun tables => { tables with
        clientAdvertisedTopics := tables.clientAdvertisedTopics.erase key }

/-- `onClientMessage` up to the end of its locked section: the message, and a copy of the
handle to publish it with. -/
def onClientMessage (clientChannelId : ChannelId) (clientId : ClientId) (isGateway : Bool)
    (data : List UInt8) : ClientM (RosPublisher × ShapeShifter) := do
  let key : ClientChannelKey := ⟨clientChannelId, clientId, isGateway⟩
  match ← findAdvertisement key with
  | none =>
      throw (.clientChannelError ("Dropping client message from client ID " ++
        toString clientId ++ " for unknown channel " ++ toString clientChannelId))
  | some ad => return (ad.publisher, ad.shapeShifter data)

/-- A message that was sent on a ROS topic. -/
structure Publication where
  topic : String
  message : ShapeShifter

/-- `publish` of roscpp, which asserts that the message has the type that was advertised. -/
def RosPublisher.publish (publisher : RosPublisher) (message : ShapeShifter) : Option Publication :=
  if publisher.options.md5sum = "*" ∨ message.md5sum = "*" ∨
      publisher.options.md5sum = message.md5sum then
    some ⟨publisher.options.topic, message⟩
  else none

/-! ## Calls and runs -/

/-- A call by a client, with what the description provider and roscpp answer in it. -/
inductive ClientCall
  | advertise (channel : ClientChannelInfo) (clientId : ClientId) (isGateway : Bool)
      (description : Option MessageDescription) (outcome : AdvertiseOutcome)
  | unadvertise (clientChannelId : ChannelId) (clientId : ClientId) (isGateway : Bool)
  | message (clientChannelId : ChannelId) (clientId : ClientId) (isGateway : Bool)
      (data : List UInt8)

namespace ClientCall

def key : ClientCall → ClientChannelKey
  | .advertise channel clientId isGateway _ _ => ⟨channel.id, clientId, isGateway⟩
  | .unadvertise clientChannelId clientId isGateway => ⟨clientChannelId, clientId, isGateway⟩
  | .message clientChannelId clientId isGateway _ => ⟨clientChannelId, clientId, isGateway⟩

def isMessage : ClientCall → Bool
  | .message .. => true
  | _ => false

/-- The call, up to the end of its locked section. -/
def perform : ClientCall → ClientM (Option (RosPublisher × ShapeShifter))
  | .advertise channel clientId isGateway description outcome => do
      onClientAdvertise channel clientId isGateway description outcome
      return none
  | .unadvertise clientChannelId clientId isGateway => do
      onClientUnadvertise clientChannelId clientId isGateway
      return none
  | .message clientChannelId clientId isGateway data =>
      some <$> onClientMessage clientChannelId clientId isGateway data

/-- The entry that the call makes, if the key is free. -/
def entry (subscriptionQueueLength : Int) : ClientCall → Option ClientAdvertisement
  | .advertise channel _ _ (some msgDescription) (.created serial) =>
      if channel.encoding = ros1MessageEncoding then
        some (advertisement channel msgDescription subscriptionQueueLength serial)
      else none
  | _ => none

end ClientCall

/-! ## One call -/

namespace ClientM

variable {α β : Type} (tables : ClientTables)

@[simp] theorem on_pure (a : α) : ClientM.on (pure a) tables = (.ok a, tables) := rfl

@[simp] theorem on_throw (error : ClientCallError) :
    ClientM.on (throw error : ClientM α) tables = (.error error, tables) := rfl

@[simp] theorem on_throw_bind (error : ClientCallError) (f : α → ClientM β) :
    ClientM.on ((throw error : ClientM α) >>= f) tables = (.error error, tables) := rfl

@[simp] theorem on_find_bind (key : ClientChannelKey)
    (f : Option ClientAdvertisement → ClientM α) :
    ClientM.on (findAdvertisement key >>= f) tables =
      ClientM.on (f (tables.held key)) tables := rfl

@[simp] theorem on_modify (change : ClientTables → ClientTables) :
    ClientM.on (modify change : ClientM PUnit) tables = (.ok ⟨⟩, change tables) := rfl

@[simp] theorem on_modify_bind (change : ClientTables → ClientTables)
    (f : PUnit → ClientM β) :
    ClientM.on ((modify change : ClientM PUnit) >>= f) tables =
      ClientM.on (f ⟨⟩) (change tables) := rfl

/-- A computation that goes on only if the first part does not throw. -/
theorem on_bind (m : ClientM α) (f : α → ClientM β) :
    ClientM.on (m >>= f) tables =
      match ClientM.on m tables with
      | (.ok a, tables) => ClientM.on (f a) tables
      | (.error error, tables) => (.error error, tables) := by
  unfold ClientM.on
  simp only [ExceptT.run_bind, StateT.run_bind]
  rcases StateT.run (ExceptT.run m) tables with ⟨_ | _, _⟩ <;> rfl

end ClientM

/-- `onClientAdvertise` throws and changes nothing, if the key is taken or the call has no
entry to make; whether it is taken is all that it reads of the map. -/
theorem onClientAdvertise_rejects (channel : ClientChannelInfo) (clientId : ClientId)
    (isGateway : Bool) (description : Option MessageDescription) (outcome : AdvertiseOutcome)
    (taken : Bool) (length : Int)
    (h : taken = true ∨ ClientCall.entry length
      (.advertise channel clientId isGateway description outcome) = none) :
    ∃ error, ∀ tables : ClientTables,
      (tables.held ⟨channel.id, clientId, isGateway⟩).isSome = taken →
      (onClientAdvertise channel clientId isGateway description outcome).on tables =
        (.error error, tables) := by
  by_cases hencoding : channel.encoding = ros1MessageEncoding
  case neg =>
    apply Exists.intro
    intro tables _
    rw [onClientAdvertise, if_pos hencoding]
    exact ClientM.on_throw_bind tables _ _
  cases taken with
  | true =>
      apply Exists.intro
      intro tables htaken
      simp only [onClientAdvertise, hencoding, ne_eq, not_true_eq_false, if_false,
        ClientM.on_find_bind, htaken, if_true]
      rfl
  | false =>
      have hentry := h.resolve_left Bool.false_ne_true
      cases description with
      | none =>
          apply Exists.intro
          intro tables htaken
          simp only [onClientAdvertise, hencoding, ne_eq, not_true_eq_false, if_false,
            ClientM.on_find_bind, htaken, Bool.false_eq_true]
          rfl
      | some msgDescription =>
          cases outcome with
          | threw what =>
              apply Exists.intro
              intro tables htaken
              simp only [onClientAdvertise, hencoding, ne_eq, not_true_eq_false, if_false,
                ClientM.on_find_bind, htaken, Bool.false_eq_true]
              rfl
          | empty =>
              apply Exists.intro
              intro tables htaken
              simp only [onClientAdvertise, hencoding, ne_eq, not_true_eq_false, if_false,
                ClientM.on_find_bind, htaken, Bool.false_eq_true]
              rfl
          | created serial =>
              simp [ClientCall.entry, hencoding] at hentry

/-- `onClientAdvertise` makes its entry, if the key is free, and wakes the poll thread. -/
theorem onClientAdvertise_accepts {channel : ClientChannelInfo} {clientId : ClientId}
    {isGateway : Bool} {description : Option MessageDescription} {outcome : AdvertiseOutcome}
    {tables : ClientTables} {ad : ClientAdvertisement}
    (hfree : tables.held ⟨channel.id, clientId, isGateway⟩ = none)
    (hentry : ClientCall.entry tables.subscriptionQueueLength
      (.advertise channel clientId isGateway description outcome) = some ad) :
    (onClientAdvertise channel clientId isGateway description outcome).on tables =
      (.ok (), { tables with
        clientAdvertisedTopics :=
          tables.clientAdvertisedTopics.insert ⟨channel.id, clientId, isGateway⟩ ad
        pokes := tables.pokes + 1 }) := by
  unfold ClientCall.entry at hentry
  split at hentry
  · rename_i msgDescription serial heq
    cases heq
    split at hentry
    · rename_i hencoding
      obtain rfl := Option.some.inj hentry
      have hnot := AList.lookup_eq_none.mp hfree
      simp only [onClientAdvertise, hencoding, ne_eq, not_true_eq_false, if_false,
        ClientM.on_find_bind, hfree, Option.isSome_none, Bool.false_eq_true,
        ClientM.on_modify_bind, pokePoll, ClientM.on_modify, UnorderedMap.emplace_of_notMem hnot]
    · cases hentry
  · cases hentry

theorem onClientUnadvertise_rejects (clientChannelId : ChannelId) (clientId : ClientId)
    (isGateway : Bool) : ∃ error, ∀ tables : ClientTables,
      tables.held ⟨clientChannelId, clientId, isGateway⟩ = none →
      (onClientUnadvertise clientChannelId clientId isGateway).on tables =
        (.error error, tables) := by
  apply Exists.intro
  intro tables hunknown
  simp only [onClientUnadvertise, ClientM.on_find_bind, hunknown]
  rfl

theorem onClientUnadvertise_accepts {clientChannelId : ChannelId} {clientId : ClientId}
    {isGateway : Bool} {tables : ClientTables} {ad : ClientAdvertisement}
    (hknown : tables.held ⟨clientChannelId, clientId, isGateway⟩ = some ad) :
    (onClientUnadvertise clientChannelId clientId isGateway).on tables =
      (.ok (), { tables with
        clientAdvertisedTopics :=
          tables.clientAdvertisedTopics.erase ⟨clientChannelId, clientId, isGateway⟩ }) := by
  simp only [onClientUnadvertise, ClientM.on_find_bind, hknown, ClientM.on_modify]

theorem onClientMessage_rejects (clientChannelId : ChannelId) (clientId : ClientId)
    (isGateway : Bool) (data : List UInt8) : ∃ error, ∀ tables : ClientTables,
      tables.held ⟨clientChannelId, clientId, isGateway⟩ = none →
      (onClientMessage clientChannelId clientId isGateway data).on tables =
        (.error error, tables) := by
  apply Exists.intro
  intro tables hunknown
  simp only [onClientMessage, ClientM.on_find_bind, hunknown]
  rfl

theorem onClientMessage_accepts {clientChannelId : ChannelId} {clientId : ClientId}
    {isGateway : Bool} {tables : ClientTables} {ad : ClientAdvertisement} (data : List UInt8)
    (hknown : tables.held ⟨clientChannelId, clientId, isGateway⟩ = some ad) :
    (onClientMessage clientChannelId clientId isGateway data).on tables =
      (.ok (ad.publisher, ad.shapeShifter data), tables) := by
  simp only [onClientMessage, ClientM.on_find_bind, hknown]
  rfl

/-! ## The reference map -/

/-- How a call ends. -/
inductive ClientReply
  | thrown
  | done
  /-- The message is about to be published, on this handle. -/
  | sends (publisher : RosPublisher) (message : ShapeShifter)

def ClientReply.of :
    Except ClientCallError (Option (RosPublisher × ShapeShifter)) → ClientReply
  | .error _ => .thrown
  | .ok none => .done
  | .ok (some (publisher, message)) => .sends publisher message

/-- What is held for each key of its own: the advertisement accepted last, until it is
withdrawn. -/
def clientMachine (subscriptionQueueLength : Int) :
    KeyedMachine ClientChannelKey (Option ClientAdvertisement) ClientCall ClientReply where
  key := ClientCall.key
  step held call :=
    match call, held with
    | .advertise .., some ad => (some ad, .thrown)
    | .advertise .., none =>
        match call.entry subscriptionQueueLength with
        | some ad => (some ad, .done)
        | none => (none, .thrown)
    | .unadvertise .., some _ => (none, .done)
    | .unadvertise .., none => (none, .thrown)
    | .message _ _ _ data, some ad => (some ad, .sends ad.publisher (ad.shapeShifter data))
    | .message .., none => (none, .thrown)

/-- What a call does: the tables it leaves hold what the machine holds, it ends as the machine
replies, and if it throws it leaves the tables as they were. -/
structure ClientCall.Serves (call : ClientCall) (tables : ClientTables) : Prop where
  held : (call.perform.on tables).2.held =
    ((clientMachine tables.subscriptionQueueLength).act tables.held call).1
  reply : ClientReply.of (call.perform.on tables).1 =
    ((clientMachine tables.subscriptionQueueLength).act tables.held call).2
  unchanged : ∀ error, (call.perform.on tables).1 = .error error →
    (call.perform.on tables).2 = tables
  length : (call.perform.on tables).2.subscriptionQueueLength = tables.subscriptionQueueLength

namespace ClientCall

variable {tables : ClientTables} {call : ClientCall}

/-- A call that throws. -/
theorem Serves.of_rejected {error : ClientCallError}
    (hon : call.perform.on tables = (.error error, tables))
    (hstep : (clientMachine tables.subscriptionQueueLength).step (tables.held call.key) call =
      (tables.held call.key, .thrown)) : call.Serves tables := by
  have hact := (clientMachine tables.subscriptionQueueLength).act_of_step hstep
  refine ⟨?_, ?_, fun _ _ => by rw [hon], by rw [hon]⟩
  · rw [hon, hact]
    exact (Function.update_eq_self _ _).symm
  · rw [hon, hact]
    rfl

/-- A call that is accepted and changes at most what is held under its key. -/
theorem Serves.of_accepted {result : Option (RosPublisher × ShapeShifter)}
    {next : ClientTables} (hon : call.perform.on tables = (.ok result, next))
    (hlength : next.subscriptionQueueLength = tables.subscriptionQueueLength)
    (hstep : (clientMachine tables.subscriptionQueueLength).step (tables.held call.key) call =
      (next.held call.key, ClientReply.of (.ok result)))
    (hothers : ∀ key, key ≠ call.key → next.held key = tables.held key) : call.Serves tables := by
  have hact := (clientMachine tables.subscriptionQueueLength).act_of_step hstep
  refine ⟨?_, ?_, ?_, by rw [hon]; exact hlength⟩
  · rw [hon, hact]
    funext key
    show next.held key = Function.update tables.held call.key (next.held call.key) key
    by_cases hkey : key = call.key
    · rw [hkey, Function.update_self]
    · rw [Function.update_of_ne hkey]
      exact hothers key hkey
  · rw [hon, hact]
  · intro error herror
    rw [hon] at herror
    cases herror

/-- A call that has nothing to return but `done`. -/
theorem on_done {m : ClientM Unit} {result : Except ClientCallError Unit} {next : ClientTables}
    (h : m.on tables = (result, next)) :
    ClientM.on (do m; return (none : Option (RosPublisher × ShapeShifter))) tables =
      (result.map fun _ => none, next) := by
  rw [ClientM.on_bind, h]
  cases result <;> rfl

/-- What a call comes to depends on what is held under its key. -/
def Determined (call : ClientCall) (length : Int) (held : Option ClientAdvertisement) : Prop :=
  ∃ result, ∀ tables : ClientTables, tables.subscriptionQueueLength = length →
    tables.held call.key = held → (call.perform.on tables).1 = result ∧ call.Serves tables

theorem determined_of_rejected {length : Int} {held : Option ClientAdvertisement}
    (hrejects : ∃ error, ∀ tables : ClientTables, tables.held call.key = held →
      call.perform.on tables = (.error error, tables))
    (hstep : (clientMachine length).step held call = (held, .thrown)) :
    call.Determined length held := by
  obtain ⟨error, hrejects⟩ := hrejects
  refine ⟨.error error, fun tables hlength hheld => ?_⟩
  have hon := hrejects tables hheld
  refine ⟨by rw [hon], Serves.of_rejected hon ?_⟩
  rw [hlength, hheld]
  exact hstep

theorem advertise_determined (channel : ClientChannelInfo) (clientId : ClientId)
    (isGateway : Bool) (description : Option MessageDescription) (outcome : AdvertiseOutcome)
    (length : Int) (held : Option ClientAdvertisement) :
    (ClientCall.advertise channel clientId isGateway description outcome).Determined
      length held := by
  have hrejects := onClientAdvertise_rejects channel clientId isGateway description outcome
    held.isSome length
  cases held with
  | some ad =>
      obtain ⟨error, hrejects⟩ := hrejects (.inl rfl)
      exact determined_of_rejected
        ⟨error, fun tables hheld => on_done (hrejects tables (congrArg Option.isSome hheld))⟩ rfl
  | none =>
      cases hentry : ClientCall.entry length
          (.advertise channel clientId isGateway description outcome) with
      | none =>
          obtain ⟨error, hrejects⟩ := hrejects (.inr hentry)
          refine determined_of_rejected
            ⟨error, fun tables hheld => on_done (hrejects tables (congrArg Option.isSome hheld))⟩ ?_
          simp only [clientMachine, hentry]
      | some ad =>
          refine ⟨.ok none, fun tables hlength hheld => ?_⟩
          have hon := on_done (onClientAdvertise_accepts hheld (hlength.symm ▸ hentry))
          have hnow : (tables.clientAdvertisedTopics.insert ⟨channel.id, clientId, isGateway⟩
              ad).lookup ⟨channel.id, clientId, isGateway⟩ = some ad := AList.lookup_insert _
          refine ⟨congrArg Prod.fst hon, Serves.of_accepted hon rfl ?_ fun key hkey => ?_⟩
          · rw [hlength, hheld]
            simp only [clientMachine, hentry]
            exact congrArg (·, ClientReply.done) hnow.symm
          · exact AList.lookup_insert_ne hkey

theorem unadvertise_determined (clientChannelId : ChannelId) (clientId : ClientId)
    (isGateway : Bool) (length : Int) (held : Option ClientAdvertisement) :
    (ClientCall.unadvertise clientChannelId clientId isGateway).Determined length held := by
  cases held with
  | none =>
      obtain ⟨error, hrejects⟩ := onClientUnadvertise_rejects clientChannelId clientId isGateway
      exact determined_of_rejected
        ⟨error, fun tables hheld => on_done (hrejects tables hheld)⟩ rfl
  | some ad =>
      refine ⟨.ok none, fun tables hlength hheld => ?_⟩
      have hon := on_done (onClientUnadvertise_accepts hheld)
      refine ⟨congrArg Prod.fst hon, Serves.of_accepted hon rfl ?_ fun key hkey => ?_⟩
      · rw [hheld, ClientTables.held, ClientCall.key, AList.lookup_erase]
        rfl
      · exact AList.lookup_erase_ne hkey

theorem message_determined (clientChannelId : ChannelId) (clientId : ClientId)
    (isGateway : Bool) (data : List UInt8) (length : Int) (held : Option ClientAdvertisement) :
    (ClientCall.message clientChannelId clientId isGateway data).Determined length held := by
  have hsome : ∀ {tables : ClientTables} {result : Except ClientCallError _},
      (onClientMessage clientChannelId clientId isGateway data).on tables = (result, tables) →
        (ClientCall.message clientChannelId clientId isGateway data).perform.on tables =
          (result.map some, tables) := by
    intro tables result hon
    rw [ClientCall.perform, map_eq_pure_bind, ClientM.on_bind, hon]
    cases result <;> rfl
  cases held with
  | none =>
      obtain ⟨error, hrejects⟩ :=
        onClientMessage_rejects clientChannelId clientId isGateway data
      exact determined_of_rejected
        ⟨error, fun tables hheld => hsome (hrejects tables hheld)⟩ rfl
  | some ad =>
      refine ⟨.ok (some (ad.publisher, ad.shapeShifter data)), fun tables hlength hheld => ?_⟩
      have hon := hsome (onClientMessage_accepts data hheld)
      refine ⟨congrArg Prod.fst hon, Serves.of_accepted hon rfl ?_ fun _ _ => rfl⟩
      rw [hheld]
      rfl

theorem determined (call : ClientCall) (length : Int) (held : Option ClientAdvertisement) :
    call.Determined length held := by
  cases call with
  | advertise => exact advertise_determined ..
  | unadvertise => exact unadvertise_determined ..
  | message => exact message_determined ..

/-- **One call.** Every call serves its key. -/
theorem serves (call : ClientCall) (tables : ClientTables) : call.Serves tables := by
  obtain ⟨result, hresult⟩ := call.determined tables.subscriptionQueueLength (tables.held call.key)
  exact (hresult tables rfl rfl).2

/-- Tables that hold the same for a call are the same to it. -/
theorem result_congr (call : ClientCall) {other : ClientTables}
    (hlength : other.subscriptionQueueLength = tables.subscriptionQueueLength)
    (hheld : other.held call.key = tables.held call.key) :
    (call.perform.on other).1 = (call.perform.on tables).1 := by
  obtain ⟨result, hresult⟩ := call.determined tables.subscriptionQueueLength (tables.held call.key)
  exact (hresult other hlength hheld).1.trans (hresult tables rfl rfl).1.symm

/-- What a call leaves under its own key, and how it ends. -/
theorem step_self (call : ClientCall) (tables : ClientTables) :
    ((call.perform.on tables).2.held call.key, ClientReply.of (call.perform.on tables).1) =
      (clientMachine tables.subscriptionQueueLength).step (tables.held call.key) call := by
  have hserves := call.serves tables
  rw [hserves.held, hserves.reply]
  exact congrArg (·, _) ((clientMachine _).act_self tables.held call)

/-- A call leaves the other keys alone. -/
theorem held_of_ne (call : ClientCall) {key : ClientChannelKey} (hkey : key ≠ call.key) :
    (call.perform.on tables).2.held key = tables.held key := by
  rw [(call.serves tables).held]
  exact (clientMachine _).act_of_ne _ hkey

end ClientCall

/-- Each of the two calls comes to the same before and after the other, and the tables hold
the same in the end. -/
structure ClientCall.Commute (a b : ClientCall) (tables : ClientTables) : Prop where
  left : (a.perform.on (b.perform.on tables).2).1 = (a.perform.on tables).1
  right : (b.perform.on (a.perform.on tables).2).1 = (b.perform.on tables).1
  held : (b.perform.on (a.perform.on tables).2).2.held =
    (a.perform.on (b.perform.on tables).2).2.held

/-- **Isolation.** Calls for different keys commute. -/
theorem ClientCall.commute_of_ne {a b : ClientCall} (h : a.key ≠ b.key) (tables : ClientTables) :
    a.Commute b tables := by
  have ha := a.serves tables
  have hb := b.serves tables
  refine ⟨a.result_congr hb.length (b.held_of_ne h), b.result_congr ha.length (a.held_of_ne h.symm),
    ?_⟩
  rw [(b.serves (a.perform.on tables).2).held, (a.serves (b.perform.on tables).2).held, ha.held,
    hb.held, ha.length, hb.length]
  exact ((clientMachine _).act_comm tables.held h).1

/-- The reasons to reject a call, `held` being what is held under its key. -/
def ClientCall.Rejectable (call : ClientCall) (held : Option ClientAdvertisement) : Prop :=
  match call with
  | .advertise channel _ _ description outcome =>
      channel.encoding ≠ ros1MessageEncoding ∨ held ≠ none ∨ description = none ∨
        ∀ serial, outcome ≠ .created serial
  | .unadvertise .. | .message .. => held = none

theorem ClientCall.entry_eq_none_iff (channel : ClientChannelInfo) (clientId : ClientId)
    (isGateway : Bool) (description : Option MessageDescription) (outcome : AdvertiseOutcome)
    (length : Int) :
    ClientCall.entry length (.advertise channel clientId isGateway description outcome) = none ↔
      channel.encoding ≠ ros1MessageEncoding ∨ description = none ∨
        ∀ serial, outcome ≠ .created serial := by
  cases description with
  | none => simp [ClientCall.entry]
  | some msgDescription => cases outcome <;> simp [ClientCall.entry]

/-- A call throws for one of these reasons, and for no other. -/
theorem ClientCall.throws_iff (call : ClientCall) (tables : ClientTables) :
    (∃ error, (call.perform.on tables).1 = .error error) ↔
      call.Rejectable (tables.held call.key) := by
  have hreply := congrArg Prod.snd (call.step_self tables)
  have hthrown : (∃ error, (call.perform.on tables).1 = .error error) ↔
      ClientReply.of (call.perform.on tables).1 = .thrown := by
    rcases (call.perform.on tables).1 with error | (_ | ⟨publisher, message⟩) <;>
      simp [ClientReply.of]
  rw [hthrown, show ClientReply.of (call.perform.on tables).1 = _ from hreply]
  generalize tables.held call.key = held
  cases call with
  | advertise channel clientId isGateway description outcome =>
      have hentry := ClientCall.entry_eq_none_iff channel clientId isGateway description outcome
        tables.subscriptionQueueLength
      cases held with
      | some ad => simp [clientMachine, ClientCall.Rejectable]
      | none =>
          simp only [ClientCall.Rejectable, ne_eq, not_true_eq_false, false_or]
          rw [← hentry]
          cases he : ClientCall.entry tables.subscriptionQueueLength
            (.advertise channel clientId isGateway description outcome) <;>
              simp [clientMachine, he]
  | unadvertise => cases held <;> simp [clientMachine, ClientCall.Rejectable]
  | message => cases held <;> simp [clientMachine, ClientCall.Rejectable]

/-! ## Runs -/

/-- A call that was made, and what it threw, if it threw. -/
structure ClientCallRecord where
  call : ClientCall
  thrown : Option ClientCallError

def ClientCallRecord.of {α : Type} (call : ClientCall) : Except ClientCallError α →
    ClientCallRecord
  | .error error => ⟨call, some error⟩
  | .ok _ => ⟨call, none⟩

/-- A call of `onClientMessage` that has released the mutex. -/
structure PendingPublish where
  call : Nat
  publisher : RosPublisher
  message : ShapeShifter

structure ClientPublishState where
  tables : ClientTables
  /-- The calls, in the order of their locked sections. -/
  history : List ClientCallRecord
  publishing : List PendingPublish
  /-- What was published, with the number of the call. -/
  published : List (Nat × Publication)
  /-- An assertion of roscpp failed. -/
  aborted : Bool

/-- A call up to the end of its locked section, or the publication that is left to do. -/
inductive ClientPublishAction
  | call (call : ClientCall)
  | publish (position : Nat)

namespace ClientPublishState

def initial (subscriptionQueueLength : Int) : ClientPublishState where
  tables := ⟨subscriptionQueueLength, ∅, 0⟩
  history := []
  publishing := []
  published := []
  aborted := false

/-- The calls that are about to publish after this one. -/
def stillPublishing (σ : ClientPublishState) :
    Except ClientCallError (Option (RosPublisher × ShapeShifter)) → List PendingPublish
  | .ok (some (publisher, message)) =>
      σ.publishing ++ [⟨σ.history.length, publisher, message⟩]
  | .ok none | .error _ => σ.publishing

def step (σ : ClientPublishState) : ClientPublishAction → Option ClientPublishState
  | .call call =>
      let (result, tables) := call.perform.on σ.tables
      some { σ with
        tables := tables
        history := σ.history ++ [.of call result]
        publishing := σ.stillPublishing result }
  | .publish position =>
      match σ.publishing[position]? with
      | some pending =>
          match pending.publisher.publish pending.message with
          | some publication =>
              some { σ with
                publishing := σ.publishing.eraseIdx position
                published := σ.published ++ [(pending.call, publication)] }
          | none =>
              some { σ with
                publishing := σ.publishing.eraseIdx position
                aborted := true }
      | none => none

end ClientPublishState

def clientPublishSystem : TSys ClientPublishState ClientPublishAction where
  init σ := ∃ subscriptionQueueLength, σ = .initial subscriptionQueueLength
  step := ClientPublishState.step

/-- The advertisement accepted last for this key, and not withdrawn since, is of this topic,
type and md5sum. -/
def LastAccepted (history : List ClientCallRecord) (key : ClientChannelKey)
    (topic type md5sum : String) : Prop :=
  ∃ before channel msgDescription outcome after,
    history = before ++ ⟨.advertise channel key.clientId key.isGateway (some msgDescription)
      outcome, none⟩ :: after ∧
    channel.id = key.channelId ∧ channel.topic = topic ∧ channel.schemaName = type ∧
    msgDescription.md5 = md5sum ∧
    ∀ later ∈ after, later.call.key = key → later.thrown = none → later.call.isMessage = true

theorem LastAccepted.append {history : List ClientCallRecord} {key : ClientChannelKey}
    {topic type md5sum : String} (h : LastAccepted history key topic type md5sum)
    {record : ClientCallRecord}
    (hrecord : record.call.key = key → record.thrown = none → record.call.isMessage = true) :
    LastAccepted (history ++ [record]) key topic type md5sum := by
  obtain ⟨before, channel, msgDescription, outcome, after, rfl, hid, htopic, htype, hmd5, hlater⟩ :=
    h
  refine ⟨before, channel, msgDescription, outcome, after ++ [record], by simp, hid, htopic, htype,
    hmd5, fun later hmem => ?_⟩
  rcases List.mem_append.mp hmem with hold | hlast
  · exact hlater later hold
  · obtain rfl := List.mem_singleton.mp hlast
    exact hrecord

theorem ClientReply.of_eq_thrown_iff {call : ClientCall}
    {result : Except ClientCallError (Option (RosPublisher × ShapeShifter))} :
    ClientReply.of result = .thrown ↔ (ClientCallRecord.of call result).thrown ≠ none := by
  rcases result with error | (_ | ⟨publisher, message⟩) <;>
    simp [ClientReply.of, ClientCallRecord.of]

theorem ClientCallRecord.of_eq {call : ClientCall}
    {result : Except ClientCallError (Option (RosPublisher × ShapeShifter))}
    (h : (ClientCallRecord.of call result).thrown = none) :
    ClientCallRecord.of call result = ⟨call, none⟩ := by
  cases result with
  | error error => cases h
  | ok sent => rfl

/-- What is held after a call was held before it, or the call is what put it there. -/
theorem ClientCall.held_cases (call : ClientCall) (tables : ClientTables)
    {key : ClientChannelKey} {ad : ClientAdvertisement}
    (h : (call.perform.on tables).2.held key = some ad) :
    (tables.held key = some ad ∧ (call.key = key →
      (ClientCallRecord.of call (call.perform.on tables).1).thrown = none →
        call.isMessage = true)) ∨
    ∃ channel msgDescription outcome,
      ClientCallRecord.of call (call.perform.on tables).1 =
        ⟨.advertise channel key.clientId key.isGateway (some msgDescription) outcome, none⟩ ∧
      channel.id = key.channelId ∧ channel.topic = ad.topicName ∧
      channel.schemaName = ad.topicType ∧ msgDescription.md5 = ad.md5sum := by
  by_cases hkey : key = call.key
  case neg => exact .inl ⟨call.held_of_ne hkey ▸ h, fun heq => absurd heq.symm hkey⟩
  subst hkey
  have hstep := call.step_self tables
  rw [h] at hstep
  obtain ⟨held, hheld⟩ : ∃ held, tables.held call.key = held := ⟨_, rfl⟩
  rw [hheld] at hstep ⊢
  have hnow := congrArg Prod.fst hstep
  have hreply := congrArg Prod.snd hstep
  cases call with
  | unadvertise => cases held <;> cases hnow
  | message =>
      cases held with
      | none => cases hnow
      | some held => exact .inl ⟨hnow.symm, fun _ _ => rfl⟩
  | advertise channel clientId isGateway description outcome =>
      cases held with
      | some held =>
          refine .inl ⟨hnow.symm, fun _ hthrown => ?_⟩
          exact absurd hthrown (ClientReply.of_eq_thrown_iff.mp hreply)
      | none =>
          simp only [clientMachine] at hnow hreply
          split at hnow
          case h_2 => cases hnow
          rename_i entry hentry
          obtain rfl := Option.some.inj hnow
          simp only [hentry] at hreply
          have hdone : ClientCallRecord.of (.advertise channel clientId isGateway description
              outcome) _ = ⟨_, none⟩ :=
            ClientCallRecord.of_eq (not_not.mp fun hthrown => ClientReply.noConfusion
              (hreply.symm.trans (ClientReply.of_eq_thrown_iff.mpr hthrown)))
          unfold ClientCall.entry at hentry
          split at hentry
          case h_2 => cases hentry
          rename_i msgDescription serial heq
          cases heq
          split at hentry
          case isFalse => cases hentry
          obtain rfl := Option.some.inj hentry
          exact .inr ⟨channel, msgDescription, .created serial, hdone, rfl, rfl, rfl, rfl⟩

/-- Only a message sends, and it sends what is held under its key. -/
theorem ClientCall.sends_cases {call : ClientCall} {tables : ClientTables}
    {publisher : RosPublisher} {message : ShapeShifter}
    (h : (call.perform.on tables).1 = .ok (some (publisher, message))) :
    ∃ clientChannelId clientId isGateway data ad,
      call = .message clientChannelId clientId isGateway data ∧
      tables.held call.key = some ad ∧ publisher = ad.publisher ∧
        message = ad.shapeShifter data := by
  have hreply := congrArg Prod.snd (call.step_self tables)
  rw [h] at hreply
  generalize tables.held call.key = held at hreply ⊢
  cases call with
  | advertise =>
      cases held with
      | some ad => cases hreply
      | none =>
          simp only [clientMachine] at hreply
          split at hreply <;> cases hreply
  | unadvertise => cases held <;> cases hreply
  | message clientChannelId clientId isGateway data =>
      cases held with
      | none => cases hreply
      | some ad =>
          cases hreply
          exact ⟨clientChannelId, clientId, isGateway, data, ad, rfl, rfl, rfl, rfl⟩

/-- A message that is accepted sends. -/
theorem ClientCall.isMessage_of_done {call : ClientCall} {tables : ClientTables}
    (h : (call.perform.on tables).1 = .ok none) : call.isMessage = false := by
  have hreply := congrArg Prod.snd (call.step_self tables)
  rw [h] at hreply
  cases call with
  | advertise => rfl
  | unadvertise => rfl
  | message =>
      generalize tables.held _ = held at hreply
      cases held <;> cases hreply

/-- The tables follow the machine over the calls made so far, and hold for each key what was
accepted last. -/
structure Follows (tables : ClientTables) (history : List ClientCallRecord) : Prop where
  held : tables.held = (clientMachine tables.subscriptionQueueLength).after (fun _ => none)
    (history.map ClientCallRecord.call)
  latest : ∀ key ad, tables.held key = some ad →
    LastAccepted history key ad.topicName ad.topicType ad.md5sum

theorem Follows.call {tables : ClientTables} {history : List ClientCallRecord}
    (h : Follows tables history) (call : ClientCall) :
    Follows (call.perform.on tables).2
      (history ++ [.of call (call.perform.on tables).1]) := by
  have hserves := call.serves tables
  have hcall : (ClientCallRecord.of call (call.perform.on tables).1).call = call := by
    cases (call.perform.on tables).1 <;> rfl
  constructor
  · rw [hserves.length, hserves.held, List.map_append, KeyedMachine.after_append, ← h.held]
    show _ = (KeyedMachine.act _ _ (ClientCallRecord.of call _).call).1
    rw [hcall]
  · intro key ad hheld
    rcases call.held_cases tables hheld with ⟨hbefore, hmessage⟩ |
      ⟨channel, msgDescription, outcome, hrecord, hid, htopic, htype, hmd5⟩
    · apply (h.latest key ad hbefore).append
      rwa [hcall]
    · rw [hrecord]
      exact ⟨history, channel, msgDescription, outcome, [], rfl, hid, htopic, htype, hmd5, nofun⟩

/-- The call with number `i` was an accepted message, and this is what it sends: the message it
was given, on the topic, and with the type and md5sum, that its key stood for. -/
def Sends (history : List ClientCallRecord) (i : Nat) (topic : String)
    (message : ShapeShifter) : Prop :=
  ∃ before clientChannelId clientId isGateway data after,
    history = before ++ ⟨.message clientChannelId clientId isGateway data, none⟩ :: after ∧
    before.length = i ∧ message.data = data.take (data.length % 2 ^ 32) ∧
    LastAccepted before ⟨clientChannelId, clientId, isGateway⟩ topic message.datatype
      message.md5sum

theorem Sends.append {history : List ClientCallRecord} {i : Nat} {topic : String}
    {message : ShapeShifter} (h : Sends history i topic message) (record : ClientCallRecord) :
    Sends (history ++ [record]) i topic message := by
  obtain ⟨before, clientChannelId, clientId, isGateway, data, after, rfl, h⟩ := h
  exact ⟨before, clientChannelId, clientId, isGateway, data, after ++ [record], by simp, h⟩

/-- The call with number `i` is a message that was accepted. -/
def acceptedMessage (history : List ClientCallRecord) (i : Nat) : Bool :=
  history[i]?.any fun record => record.call.isMessage && record.thrown.isNone

theorem acceptedMessage_append (history : List ClientCallRecord) (record : ClientCallRecord)
    (i : Nat) :
    acceptedMessage (history ++ [record]) i = if i = history.length then
      record.call.isMessage && record.thrown.isNone else acceptedMessage history i := by
  unfold acceptedMessage
  split
  · rename_i heq
    rw [heq, List.getElem?_concat_length]
    rfl
  · rename_i hne
    by_cases hlt : i < history.length
    · rw [List.getElem?_append_left hlt]
    · rw [List.getElem?_eq_none (by simp; omega), List.getElem?_eq_none (by omega)]

theorem acceptedMessage_length (history : List ClientCallRecord) :
    acceptedMessage history history.length = false := by
  rw [acceptedMessage, List.getElem?_eq_none (Nat.le_refl _)]
  rfl

/-- Each accepted message is published once, or about to be. -/
structure Delivers (history : List ClientCallRecord) (publishing : List PendingPublish)
    (published : List (Nat × Publication)) : Prop where
  waiting : ∀ pending ∈ publishing,
    Sends history pending.call pending.publisher.options.topic pending.message ∧
      pending.publisher.options.md5sum = pending.message.md5sum
  sent : ∀ sent ∈ published, Sends history sent.1 sent.2.topic sent.2.message
  once : ∀ i, (publishing.map PendingPublish.call).count i + (published.map Prod.fst).count i =
    if acceptedMessage history i then 1 else 0

namespace Delivers

variable {history : List ClientCallRecord} {publishing : List PendingPublish}
  {published : List (Nat × Publication)}

/-- A call that sends nothing. -/
theorem silent (h : Delivers history publishing published) {record : ClientCallRecord}
    (hsilent : (record.call.isMessage && record.thrown.isNone) = false) :
    Delivers (history ++ [record]) publishing published := by
  refine ⟨?_, fun sent hsent => (h.sent sent hsent).append record, ?_⟩
  · intro pending hpending
    obtain ⟨hsends, hmd5⟩ := h.waiting pending hpending
    exact ⟨hsends.append record, hmd5⟩
  · intro i
    rw [h.once i, acceptedMessage_append, hsilent]
    by_cases heq : i = history.length
    · rw [if_pos heq, heq, acceptedMessage_length]
    · rw [if_neg heq]

/-- A call that sends what the advertisement of its key says. -/
theorem message (h : Delivers history publishing published) {ad : ClientAdvertisement}
    {clientChannelId : ChannelId} {clientId : ClientId} {isGateway : Bool} {data : List UInt8}
    (hlast : LastAccepted history ⟨clientChannelId, clientId, isGateway⟩ ad.topicName ad.topicType
      ad.md5sum) :
    Delivers (history ++ [⟨.message clientChannelId clientId isGateway data, none⟩])
      (publishing ++ [⟨history.length, ad.publisher, ad.shapeShifter data⟩]) published := by
  refine ⟨?_, fun sent hsent => (h.sent sent hsent).append _, ?_⟩
  · intro pending hpending
    rcases List.mem_append.mp hpending with hold | hlatest
    · obtain ⟨hsends, hmd5⟩ := h.waiting pending hold
      exact ⟨hsends.append _, hmd5⟩
    · obtain rfl := List.mem_singleton.mp hlatest
      refine ⟨⟨history, clientChannelId, clientId, isGateway, data, [], rfl, rfl, rfl, ?_⟩,
        ad.publisher_md5sum⟩
      rw [show (PendingPublish.mk _ _ _).publisher = ad.publisher from rfl, ad.publisher_topic]
      exact hlast
  · intro i
    have honce := h.once i
    rw [acceptedMessage_append, List.map_append, List.count_append, List.map_singleton,
      List.count_singleton]
    by_cases heq : i = history.length
    · subst heq
      rw [acceptedMessage_length] at honce
      simp only [beq_self_eq_true, if_true, Bool.false_eq_true, if_false] at honce ⊢
      have hmessage :
          (ClientCall.message clientChannelId clientId isGateway data).isMessage = true := rfl
      rw [hmessage]
      simp only [Option.isNone_none, Bool.and_self, if_true]
      omega
    · have hne : (history.length == i) = false := by
        rw [beq_eq_false_iff_ne]
        exact Ne.symm heq
      rw [if_neg heq, hne]
      simpa using honce

/-- A waiting call publishes; roscpp has nothing to object to. -/
theorem publish (h : Delivers history publishing published) {position : Nat}
    {pending : PendingPublish} (hpending : publishing[position]? = some pending) :
    ∃ publication, pending.publisher.publish pending.message = some publication ∧
      Delivers history (publishing.eraseIdx position)
        (published ++ [(pending.call, publication)]) := by
  obtain ⟨hsends, hmd5⟩ := h.waiting pending (List.mem_of_getElem? hpending)
  refine ⟨⟨pending.publisher.options.topic, pending.message⟩, if_pos (.inr (.inr hmd5)), ?_⟩
  refine ⟨fun other hother => h.waiting other (List.mem_of_mem_eraseIdx hother), ?_, ?_⟩
  · intro sent hsent
    rcases List.mem_append.mp hsent with hold | hlast
    · exact h.sent sent hold
    · obtain rfl := List.mem_singleton.mp hlast
      exact hsends
  · intro i
    have hmoved := List.count_map_eraseIdx hpending PendingPublish.call i
    rw [← h.once i, List.map_append, List.count_append]
    simp only [List.map_cons, List.map_nil]
    omega

end Delivers

/-- The tables follow the machine, and the messages are delivered. -/
structure ClientPublishState.Isolated (σ : ClientPublishState) : Prop where
  follows : Follows σ.tables σ.history
  delivers : Delivers σ.history σ.publishing σ.published
  aborted : σ.aborted = false

namespace ClientPublishState.Isolated

variable {σ : ClientPublishState}

theorem step {σ' : ClientPublishState} {a : ClientPublishAction} (h : σ.Isolated)
    (hs : σ.step a = some σ') : σ'.Isolated := by
  cases a with
  | call call =>
      obtain rfl := Option.some.inj hs
      refine ⟨h.follows.call call, ?_, h.aborted⟩
      show Delivers (σ.history ++ [.of call (call.perform.on σ.tables).1])
        (σ.stillPublishing (call.perform.on σ.tables).1) σ.published
      generalize hresult : (call.perform.on σ.tables).1 = result
      match result with
      | .error error => exact h.delivers.silent (Bool.and_false _)
      | .ok none =>
          apply h.delivers.silent
          show (call.isMessage && _) = false
          rw [ClientCall.isMessage_of_done hresult, Bool.false_and]
      | .ok (some (publisher, message)) =>
          obtain ⟨clientChannelId, clientId, isGateway, data, ad, rfl, hheld, rfl, rfl⟩ :=
            ClientCall.sends_cases hresult
          exact h.delivers.message (h.follows.latest _ ad hheld)
  | publish position =>
      simp only [ClientPublishState.step] at hs
      split at hs
      case h_2 => cases hs
      rename_i pending hpending
      obtain ⟨publication, hpublish, hdelivers⟩ := h.delivers.publish hpending
      rw [hpublish] at hs
      obtain rfl := Option.some.inj hs
      exact ⟨h.follows, hdelivers, h.aborted⟩

theorem of_reachable (h : clientPublishSystem.Reachable σ) : σ.Isolated := by
  refine TSys.Run.invariant h ⟨?_, fun _ _ _ hisolated _ hs => hisolated.step hs⟩
  rintro _ ⟨subscriptionQueueLength, rfl⟩
  exact ⟨⟨rfl, nofun⟩, ⟨nofun, nofun, fun _ => rfl⟩, rfl⟩

end ClientPublishState.Isolated

/-- What the reference map holds after these calls. -/
def referenceMap (subscriptionQueueLength : Int) (calls : List ClientCall) :
    ClientChannelKey → Option ClientAdvertisement :=
  (clientMachine subscriptionQueueLength).after (fun _ => none) calls

/-- A reference map keeps its keys apart. -/
theorem referenceMap_apply (subscriptionQueueLength : Int) (calls : List ClientCall)
    (key : ClientChannelKey) :
    referenceMap subscriptionQueueLength calls key =
      referenceMap subscriptionQueueLength (calls.filter fun call => call.key = key) key :=
  (clientMachine subscriptionQueueLength).after_apply _ calls key

/-- **Client publishing.** In every state that the calls of any clients on both transports can
reach, whatever the description provider and roscpp answer, the table holds what the
reference map holds, which for each key is the doing of its own calls. A call throws for its
reasons and no other, and then changes nothing. Each accepted message is published once,
with the topic, type and md5sum that its key stood for, and calls for different keys commute. -/
theorem client_publishing_isolated {σ : ClientPublishState}
    (h : clientPublishSystem.Reachable σ) :
    σ.tables.held = referenceMap σ.tables.subscriptionQueueLength
        (σ.history.map ClientCallRecord.call) ∧
      (∀ key, σ.tables.held key = referenceMap σ.tables.subscriptionQueueLength
        ((σ.history.map ClientCallRecord.call).filter fun call => call.key = key) key) ∧
      (∀ call : ClientCall, ((∃ error, (call.perform.on σ.tables).1 = .error error) ↔
          call.Rejectable (σ.tables.held call.key)) ∧
        ∀ error, (call.perform.on σ.tables).1 = .error error →
          (call.perform.on σ.tables).2 = σ.tables) ∧
      Delivers σ.history σ.publishing σ.published ∧ σ.aborted = false ∧
      ∀ a b : ClientCall, a.key ≠ b.key → a.Commute b σ.tables := by
  have hisolated := ClientPublishState.Isolated.of_reachable h
  have hheld := hisolated.follows.held
  refine ⟨hheld, fun key => (congrFun hheld key).trans (referenceMap_apply _ _ key), fun call => ?_,
    hisolated.delivers, hisolated.aborted, fun a b hkeys => ClientCall.commute_of_ne hkeys σ.tables⟩
  exact ⟨call.throws_iff σ.tables, (call.serves σ.tables).unchanged⟩

/-- A client of each transport uses the same ids; one of them withdraws its channel and
advertises it with another type, while its first message is about to be published. -/
def sharedIds : List ClientPublishAction :=
  let chatter : ClientChannelInfo := ⟨1, "/chatter", "ros1", "std_msgs/String"⟩
  let count : ClientChannelInfo := ⟨1, "/count", "ros1", "std_msgs/Int32"⟩
  [.call (.advertise chatter 7 false (some ⟨"992c", "string data"⟩) (.created 0)),
    .call (.advertise count 7 true (some ⟨"da57", "int32 data"⟩) (.created 1)),
    .call (.advertise count 7 false (some ⟨"da57", "int32 data"⟩) (.created 2)),
    .call (.message 1 7 false [1]),
    .call (.unadvertise 1 7 false),
    .call (.message 1 7 false [2]),
    .call (.advertise count 7 false (some ⟨"da57", "int32 data"⟩) (.created 3)),
    .publish 0,
    .call (.message 1 7 false [4]),
    .publish 0]

theorem client_publishing_isolated_shared : ∃ σ,
    clientPublishSystem.exec (.initial 10) sharedIds = some σ ∧
      σ.published.map (fun sent => (sent.1, sent.2.topic)) = [(3, "/chatter"), (7, "/count")] ∧
      σ.history.map (fun record => record.thrown.isSome) =
        [false, false, true, false, false, true, false, false] ∧
      Delivers σ.history σ.publishing σ.published := by
  refine ⟨_, rfl, rfl, rfl, ?_⟩
  have hexec : clientPublishSystem.exec (.initial 10) sharedIds = some _ := rfl
  have hinit : clientPublishSystem.init (.initial 10) := ⟨10, rfl⟩
  have hreach := TSys.Reachable.exec (.init hinit) hexec
  exact (client_publishing_isolated hreach).2.2.2.1

end FoxgloveBridge
