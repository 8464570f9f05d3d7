import KrakenMare.Agent.AgentCommon
import KrakenMare.Agent.DeviceRegistration
import KrakenMare.Lib.Steps

/-!
# The handshake of an agent with the framework

`mqtt_on_message` of `simulator/IBswitchSimulator.py` and `redfish/RedfishAgent.py`, the same for
both but for what they print.  The MQTT client calls it in a thread of its own, while the main
thread polls the flags `myMQTTregistered`, `myDeviceRegistered` and `myMQTTderegistered`; so the
callback is a program whose assignments can be seen one by one.

**The callback** compares the topic of the message with the three response topics of the agent, in
the order of the source.  A topic list is a list of pairs of a topic and its QoS; it is empty where
the attribute is `False` or not there yet, since subscripting raises then too.  `userdata` is the
registration response topic list itself, which is what the client was made with.

**Truthful** is what the flags should tell: registered, that a response with a true status has come
and the uuid and all topics are made from it; devices registered, that a device list response for
this agent has come and the map is the one in it; deregistered, that a response for this agent has
confirmed it.

* `handshake_truthful_iff` — **at every moment they tell it exactly if no message registers the
  agent**: the flag is set before the uuid and the topics.
* `truthful_at_rest` — between two callbacks they tell it, as long as every response is proper
  (`Proper`); nothing in the callback looks at the status.
* `deviceRegistration_onResponse` — `DeviceRegistration` gives a short account of the same
  callback.
* `registered_before_uuid` — the agent can be seen registered as `-1`.

The two callbacks of the source are two definitions here, with one body.
-/

namespace KrakenMare

open Lib

/-! ## What a decoded record shows -/

/-- What `myAgent_uuid` may hold: the `-1` it starts with, or the uuid of a record, which may be
null. -/
inductive AgentUuid
  | minusOne
  | null
  | uuid (u : UUID)
deriving DecidableEq

/-- `str(self.myAgent_uuid)`, as it stands in the topics. -/
def AgentUuid.str : AgentUuid → String
  | minusOne => "-1"
  | null => "None"
  | uuid u => u.toString

namespace Message

/-- `data["uuid"]`; `none` is a `KeyError`, which leaves the callback. -/
def uuid? : Message → Option AgentUuid
  | .deviceList m => some (.uuid m.uuid)
  | .deregisterRequest m => some (.uuid m.uuid)
  | .registerResponse m => some (.uuid m.uuid)
  | .deviceListResponse m => some (.uuid m.uuid)
  | .agent m => some (m.uuid.elim .null .uuid)
  | _ => none

/-- `data["deviceUuids"]`, which only the answer to a device list has. -/
def deviceUuids? : Message → Option (Dict String SensorUuids)
  | .deviceListResponse m => some m.deviceUuids
  | _ => none

end Message

/-! ## The callback -/

/-- The attributes that the callback reads or sets.  The main thread reads them at any moment. -/
structure Handshake where
  myAgent_registration_response_topic : List (String × ℕ)
  myMQTTregistered : Bool
  myAgent_uuid : AgentUuid
  myAgent_deregistration_request_topic : List (String × ℕ)
  myDevice_registration_request_topic : Option String
  myDevice_registration_response_topic : List (String × ℕ)
  myAgent_deregistration_response_topic : List (String × ℕ)
  myDeviceSensorUUIDsMap : Dict String SensorUuids
  myDeviceRegistered : Bool
  myMQTTderegistered : Bool
  /-- the records that `decode_message` has returned so far; not an attribute -/
  decoded : List Message
deriving DecidableEq

namespace Handshake

/-- An agent whose constructor has run: not registered, without a uuid, and with one topic to listen
on. -/
def start (myAgent_uid : String) : Handshake where
  myAgent_registration_response_topic := [("agent-registration/" ++ myAgent_uid ++ "/response", 2)]
  myMQTTregistered := false
  myAgent_uuid := .minusOne
  myAgent_deregistration_request_topic := []
  myDevice_registration_request_topic := none
  myDevice_registration_response_topic := []
  myAgent_deregistration_response_topic := []
  myDeviceSensorUUIDsMap := ∅
  myDeviceRegistered := false
  myMQTTderegistered := false
  decoded := []

/-- `topics[0][0]`; `none` is the `IndexError` on an empty list. -/
def firstTopic (topics : List (String × ℕ)) : Option String := topics.head?.map Prod.fst

section
variable {Bytes : Type} (S : MessageSerializer Bytes) (myAgent_debug : Bool)

/-- `self.msg_serializer.decode_message(payload)`; an exception ends the callback. -/
def decodeMessage (payload : Bytes) : Steps Handshake Message :=
  match S.decode payload with
  | none => Steps.fail
  | some data => do
      Steps.assign fun self => { self with decoded := self.decoded ++ [data] }
      return data

/-- In debug mode the uuid is printed.  The line reads a field, and a record without it ends the
callback. -/
def printUuid (data : Message) : Steps Handshake Unit :=
  if myAgent_debug then do
    let _uuid ← Steps.ofOption data.uuid?
    return ()
  else return ()

/-- The topics of a registered agent, and their two entries in `userdata`. -/
def setTopics : Steps Handshake Unit := do
  Steps.assign fun self => { self with myAgent_deregistration_request_topic := [] }
  Steps.assign fun self => { self with
    myAgent_deregistration_request_topic := self.myAgent_deregistration_request_topic
      ++ [("agent-deregistration/" ++ self.myAgent_uuid.str ++ "/request", 2)] }
  Steps.assign fun self => { self with
    myDevice_registration_request_topic :=
      some ("device-registration/" ++ self.myAgent_uuid.str ++ "/request") }
  Steps.assign fun self => { self with myDevice_registration_response_topic := [] }
  Steps.assign fun self => { self with
    myDevice_registration_response_topic := self.myDevice_registration_response_topic
      ++ [("device-registration/" ++ self.myAgent_uuid.str ++ "/response", 2)] }
  Steps.assign fun self => { self with myAgent_deregistration_response_topic := [] }
  Steps.assign fun self => { self with
    myAgent_deregistration_response_topic := self.myAgent_deregistration_response_topic
      ++ [("agent-deregistration/" ++ self.myAgent_uuid.str ++ "/response", 2)] }
  Steps.assign fun self => { self with
    myAgent_registration_response_topic := self.myAgent_registration_response_topic
      ++ [("device-registration/" ++ self.myAgent_uuid.str ++ "/response", 2)] }
  Steps.assign fun self => { self with
    myAgent_registration_response_topic := self.myAgent_registration_response_topic
      ++ [("agent-deregistration/" ++ self.myAgent_uuid.str ++ "/response", 2)] }

/-- The branch for the registration response.  The flag is raised before the uuid and the topics are
set. -/
def onRegistrationResponse (payload : Bytes) : Steps Handshake Unit := do
  let data ← decodeMessage S payload
  printUuid myAgent_debug data
  Steps.assign fun self => { self with myMQTTregistered := true }
  let uuid ← Steps.ofOption data.uuid?
  Steps.assign fun self => { self with myAgent_uuid := uuid }
  setTopics

/-- The map is stored if the answer is for this agent; both fields are read from the record, which
may not have them. -/
def storeDeviceUuids (data : Message) : Steps Handshake Unit := do
  let self ← Steps.get
  let uuid ← Steps.ofOption data.uuid?
  if uuid = self.myAgent_uuid then
    let deviceUuids ← Steps.ofOption data.deviceUuids?
    Steps.assign fun self => { self with myDeviceSensorUUIDsMap := deviceUuids }

/-- The branch for the device registration response.  The flag is raised also when the answer was
for another agent and the map has not been stored. -/
def onDeviceRegistrationResponse (payload : Bytes) : Steps Handshake Unit := do
  let data ← decodeMessage S payload
  storeDeviceUuids data
  Steps.assign fun self => { self with myDeviceRegistered := true }

/-- The branch for the deregistration response: the payload is decoded to be printed. -/
def onDeregistrationResponse (payload : Bytes) : Steps Handshake Unit := do
  Steps.assign fun self => { self with myMQTTderegistered := true }
  let _data ← decodeMessage S payload

/-- `mqtt_on_message`: the branch is chosen by the topic of the message.  Where an agent has no
topic yet the comparison raises, so later branches are out of reach. -/
def mqttOnMessage (message : Publication Bytes) : Steps Handshake Unit := do
  let self ← Steps.get
  let registration ← Steps.ofOption (firstTopic self.myAgent_registration_response_topic)
  if message.topic = registration then onRegistrationResponse S myAgent_debug message.payload
  else
    let device ← Steps.ofOption (firstTopic self.myDevice_registration_response_topic)
    if message.topic = device then onDeviceRegistrationResponse S message.payload
    else
      let deregistration ← Steps.ofOption (firstTopic self.myAgent_deregistration_response_topic)
      if message.topic = deregistration then onDeregistrationResponse S message.payload

end

end Handshake

/-- The callback of the simulator, which has the same branches as that of the other agent. -/
def IBswitchSimulator.mqttOnMessage {Bytes : Type} (S : MessageSerializer Bytes)
    (myAgent_debug : Bool) (message : Publication Bytes) : Steps Handshake Unit :=
  Handshake.mqttOnMessage S myAgent_debug message

/-- The callback of the Redfish agent, which has the same branches as that of the simulator. -/
def RedfishAgent.mqttOnMessage {Bytes : Type} (S : MessageSerializer Bytes)
    (myAgent_debug : Bool) (message : Publication Bytes) : Steps Handshake Unit :=
  Handshake.mqttOnMessage S myAgent_debug message

/-! ## What the flags should tell -/

namespace Handshake

/-- The uuid and the topics of the agent are those of `u`, all five of them. -/
structure SetFrom (a : Handshake) (u : UUID) : Prop where
  uuid : a.myAgent_uuid = .uuid u
  deregistrationRequest : a.myAgent_deregistration_request_topic
    = [("agent-deregistration/" ++ u.toString ++ "/request", 2)]
  deviceRequest : a.myDevice_registration_request_topic
    = some ("device-registration/" ++ u.toString ++ "/request")
  deviceResponse : a.myDevice_registration_response_topic
    = [("device-registration/" ++ u.toString ++ "/response", 2)]
  deregistrationResponse : a.myAgent_deregistration_response_topic
    = [("agent-deregistration/" ++ u.toString ++ "/response", 2)]

/-- What the flags should tell of the messages that were decoded, of the uuid and of the topics. -/
structure Truthful (a : Handshake) : Prop where
  registered : a.myMQTTregistered = true →
    ∃ r, .registerResponse r ∈ a.decoded ∧ r.status = true ∧ SetFrom a r.uuid
  devices : a.myDeviceRegistered = true → ∃ r, .deviceListResponse r ∈ a.decoded ∧
    a.myAgent_uuid = .uuid r.uuid ∧ a.myDeviceSensorUUIDsMap = r.deviceUuids
  deregistered : a.myMQTTderegistered = true → ∃ r, .deregisterResponse r ∈ a.decoded ∧
    r.success = true ∧ a.myAgent_uuid = .uuid r.agentUuid

section
variable {Bytes : Type} {S : MessageSerializer Bytes} {myAgent_debug : Bool} {uid : String}
  {a : Handshake} {m : Publication Bytes}

/-! ## At every moment -/

variable (S myAgent_debug uid) in
/-- A message that gets as far as `a.myMQTTregistered = True`. -/
def Registers (m : Publication Bytes) : Prop :=
  m.topic = "agent-registration/" ++ uid ++ "/response" ∧
    ∃ data, S.decode m.payload = some data ∧ (myAgent_debug = true → data.uuid?.isSome)

variable (uid) in
/-- The agent has not been registered, and has no topics to be told anything else on. -/
structure Unregistered (a : Handshake) : Prop where
  topic : firstTopic a.myAgent_registration_response_topic
    = some ("agent-registration/" ++ uid ++ "/response")
  uuid : a.myAgent_uuid = .minusOne
  noTopic : a.myDevice_registration_response_topic = []
  registered : a.myMQTTregistered = false
  devices : a.myDeviceRegistered = false
  deregistered : a.myMQTTderegistered = false

lemma unregistered_start (uid : String) : Unregistered uid (start uid) :=
  ⟨rfl, rfl, rfl, rfl, rfl, rfl⟩

lemma Unregistered.truthful (h : Unregistered uid a) : Truthful a where
  registered hr := absurd (h.registered.symm.trans hr) (by simp)
  devices hr := absurd (h.devices.symm.trans hr) (by simp)
  deregistered hr := absurd (h.deregistered.symm.trans hr) (by simp)

lemma Unregistered.decode (h : Unregistered uid a) (data : Message) :
    Unregistered uid { a with decoded := a.decoded ++ [data] } :=
  ⟨h.topic, h.uuid, h.noTopic, h.registered, h.devices, h.deregistered⟩

lemma decodeMessage_bind {payload : Bytes} {data : Message} {α : Type}
    (h : S.decode payload = some data) (k : Message → Steps Handshake α) :
    decodeMessage S payload >>= k
      = Steps.assign (fun a => { a with decoded := a.decoded ++ [data] }) >>= fun _ => k data := by
  rw [decodeMessage, h]
  rfl

lemma decodeMessage_bind_none {payload : Bytes} {α : Type} (h : S.decode payload = none)
    (k : Message → Steps Handshake α) : decodeMessage S payload >>= k = Steps.fail := by
  rw [decodeMessage, h]
  rfl

/-- A message that does not register the agent changes nothing that the flags are about. -/
lemma Unregistered.keep (hm : ¬ Registers S myAgent_debug uid m) (h : Unregistered uid a) :
    Steps.Always Truthful (mqttOnMessage S myAgent_debug m) a ∧
      Unregistered uid ((mqttOnMessage S myAgent_debug m).run a).final := by
  rw [Steps.Always, mqttOnMessage, Steps.run_get_bind, h.topic, Steps.ofOption_some,
    Steps.pure_bind]
  split_ifs with htopic
  · rw [onRegistrationResponse]
    cases hdecode : S.decode m.payload with
    | none =>
        rw [decodeMessage_bind_none hdecode]
        exact ⟨by simp, h⟩
    | some data =>
        -- only in debug mode, where the missing uuid is read before the flag is set
        have huuid : myAgent_debug = true ∧ data.uuid? = none := by
          by_contra hno
          refine hm ⟨htopic, data, hdecode, fun hdebug => ?_⟩
          exact Option.isSome_iff_ne_none.mpr fun hnone => hno ⟨hdebug, hnone⟩
        have hprint : printUuid myAgent_debug data = Steps.fail := by
          rw [printUuid, if_pos huuid.1, huuid.2]
          rfl
        rw [decodeMessage_bind hdecode, Steps.run_assign_bind, hprint, Steps.fail_bind]
        refine ⟨fun t ht => ?_, h.decode data⟩
        obtain rfl := List.mem_singleton.mp ht
        exact (h.decode data).truthful
  · rw [h.noTopic]
    exact ⟨by simp [firstTopic], h⟩

/-- Between the flag and the uuid there is a moment when the agent says it is registered as `-1`. -/
lemma Unregistered.violates (hm : Registers S myAgent_debug uid m) (h : Unregistered uid a) :
    ¬ Steps.Always Truthful (mqttOnMessage S myAgent_debug m) a := by
  obtain ⟨htopic, data, hdecode, hdebug⟩ := hm
  have hprint : printUuid myAgent_debug data = pure () := by
    cases myAgent_debug with
    | false => rfl
    | true =>
        obtain ⟨u, hu⟩ := Option.isSome_iff_exists.mp (hdebug rfl)
        rw [printUuid, if_pos rfl, hu]
        rfl
  intro halways
  have ht : Truthful { a with decoded := a.decoded ++ [data], myMQTTregistered := true } := by
    refine halways _ ?_
    rw [mqttOnMessage, Steps.run_get_bind, h.topic, Steps.ofOption_some, Steps.pure_bind,
      if_pos htopic, onRegistrationResponse, decodeMessage_bind hdecode, Steps.run_assign_bind,
      hprint]
    exact List.mem_cons_of_mem _ List.mem_cons_self
  obtain ⟨r, -, -, hset⟩ := ht.registered rfl
  exact absurd (h.uuid.symm.trans hset.uuid) (by simp)

/-- Over a run of an agent that is not registered: the first message that registers it shows a flag
too early, and without one every state is truthful. -/
lemma truthful_points (h : Unregistered uid a) : ∀ messages : List (Publication Bytes),
    (∀ t ∈ Steps.points (mqttOnMessage S myAgent_debug) messages a, Truthful t) ↔
      ∀ m ∈ messages, ¬ Registers S myAgent_debug uid m := by
  intro messages
  constructor
  · intro htruthful
    induction messages generalizing a with
    | nil => simp
    | cons m messages ih =>
        have hm : ¬ Registers S myAgent_debug uid m := fun hm => h.violates hm fun t ht =>
          htruthful t (List.mem_cons_of_mem _ (List.mem_append_left _ ht))
        have hrest := ih (h.keep hm).2 fun t ht =>
          htruthful t (List.mem_cons_of_mem _ (List.mem_append_right _ ht))
        exact List.forall_mem_cons.mpr ⟨hm, hrest⟩
  · intro hnone t ht
    exact Steps.always_points (fun _ => Unregistered.truthful)
      (fun m a hm h => Unregistered.keep hm h) hnone h t ht

/-! ## Between two callbacks -/

variable (S) in
/-- A message that tells the agent what its topic promises: a registration that succeeded, and did
not change the uuid of an agent that has got further; a device list for this agent, at least the
first time; a deregistration of this agent that succeeded. -/
structure Proper (a : Handshake) (m : Publication Bytes) : Prop where
  registration : firstTopic a.myAgent_registration_response_topic = some m.topic →
    ∀ data, S.decode m.payload = some data → ∃ r, data = .registerResponse r ∧ r.status = true ∧
      (a.myDeviceRegistered = true ∨ a.myMQTTderegistered = true → a.myAgent_uuid = .uuid r.uuid)
  devices : firstTopic a.myDevice_registration_response_topic = some m.topic →
    ∀ data u, S.decode m.payload = some data → data.uuid? = some u →
      a.myDeviceRegistered = true ∨ u = a.myAgent_uuid
  deregistration : firstTopic a.myAgent_deregistration_response_topic = some m.topic →
    ∃ r, S.decode m.payload = some (.deregisterResponse r) ∧ r.success = true ∧
      a.myAgent_uuid = .uuid r.agentUuid

variable (S myAgent_debug) in
/-- Every message is proper when its turn comes, the agent having handled those before it. -/
def ProperRun : List (Publication Bytes) → Handshake → Prop
  | [], _ => True
  | m :: messages, a =>
      Proper S a m ∧ ProperRun messages ((mqttOnMessage S myAgent_debug m).run a).final

/-- What the rest of the attributes hold is of no account. -/
lemma SetFrom.congr {u : UUID} (h : SetFrom a u) (registration : List (String × ℕ))
    (registered devices deregistered : Bool) (map : Dict String SensorUuids)
    (decoded : List Message) : SetFrom { a with
      myAgent_registration_response_topic := registration
      myMQTTregistered := registered
      myDeviceSensorUUIDsMap := map
      myDeviceRegistered := devices
      myMQTTderegistered := deregistered
      decoded := decoded } u :=
  ⟨h.uuid, h.deregistrationRequest, h.deviceRequest, h.deviceResponse, h.deregistrationResponse⟩

/-- A record more is no harm. -/
lemma Truthful.decode (h : Truthful a) (data : Message) :
    Truthful { a with decoded := a.decoded ++ [data] } where
  registered hr := by
    obtain ⟨r, hmem, hstatus, hset⟩ := h.registered hr
    exact ⟨r, List.mem_append_left _ hmem, hstatus, hset.congr ..⟩
  devices hr := by
    obtain ⟨r, hmem, hr⟩ := h.devices hr
    exact ⟨r, List.mem_append_left _ hmem, hr⟩
  deregistered hr := by
    obtain ⟨r, hmem, hr⟩ := h.deregistered hr
    exact ⟨r, List.mem_append_left _ hmem, hr⟩

/-- The map and its flag. -/
lemma Truthful.registerDevices (h : Truthful a) {map : Dict String SensorUuids}
    (hmap : ∃ r, .deviceListResponse r ∈ a.decoded ∧ a.myAgent_uuid = .uuid r.uuid ∧
      map = r.deviceUuids) :
    Truthful { a with myDeviceSensorUUIDsMap := map, myDeviceRegistered := true } where
  registered hr := by
    obtain ⟨r, hmem, hstatus, hset⟩ := h.registered hr
    exact ⟨r, hmem, hstatus, hset.congr ..⟩
  devices _ := hmap
  deregistered hr := h.deregistered hr

lemma Truthful.deregister (h : Truthful a) (hgone : ∃ r, .deregisterResponse r ∈ a.decoded ∧
    r.success = true ∧ a.myAgent_uuid = .uuid r.agentUuid) :
    Truthful { a with myMQTTderegistered := true } where
  registered hr := by
    obtain ⟨r, hmem, hstatus, hset⟩ := h.registered hr
    exact ⟨r, hmem, hstatus, hset.congr ..⟩
  devices hr := h.devices hr
  deregistered _ := hgone

/-- What the answer to a registration leaves. -/
lemma final_onRegistrationResponse (myAgent_debug : Bool) {payload : Bytes} {r : RegisterResponse}
    (hdecode : S.decode payload = some (.registerResponse r)) :
    ((onRegistrationResponse S myAgent_debug payload).run a).final = { a with
      decoded := a.decoded ++ [.registerResponse r]
      myMQTTregistered := true
      myAgent_uuid := .uuid r.uuid
      myAgent_deregistration_request_topic :=
        [("agent-deregistration/" ++ r.uuid.toString ++ "/request", 2)]
      myDevice_registration_request_topic :=
        some ("device-registration/" ++ r.uuid.toString ++ "/request")
      myDevice_registration_response_topic :=
        [("device-registration/" ++ r.uuid.toString ++ "/response", 2)]
      myAgent_deregistration_response_topic :=
        [("agent-deregistration/" ++ r.uuid.toString ++ "/response", 2)]
      myAgent_registration_response_topic := a.myAgent_registration_response_topic
        ++ [("device-registration/" ++ r.uuid.toString ++ "/response", 2)]
        ++ [("agent-deregistration/" ++ r.uuid.toString ++ "/response", 2)] } := by
  have hprint : printUuid myAgent_debug (.registerResponse r) = pure () := by
    cases myAgent_debug <;> rfl
  rw [onRegistrationResponse, decodeMessage_bind hdecode, Steps.run_assign_bind, hprint]
  rfl

lemma Truthful.onRegistrationResponse (h : Truthful a) {payload : Bytes} {r : RegisterResponse}
    (hdecode : S.decode payload = some (.registerResponse r)) (hstatus : r.status = true)
    (hsame : a.myDeviceRegistered = true ∨ a.myMQTTderegistered = true →
      a.myAgent_uuid = .uuid r.uuid) :
    Truthful ((onRegistrationResponse S myAgent_debug payload).run a).final := by
  rw [final_onRegistrationResponse myAgent_debug hdecode]
  refine ⟨fun _ => ⟨r, List.mem_append_right _ List.mem_cons_self, hstatus, rfl, rfl, rfl, rfl, rfl⟩,
    fun hr => ?_, fun hr => ?_⟩
  · obtain ⟨r', hmem, huuid, hmap⟩ := h.devices hr
    exact ⟨r', List.mem_append_left _ hmem, (hsame (Or.inl hr)).symm.trans huuid, hmap⟩
  · obtain ⟨r', hmem, hsuccess, huuid⟩ := h.deregistered hr
    exact ⟨r', List.mem_append_left _ hmem, hsuccess, (hsame (Or.inr hr)).symm.trans huuid⟩

/-- **What becomes of a record on the device topic**: a field is missing, it is for another agent,
or it is a device list response for this one. -/
theorem storeDeviceUuids_cases (data : Message) (a : Handshake) :
    (storeDeviceUuids data).run a = ⟨[], a, none⟩ ∨
    (∃ u, data.uuid? = some u ∧ u ≠ a.myAgent_uuid ∧
      (storeDeviceUuids data).run a = ⟨[], a, some ()⟩) ∨
    ∃ r, data = .deviceListResponse r ∧ a.myAgent_uuid = .uuid r.uuid ∧
      (storeDeviceUuids data).run a = ⟨[{ a with myDeviceSensorUUIDsMap := r.deviceUuids }],
        { a with myDeviceSensorUUIDsMap := r.deviceUuids }, some ()⟩ := by
  rw [storeDeviceUuids, Steps.run_get_bind]
  cases hu : data.uuid? with
  | none => exact Or.inl rfl
  | some u =>
      rw [Steps.ofOption_some, Steps.pure_bind]
      split_ifs with hsame
      · cases hmap : data.deviceUuids? with
        | none => exact Or.inl rfl
        | some uuids =>
            cases data with
            | deviceListResponse r =>
                obtain rfl := Option.some.inj hu
                obtain rfl := Option.some.inj hmap
                exact Or.inr (Or.inr ⟨r, rfl, hsame.symm, rfl⟩)
            | _ => cases hmap
      · exact Or.inr (Or.inl ⟨u, rfl, hsame, rfl⟩)

/-- The second branch leaves the flags truthful if the answer is for this agent, or the flag was up
before. -/
lemma Truthful.onDeviceRegistrationResponse (h : Truthful a) {payload : Bytes}
    (hown : ∀ data u, S.decode payload = some data → data.uuid? = some u →
      a.myDeviceRegistered = true ∨ u = a.myAgent_uuid) :
    Truthful ((onDeviceRegistrationResponse S payload).run a).final := by
  rw [Handshake.onDeviceRegistrationResponse]
  cases hdecode : S.decode payload with
  | none =>
      rw [decodeMessage_bind_none hdecode]
      exact h
  | some data =>
      have hdata := h.decode data
      rw [decodeMessage_bind hdecode, Steps.run_assign_bind]
      generalize hb : ({ a with decoded := a.decoded ++ [data] } : Handshake) = b at hdata ⊢
      rcases storeDeviceUuids_cases data b with hrun | ⟨u, hu, hforeign, hrun⟩ | ⟨r, rfl, hr, hrun⟩
      · rw [Steps.run_bind_of_raise _ (by rw [hrun]), hrun]
        exact hdata
      · rw [Steps.run_bind_of_result _ (by rw [hrun]), hrun]
        have hbefore : b.myDeviceRegistered = true := by
          subst hb
          exact (hown data u hdecode hu).resolve_right hforeign
        exact hdata.registerDevices (hdata.devices hbefore)
      · rw [Steps.run_bind_of_result _ (by rw [hrun]), hrun]
        have hmem : .deviceListResponse r ∈ b.decoded := by
          subst hb
          exact List.mem_append_right _ List.mem_cons_self
        exact hdata.registerDevices ⟨r, hmem, hr, rfl⟩

lemma Truthful.onDeregistrationResponse (h : Truthful a) {payload : Bytes}
    {r : DeregisterResponse} (hdecode : S.decode payload = some (.deregisterResponse r))
    (hsuccess : r.success = true) (hown : a.myAgent_uuid = .uuid r.agentUuid) :
    Truthful ((onDeregistrationResponse S payload).run a).final := by
  have hdata := h.decode (.deregisterResponse r)
  rw [Handshake.onDeregistrationResponse, Steps.run_assign_bind, decodeMessage_bind hdecode]
  exact hdata.deregister ⟨r, List.mem_append_right _ List.mem_cons_self, hsuccess, hown⟩

/-- **One callback** on a proper message leaves the flags truthful at its end; in between they may
not be. -/
theorem Truthful.mqttOnMessage (h : Truthful a) (hm : Proper S a m) :
    Truthful ((mqttOnMessage S myAgent_debug m).run a).final := by
  rw [Handshake.mqttOnMessage, Steps.run_get_bind]
  cases hregistration : firstTopic a.myAgent_registration_response_topic with
  | none => exact h
  | some registration =>
      rw [Steps.ofOption_some, Steps.pure_bind]
      split_ifs with htopic
      · cases hdecode : S.decode m.payload with
        | none =>
            rw [Handshake.onRegistrationResponse, decodeMessage_bind_none hdecode]
            exact h
        | some data =>
            obtain ⟨r, rfl, hstatus, hsame⟩ :=
              hm.registration (htopic ▸ hregistration) data hdecode
            exact h.onRegistrationResponse hdecode hstatus hsame
      · cases hdevice : firstTopic a.myDevice_registration_response_topic with
        | none => exact h
        | some device =>
            rw [Steps.ofOption_some, Steps.pure_bind]
            split_ifs with htopic
            · exact h.onDeviceRegistrationResponse (hm.devices (htopic ▸ hdevice))
            · cases hderegistration : firstTopic a.myAgent_deregistration_response_topic with
              | none => exact h
              | some deregistration =>
                  rw [Steps.ofOption_some, Steps.pure_bind]
                  split_ifs with htopic
                  · obtain ⟨r, hdecode, hsuccess, hown⟩ :=
                      hm.deregistration (htopic ▸ hderegistration)
                    exact h.onDeregistrationResponse hdecode hsuccess hown
                  · exact h

/-- **At rest.**  Between two callbacks the flags are truthful, as long as every message is
proper. -/
theorem truthful_at_rest : ∀ (messages : List (Publication Bytes)) (a : Handshake), Truthful a →
    ProperRun S myAgent_debug messages a →
    Truthful (Steps.afterAll (Handshake.mqttOnMessage S myAgent_debug) messages a)
  | [], _, h, _ => h
  | _ :: messages, _, h, hrun => truthful_at_rest messages _ (h.mqttOnMessage hrun.1) hrun.2

/-- The attributes that the registration of the devices is about. -/
def deviceRegistration (a : Handshake) (u : UUID) : DeviceRegistration :=
  ⟨u, a.myDeviceSensorUUIDsMap, a.myDeviceRegistered⟩

/-- **The short account** that `DeviceRegistration` gives of the second branch is the same, once the
agent has its uuid. -/
theorem deviceRegistration_onResponse {u : UUID} (hu : a.myAgent_uuid = .uuid u) {payload : Bytes}
    {r : DeviceListResponse} (hdecode : S.decode payload = some (.deviceListResponse r)) :
    ((onDeviceRegistrationResponse S payload).run a).final.deviceRegistration u
      = (a.deviceRegistration u).onDeviceRegistrationResponse S payload := by
  rw [onDeviceRegistrationResponse, decodeMessage_bind hdecode, Steps.run_assign_bind,
    DeviceRegistration.onDeviceRegistrationResponse, hdecode]
  generalize hb : ({ a with decoded := a.decoded ++ [.deviceListResponse r] } : Handshake) = b
  have hab : b.deviceRegistration u = a.deviceRegistration u := by rw [← hb]; rfl
  have hub : b.myAgent_uuid = .uuid u := by rw [← hb]; exact hu
  rcases storeDeviceUuids_cases (.deviceListResponse r) b with hrun | ⟨v, hv, hne, hrun⟩ |
    ⟨r', hr', hr, hrun⟩
  · -- both fields are there
    rw [storeDeviceUuids, Steps.run_get_bind, Message.uuid?, Steps.ofOption_some,
      Steps.pure_bind] at hrun
    split_ifs at hrun <;> cases congrArg Ran.result hrun
  · obtain rfl := Option.some.inj hv
    have hforeign : r.uuid ≠ u := fun h => hne (by rw [hub, h])
    rw [Steps.run_bind_of_result _ (by rw [hrun]), hrun, ← hab]
    simp [Handshake.deviceRegistration, DeviceRegistration.storeDeviceUuids, hforeign]
  · obtain rfl := Message.deviceListResponse.inj hr'
    have hown : r.uuid = u := (AgentUuid.uuid.inj (hub.symm.trans hr)).symm
    rw [Steps.run_bind_of_result _ (by rw [hrun]), hrun, ← hab]
    simp [Handshake.deviceRegistration, DeviceRegistration.storeDeviceUuids, hown]

end

end Handshake

open Handshake

/-- **The flags are not truthful at every moment**, for either agent, as soon as it is registered;
and before that they are, whatever else arrives. -/
theorem handshake_truthful_iff {Bytes : Type} (S : MessageSerializer Bytes) (myAgent_debug : Bool)
    (myAgent_uid : String) (messages : List (Publication Bytes))
    (callback : Publication Bytes → Steps Handshake Unit)
    (hagent : callback = IBswitchSimulator.mqttOnMessage S myAgent_debug ∨
      callback = RedfishAgent.mqttOnMessage S myAgent_debug) :
    (∀ t ∈ Steps.points callback messages (start myAgent_uid), Truthful t) ↔
      ∀ m ∈ messages, ¬ Registers S myAgent_debug myAgent_uid m := by
  have hcallback : callback = Handshake.mqttOnMessage S myAgent_debug := by
    rcases hagent with rfl | rfl <;> rfl
  rw [hcallback]
  exact truthful_points (unregistered_start myAgent_uid) messages

/-- A device list response that comes before the registration is of no consequence: its topic is not
yet one that the callback compares with. -/
theorem handshake_truthful_early_response :
    (∀ t ∈ Steps.points (IBswitchSimulator.mqttOnMessage structuralSerializer false)
      [⟨"device-registration/7/response", .deviceListResponse ⟨⟨7⟩, ∅⟩⟩] (start "node11"),
      Truthful t) ↔
    ∀ m ∈ [(⟨"device-registration/7/response", .deviceListResponse ⟨⟨7⟩, ∅⟩⟩ :
      Publication Message)], ¬ Registers structuralSerializer false "node11" m :=
  handshake_truthful_iff structuralSerializer false "node11" _ _ (Or.inl rfl)

/-- The agent registers, and can be seen registered before it has its uuid, by a main thread that
polls the flag in between. -/
theorem registered_before_uuid :
    ¬ ∀ t ∈ Steps.points (IBswitchSimulator.mqttOnMessage structuralSerializer false)
      [⟨"agent-registration/node11/response",
        .registerResponse ⟨"node11", true, "Registration succeed", ⟨7⟩, ∅⟩⟩] (start "node11"),
      Truthful t := by
  intro htruthful
  obtain ⟨r, -, -, hset⟩ := (htruthful { start "node11" with
    decoded := [.registerResponse ⟨"node11", true, "Registration succeed", ⟨7⟩, ∅⟩]
    myMQTTregistered := true } (by decide)).registered rfl
  exact absurd hset.uuid (by simp [start])

end KrakenMare
