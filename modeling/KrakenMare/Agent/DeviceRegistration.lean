import KrakenMare.Framework.DeviceUuids

/-!
# Registering devices, from the agent's side

`mqtt_device_registration` in `agent-python-module/agentcommon.py` publishes the device map and
waits for the answer, which `mqtt_on_message` of the agent stores; both agents do the same with it.
The framework has nothing else to do meanwhile, and what it publishes reaches the agent when it is
on the topic the agent has subscribed to.

**The exchange** is `mqttDeviceRegistration`: the device map is encoded, the framework decodes it
and handles it alone on its Redis, and every publication of this request on the agent's response
topic is delivered.  If the MQTT client of the framework refuses the answer, or the agent is not
stored, nothing is delivered and the agent goes on waiting.

* `registered_of_stored` — **when the agent comes to know that its devices are registered, its map
  is the one made from the devices that Redis now holds for it.**
* `Registered.stored` — and these are stored under the UUID that the agent has registered them
  with.

The devices pass through Avro on the way, so what is stored are the devices as they come off the
wire: the float fields of their sensors may have been rounded, their ids have not.
-/

namespace KrakenMare

open Lib AgentRedisRepository MqttDeviceListListener

/-- The attributes of an agent that registering its devices reads or sets. -/
structure DeviceRegistration where
  myAgent_uuid : UUID
  myDeviceSensorUUIDsMap : Dict String SensorUuids
  myDeviceRegistered : Bool
deriving DecidableEq

namespace DeviceRegistration

/-- An agent that has been registered under a UUID, and none of whose devices has. -/
def start (myAgent_uuid : UUID) : DeviceRegistration := ⟨myAgent_uuid, ∅, false⟩

/-- The topic on which the agent expects the answer, made in its callback when it gets its UUID. -/
def myDevice_registration_response_topic (a : DeviceRegistration) : String :=
  "device-registration/" ++ a.myAgent_uuid.toString ++ "/response"

lemma response_topic_eq (a : DeviceRegistration) :
    a.myDevice_registration_response_topic = getSensorListResponseTopic a.myAgent_uuid := by
  have h : "device-registration/" = "device-registration" ++ "/" := by decide +kernel
  exact congrArg (fun s => s ++ a.myAgent_uuid.toString ++ "/response") h

variable {Bytes : Type} (S : MessageSerializer Bytes)

/-- The map is stored if the answer is for this agent; it is not looked into. -/
def storeDeviceUuids (a : DeviceRegistration) (data : DeviceListResponse) : DeviceRegistration :=
  if data.uuid = a.myAgent_uuid then { a with myDeviceSensorUUIDsMap := data.deviceUuids } else a

/-- The branch of `mqtt_on_message` for the response topic of the devices. -/
def onDeviceRegistrationResponse (a : DeviceRegistration) (payload : Bytes) :
    DeviceRegistration :=
  match S.decode payload with
  | some (.deviceListResponse data) =>
      { a.storeDeviceUuids data with myDeviceRegistered := true }
  | _ => a

/-- What comes of an output of the framework at the agent.  A refused publication, a Kafka record
and a message on another topic leave it as it was. -/
def deliver (a : DeviceRegistration) : Output → DeviceRegistration
  | .publish topic message true =>
      if topic = a.myDevice_registration_response_topic then
        a.onDeviceRegistrationResponse S (S.encode message)
      else a
  | _ => a

lemma deliver_response (a : DeviceRegistration) (uuids : Dict String SensorUuids) :
    a.deliver S (.publish (getSensorListResponseTopic a.myAgent_uuid)
        (.deviceListResponse ⟨a.myAgent_uuid, uuids⟩) true)
      = ⟨a.myAgent_uuid, uuids, true⟩ := by
  have hdecode : S.decode (S.encode (.deviceListResponse ⟨a.myAgent_uuid, uuids⟩))
      = some (.deviceListResponse ⟨a.myAgent_uuid, uuids⟩) := S.decode_encode _
  simp only [deliver, response_topic_eq, if_pos, onDeviceRegistrationResponse, hdecode,
    storeDeviceUuids]

end DeviceRegistration

section
variable {Bytes : Type} (S : MessageSerializer Bytes) (E : Environment)

/-- A payload arrives on the request topic of the device lists. -/
def deviceListArrived (payload : Bytes) (w : Alone Redis) : Alone Redis :=
  match S.decode payload with
  | some (.deviceList m) =>
      (runAlone E Redis.exec (messageArrived agentRedisRepository (.devices m)) w).2
  | _ => w

/-- `mqtt_device_registration` with the framework on the other side: the agent and Redis after the
request has been handled and what was published has been delivered. -/
def mqttDeviceRegistration (deviceMap : DeviceList) (a : DeviceRegistration) (w : Alone Redis) :
    DeviceRegistration × Alone Redis :=
  let w' := deviceListArrived S E (S.encode (.deviceList deviceMap)) w
  ((w'.outputs.drop w.outputs.length).foldl (DeviceRegistration.deliver S) a, w')

/-- The devices as they come off the wire, with the UUIDs drawn for them. -/
def registeredDevices (deviceMap : DeviceList) (w : Alone Redis) : List Device :=
  let devices := deviceMap.devices.map (Device.mapFloat S.float)
  assignDevices devices (E.next w.drawn (slots devices))

/-- Agent `a` and Redis know the same devices: Redis has those of the device map with a UUID each,
and the agent has the map of these. -/
structure Registered (deviceMap : DeviceList) (w : Alone Redis) (a : DeviceRegistration)
    (w' : Alone Redis) : Prop where
  agent : ∃ agent, w.store.myAgentsKey.get? (agentKey (some deviceMap.uuid)) = some agent ∧
    w'.store.myAgentsKey = w.store.myAgentsKey.set (agentKey agent.uuid)
      { agent with devices := registeredDevices S E deviceMap w }
  map : a.myDeviceSensorUUIDsMap = deviceUuids (registeredDevices S E deviceMap w)

variable {S E} {deviceMap : DeviceList} {a : DeviceRegistration} {w w' : Alone Redis}

/-- The ids are those of the device map. -/
lemma ids_registeredDevices :
    (registeredDevices S E deviceMap w).map Device.ids = deviceMap.devices.map Device.ids := by
  rw [registeredDevices, map_ids_assignDevices, List.map_map]
  exact List.map_congr_left fun d _ => Device.ids_mapFloat S.float d

/-- The UUIDs are those drawn. -/
lemma uuidsOf_registeredDevices : uuidsOf (registeredDevices S E deviceMap w)
    = (E.next w.drawn (slots deviceMap.devices)).map some := by
  rw [registeredDevices, slots_mapFloat, uuidsOf_assignDevices _ _ (by rw [slots_mapFloat]; simp),
    slots_mapFloat, List.take_of_length_le (by simp)]

/-- The agent keeps its devices under the UUID it has registered them with. -/
lemma Registered.stored (h : Registered S E deviceMap w a w') (hinv : RedisInvariant w.store) :
    ∃ agent, w'.store.myAgentsKey.get? (agentKey (some deviceMap.uuid)) = some agent ∧
      agent.devices = registeredDevices S E deviceMap w := by
  obtain ⟨agent, hget, hset⟩ := h.agent
  obtain ⟨v, huuid, hkey⟩ := hinv.fields _ _ hget
  refine ⟨{ agent with devices := registeredDevices S E deviceMap w }, ?_, rfl⟩
  rw [hset, huuid, hkey, Dict.get?_set_self]

/-- **The answer tells what is stored**: if the flag has been raised, the framework has written the
devices and the agent has their UUIDs. -/
theorem registered_of_stored (huuid : deviceMap.uuid = a.myAgent_uuid)
    (hnew : a.myDeviceRegistered = false)
    (hstored : (mqttDeviceRegistration S E deviceMap a w).1.myDeviceRegistered = true) :
    Registered S E deviceMap w (mqttDeviceRegistration S E deviceMap a w).1
      (mqttDeviceRegistration S E deviceMap a w).2 := by
  simp only [mqttDeviceRegistration, deviceListArrived, S.decode_encode, Message.mapFloat,
    messageArrived, MqttDeviceListListener.process, agentRedisRepository, Prog.bind_assoc,
    runAlone_assignUuids, AgentRedisRepository.runAlone_get, Prog.pure_eq, Prog.ret_bind,
    AgentRedisRepository.runAlone_update, runAlone_sendMqttResponse, runAlone_sendKafkaMessage,
    runAlone_ret, publishing] at hstored ⊢
  cases hget : w.store.myAgentsKey.get? (agentKey (some deviceMap.uuid)) with
  | none =>
      -- nothing was published
      simp [hget, hnew] at hstored
  | some agent =>
      simp only [hget] at hstored ⊢
      cases haccept : E.accepts w.published with
      | false => simp [haccept, DeviceRegistration.deliver, hnew] at hstored
      | true =>
          refine ⟨⟨agent, hget, by simp [registeredDevices]⟩, ?_⟩
          simp only [if_true, List.append_assoc, List.drop_left, List.cons_append,
            List.nil_append, List.foldl_cons, List.foldl_nil, huuid,
            DeviceRegistration.deliver_response]
          rfl

end

end KrakenMare
