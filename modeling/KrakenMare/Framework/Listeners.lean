import KrakenMare.Framework.Repository

/-!
# The MQTT listeners of the framework

`impl/MqttRegistrationListener.java`, `impl/MqttDeviceListListener.java` and
`impl/MqttDeregistrationListener.java`.  Each of them handles one kind of request by its `process`,
over whatever repository it was given, and answers on the topic made from the request's uid or
uuid.  The topics are those of `config.properties`.

**Registration** creates an agent, saves it and answers.  It sends nothing to Kafka.  The answer is
always a success, with an empty map of topics.

**A device list** is the longest of the three.  Every device and every sensor gets a random UUID,
in the order they are listed; then the agent is read, given the devices and written back; then the
answer is published, and last the agent record is sent to Kafka.  `assignDevices` says which UUID
goes where, and `along_assignUuids` that the two nested loops draw `slots` of them and put them
there.

**Deregistration** reads the agent, deletes it, answers and sends the answer to Kafka.

An exception ends a handler where it is thrown: `get` throws when the uuid is unknown, and
`publish` when the client does not take the message.  What the handler did before stays done.
Subscriptions and the delivery of requests are in `Framework.MqttClient`, and the threads in
`Framework.Executor`.
-/

namespace KrakenMare

open Lib

/-! ## `MqttUtils` and `KafkaUtils` -/

/-- `MqttUtils.getRegistrationResponseTopic`.  It is made from the uid because the agent does not
know its UUID yet, and so cannot listen to a topic made from that. -/
def getRegistrationResponseTopic (uid : String) : String :=
  "agent-registration" ++ "/" ++ uid ++ "/response"

/-- `MqttUtils.getSensorListResponseTopic`, by the agent's UUID. -/
def getSensorListResponseTopic (uuid : UUID) : String :=
  "device-registration" ++ "/" ++ uuid.toString ++ "/response"

/-- `MqttUtils.getDeregistrationResponseTopic`, by the agent's UUID. -/
def getDeregistrationResponseTopic (uuid : UUID) : String :=
  "agent-deregistration" ++ "/" ++ uuid.toString ++ "/response"

/-- `KafkaUtils.AGENT_DEREGISTRATION_TOPIC`, a Kafka topic, with its value in
`config.properties`. -/
def AGENT_DEREGISTRATION_TOPIC : String := "agent-deregistration"

/-- `KafkaUtils.DEVICE_REGISTRATION_TOPIC`, a Kafka topic, with its value in `config.properties`. -/
def DEVICE_REGISTRATION_TOPIC : String := "device-registration"

section
variable {Cmd : Type} {Ans : Cmd → Type} {H : Type}

/-! ## `FrameworkMqttListener` -/

/-- `FrameworkMqttListener.sendMqttResponse`.  `publish` throws when the client does not take the
message, and a message it has taken counts as sent. -/
def sendMqttResponse (topic : String) (response : Message) : Process Ans Unit := do
  let accepted : Bool ← Prog.perform (Call.publish topic response)
  if accepted then return () else .throw .mqtt

/-- `FrameworkMqttListener.sendKafkaMessage`, with the text of a UUID as the key of the record. -/
def sendKafkaMessage (topic : String) (key : Option UUID) (response : Message) :
    Process Ans Unit :=
  Prog.perform (Call.send topic (key.map UUID.toString) response)

variable (repository : Repository Ans H)

/-! ## `MqttRegistrationListener` -/

namespace MqttRegistrationListener

/-- `MqttRegistrationListener.registerNewAgent`: `create`, then `save`. -/
def registerNewAgent (agent : Agent) : Process Ans H := do
  let agent ← repository.create agent
  let _ ← repository.save agent
  return agent

/-- `MqttRegistrationListener.process`.  `create` has set the uuid, so the default of `getD` is for
the null that is never there. -/
def process (payload : RegisterRequest) : Process Ans RegisterResponse := do
  let agent ← registerNewAgent repository ⟨-1, payload.uid, none, payload.name, []⟩
  let agent ← repository.fields agent
  let uuid := agent.uuid.getD ⟨0⟩
  let response := ⟨payload.uid, true, "Registration succeed", uuid, ∅⟩
  sendMqttResponse (getRegistrationResponseTopic payload.uid) (.registerResponse response)
  return response

end MqttRegistrationListener

/-! ## `MqttDeviceListListener` -/

namespace MqttDeviceListListener

/-- The inner loop of `process`, which gives a new UUID to each sensor of a device. -/
def assignSensorUuids : List Sensor → Process Ans (List Sensor)
  | [] => return []
  | sensor :: sensors => do
      let uuid ← randomUUID
      let sensors ← assignSensorUuids sensors
      return { sensor with uuid := some uuid } :: sensors

/-- The outer loop of `process`: a UUID for the device comes before those for its sensors. -/
def assignUuids : List Device → Process Ans (List Device)
  | [] => return []
  | device :: devices => do
      let uuid ← randomUUID
      let sensors ← assignSensorUuids device.sensors
      let devices ← assignUuids devices
      return { device with uuid := some uuid, sensors := sensors } :: devices

/-- The map of a `DeviceListResponse`.  Where two devices, or two sensors of one device, have the
same id, the later one replaces the earlier one. -/
def deviceUuids (devices : List Device) : Dict String SensorUuids :=
  .ofEntries (devices.map fun d =>
    (d.id, ⟨d.uuid, .ofEntries (d.sensors.map fun s => (s.id, s.uuid))⟩))

/-- `MqttDeviceListListener.process`.  The UUIDs are drawn before the agent is looked up, so a list
from an unknown agent draws them too. -/
def process (payload : DeviceList) : Process Ans DeviceListResponse := do
  let agentUuid := payload.uuid
  let devices ← assignUuids payload.devices
  let agent ← repository.get agentUuid
  let agent ← repository.setDevices agent devices
  let _ ← repository.update agent
  let response := ⟨agentUuid, deviceUuids devices⟩
  sendMqttResponse (getSensorListResponseTopic payload.uuid) (.deviceListResponse response)
  let agent ← repository.fields agent
  sendKafkaMessage DEVICE_REGISTRATION_TOPIC (some agentUuid) (.agent agent)
  return response

end MqttDeviceListListener

/-! ## `MqttDeregistrationListener` -/

namespace MqttDeregistrationListener

/-- `MqttDeregistrationListener.deregisterAgent`: `get`, which throws on an unknown uuid, then
`delete`. -/
def deregisterAgent (agentUuid : UUID) : Process Ans Bool := do
  let agent ← repository.get agentUuid
  repository.delete agent

/-- `MqttDeregistrationListener.process`.  The Kafka record comes last, so there is none when the
answer cannot be published. -/
def process (payload : DeregisterRequest) : Process Ans DeregisterResponse := do
  let uuid := payload.uuid
  let success ← deregisterAgent repository uuid
  let response := ⟨uuid, success⟩
  sendMqttResponse (getDeregistrationResponseTopic payload.uuid) (.deregisterResponse response)
  sendKafkaMessage AGENT_DEREGISTRATION_TOPIC (some uuid) (.deregisterResponse response)
  return response

end MqttDeregistrationListener

/-! ## A message arrives -/

/-- A request, for the listener that is subscribed to its topic. -/
inductive Request
  | register (m : RegisterRequest)
  | devices (m : DeviceList)
  | deregister (m : DeregisterRequest)
deriving DecidableEq

/-- The task that `messageArrived` puts on the executor: the `process` of the listener, and its
response. -/
def messageArrived : Request → Process Ans Message
  | .register m => do
      let response ← MqttRegistrationListener.process repository m
      return .registerResponse response
  | .devices m => do
      let response ← MqttDeviceListListener.process repository m
      return .deviceListResponse response
  | .deregister m => do
      let response ← MqttDeregistrationListener.process repository m
      return .deregisterResponse response

end

/-! ## Which UUID goes where -/

namespace MqttDeviceListListener

/-- The sensors with the UUIDs of a list, one each, in order. -/
def assignSensors : List Sensor → List UUID → List Sensor
  | [], _ => []
  | s :: ss, us => { s with uuid := us.head? } :: assignSensors ss us.tail

/-- The devices with the UUIDs of a list: first the device's own, then those of its sensors, then
those of the devices after it. -/
def assignDevices : List Device → List UUID → List Device
  | [], _ => []
  | d :: ds, us =>
      { d with uuid := us.head?, sensors := assignSensors d.sensors us.tail }
        :: assignDevices ds (us.drop (d.sensors.length + 1))

/-- The number of UUIDs a device list takes: one for each device and one for each sensor. -/
def slots : List Device → ℕ
  | [] => 0
  | d :: ds => d.sensors.length + 1 + slots ds

/-- UUIDs beyond those needed are not used. -/
lemma assignSensors_append : ∀ (ss : List Sensor) (us vs : List UUID), ss.length ≤ us.length →
    assignSensors ss (us ++ vs) = assignSensors ss us
  | [], _, _, _ => rfl
  | s :: ss, [], _, h => absurd h (by simp)
  | s :: ss, u :: us, vs, h => by
      simp only [List.cons_append, assignSensors, List.head?_cons, List.tail_cons,
        assignSensors_append ss us vs (Nat.le_of_succ_le_succ h)]

lemma assignDevices_append : ∀ (ds : List Device) (us vs : List UUID), slots ds ≤ us.length →
    assignDevices ds (us ++ vs) = assignDevices ds us
  | [], _, _, _ => rfl
  | d :: ds, [], _, h => absurd h (by simp [slots])
  | d :: ds, u :: us, vs, h => by
      simp only [slots, List.length_cons] at h
      simp only [List.cons_append, assignDevices, List.head?_cons, List.tail_cons,
        List.drop_succ_cons, assignSensors_append d.sensors us vs (by omega)]
      rw [List.drop_append_of_le_length (by omega),
        assignDevices_append ds (us.drop d.sensors.length) vs (by rw [List.length_drop]; omega)]

/-- Every device gets one of the UUIDs. -/
lemma uuid_mem_of_mem_assignDevices {d : Device} : ∀ {ds : List Device} {us : List UUID},
    slots ds ≤ us.length → d ∈ assignDevices ds us → ∃ u ∈ us, d.uuid = some u
  | [], _, _, hd => absurd hd List.not_mem_nil
  | _ :: _, [], h, _ => absurd h (by simp [slots])
  | e :: ds, u :: us, h, hd => by
      simp only [slots, List.length_cons] at h
      rcases List.mem_cons.mp hd with rfl | hd
      · exact ⟨u, List.mem_cons_self, rfl⟩
      · obtain ⟨v, hv, hdv⟩ := uuid_mem_of_mem_assignDevices (by
          rw [List.length_drop, List.length_cons]; omega) hd
        exact ⟨v, List.mem_of_mem_drop hv, hdv⟩

/-- The map of a response shows devices of the list, under their ids. -/
lemma mem_of_get?_deviceUuids {ds : List Device} {k : String} {x : SensorUuids}
    (h : (deviceUuids ds).get? k = some x) : ∃ d ∈ ds, d.id = k ∧ x.uuid = d.uuid := by
  obtain ⟨d, hd, he⟩ := List.mem_map.mp (Dict.mem_of_get?_ofEntries h)
  obtain ⟨rfl, rfl⟩ := Prod.mk.inj he
  exact ⟨d, hd, rfl, rfl⟩

lemma isSome_get?_deviceUuids {ds : List Device} {d : Device} (hd : d ∈ ds) :
    ((deviceUuids ds).get? d.id).isSome :=
  Dict.isSome_get?_ofEntries (by simpa using ⟨d, hd, rfl⟩)

section
variable {Cmd : Type} {Ans : Cmd → Type}

/-- The log of a thread that has drawn `us`, and made no other call meanwhile. -/
def draws (us : List UUID) : List (Σ c, Call.Answer Ans c) := us.map fun u => ⟨.randomUUID, u⟩

variable {P : List (Σ c, Call.Answer Ans c) → Call Cmd → Prop}

/-- The inner loop draws one UUID for each sensor, after those drawn before, and gives them out in
order. -/
lemma along_assignSensorUuids : ∀ (ss : List Sensor) (vs : List UUID),
    (∀ us, us.length < ss.length → P (draws (vs ++ us)) .randomUUID) →
    Prog.Along P (fun l r => ∃ us, us.length = ss.length ∧ l = draws (vs ++ us) ∧
      r = .ok (assignSensors ss us)) (assignSensorUuids ss) (draws vs)
  | [], vs, _ => ⟨[], rfl, by simp, rfl⟩
  | s :: ss, vs, h => by
      refine .call (by simpa using h [] (by simp)) fun u => ?_
      have hl : (draws vs ++ [⟨Call.randomUUID, u⟩] : List (Σ c, Call.Answer Ans c))
          = draws (vs ++ [u]) := by simp [draws]
      have ih := along_assignSensorUuids ss (vs ++ [u]) fun us hus => by
        simpa using h (u :: us) (by simpa using hus)
      show Prog.Along P _ (assignSensorUuids ss >>= _) _
      rw [hl]
      refine ih.bind ?_ ?_
      · rintro l a ⟨us, hus, rfl, ha⟩
        obtain rfl := Except.ok.inj ha
        exact ⟨u :: us, by simpa using hus, by simp, rfl⟩
      · rintro l e ⟨us, -, -, he⟩
        exact absurd he (by simp)

/-- **The loops of `process`** draw one UUID after the other and put them where `assignDevices`
says, whatever the UUIDs are. -/
theorem along_assignUuids : ∀ (ds : List Device) (vs : List UUID),
    (∀ us, us.length < slots ds → P (draws (vs ++ us)) .randomUUID) →
    Prog.Along P (fun l r => ∃ us, us.length = slots ds ∧ l = draws (vs ++ us) ∧
      r = .ok (assignDevices ds us)) (assignUuids ds) (draws vs)
  | [], vs, _ => ⟨[], rfl, by simp, rfl⟩
  | d :: ds, vs, h => by
      refine .call (by simpa using h [] (by simp [slots])) fun u => ?_
      have hl : (draws vs ++ [⟨Call.randomUUID, u⟩] : List (Σ c, Call.Answer Ans c))
          = draws (vs ++ [u]) := by simp [draws]
      have hss := along_assignSensorUuids d.sensors (vs ++ [u]) fun us hus => by
        simpa using h (u :: us) (by simp only [slots, List.length_cons]; omega)
      show Prog.Along P _ (assignSensorUuids d.sensors >>= _) _
      rw [hl]
      refine hss.bind ?_ ?_
      · rintro l a ⟨us, hus, rfl, ha⟩
        obtain rfl := Except.ok.inj ha
        have ih := along_assignUuids ds (vs ++ [u] ++ us) fun us' hus' => by
          simpa using h (u :: (us ++ us')) (by
            simp only [slots, List.length_cons, List.length_append]
            omega)
        refine ih.bind ?_ ?_
        · rintro l a ⟨us', hus', rfl, ha⟩
          obtain rfl := Except.ok.inj ha
          refine ⟨u :: (us ++ us'), ?_, by simp, ?_⟩
          · simp only [slots, List.length_cons, List.length_append]
            omega
          · show Except.ok _ = _
            rw [assignDevices, List.tail_cons, assignSensors_append _ _ _ hus.ge,
              List.drop_succ_cons, ← hus, List.drop_left]
            rfl
        · rintro l e ⟨us', -, -, he⟩
          exact absurd he (by simp)
      · rintro l e ⟨us, -, -, he⟩
        exact absurd he (by simp)

end

end MqttDeviceListListener

end KrakenMare
