import KrakenMare.Framework.DeviceUuids

/-!
# One device registration, seen from three places

`MqttDeviceListListener.process` puts its UUIDs into the devices of the payload, and the same
objects then go into the store, into the maps of the response and into the record for Kafka.  When
one such request is handled alone, the three places cannot come to differ, and this module says in
full what it leaves in each.

* `shows_deviceUuids` — the maps have an entry for every device and every sensor, and no other.
* `anonymous_assignDevices` — the UUIDs are all that changes in the devices.
* `device_registration_agreement` — **what one request leaves in Redis, publishes and sends to
  Kafka.**  The agent is stored under its key with its new devices and everything else in Redis is
  as it was; the answer shows these devices; the record is the stored agent; all UUIDs are
  distinct.

The store may be any that the framework can reach, with whatever interleaving of handlers before.
If the MQTT client refuses the answer, the devices are stored all the same and there is no record.
For handlers side by side see `Framework.DeviceLists`.
-/

namespace KrakenMare

open Lib AgentRedisRepository MqttDeviceListListener

/-- A sensor with no UUID yet, as an agent describes it: what is compared when only the devices
matter. -/
def Sensor.anonymous (s : Sensor) : Sensor := { s with uuid := none }

/-- A device with no UUIDs yet, neither for itself nor for its sensors, as it stands in a device
list. -/
def Device.anonymous (d : Device) : Device :=
  { d with uuid := none, sensors := d.sensors.map Sensor.anonymous }

namespace MqttDeviceListListener

lemma anonymous_assignSensors : ∀ (ss : List Sensor) (us : List UUID),
    (assignSensors ss us).map Sensor.anonymous = ss.map Sensor.anonymous
  | [], _ => rfl
  | s :: ss, us => by
      rw [assignSensors, List.map_cons, List.map_cons, anonymous_assignSensors ss]
      rfl

lemma anonymous_assignDevices : ∀ (ds : List Device) (us : List UUID),
    (assignDevices ds us).map Device.anonymous = ds.map Device.anonymous
  | [], _ => rfl
  | d :: ds, us => by
      rw [assignDevices, List.map_cons, List.map_cons, anonymous_assignDevices ds]
      simp [Device.anonymous, anonymous_assignSensors]

/-- The maps of a response have the ids of the devices and sensors as keys, and under them their
UUIDs. -/
structure Shows (uuids : Dict String SensorUuids) (ds : List Device) : Prop where
  keys : ∀ k, (uuids.get? k).isSome ↔ k ∈ ds.map Device.id
  devices : ∀ d ∈ ds, ∃ x, uuids.get? d.id = some x ∧ x.uuid = d.uuid ∧
    (∀ k, (x.sensorUuids.get? k).isSome ↔ k ∈ d.sensors.map Sensor.id) ∧
    ∀ s ∈ d.sensors, x.sensorUuids.get? s.id = some s.uuid

/-- With distinct ids the hash maps of the answer lose nothing: each device and each sensor is found
in them under its id, with its UUID. -/
theorem shows_deviceUuids {ds : List Device} (hids : DistinctIds ds) :
    Shows (deviceUuids ds) ds where
  keys k := by
    rw [deviceUuids, Dict.isSome_get?_ofEntries_iff, List.map_map]
    rfl
  devices d hd := by
    refine ⟨_, get?_deviceUuids hids hd, rfl, fun k => ?_, fun s hs => ?_⟩
    · rw [Dict.isSome_get?_ofEntries_iff, List.map_map]
      rfl
    · refine Dict.get?_ofEntries ?_ (List.mem_map_of_mem hs)
      simpa [Function.comp_def] using hids.sensors d hd

section
variable {uuids : Dict String SensorUuids} {ds : List Device}

lemma map_uuid_sublist : ∀ ds : List Device, List.Sublist (ds.map Device.uuid) (uuidsOf ds)
  | [] => List.Sublist.refl _
  | d :: ds => by
      rw [List.map_cons, uuidsOf, List.flatMap_cons, List.cons_append]
      exact ((map_uuid_sublist ds).trans (List.sublist_append_right ..)).cons_cons d.uuid

/-- When no two UUIDs are the same, maps that show every device and sensor keep their ids apart. -/
theorem Shows.distinctIds (h : Shows uuids ds) (hnd : (uuidsOf ds).Nodup) : DistinctIds ds where
  devices := by
    refine List.Nodup.map_on (fun d hd d' hd' hid => ?_)
      (List.Nodup.of_map _ (hnd.sublist (map_uuid_sublist ds)))
    obtain ⟨x, hx, hxd, -⟩ := h.devices d hd
    obtain ⟨x', hx', hxd', -⟩ := h.devices d' hd'
    obtain rfl := Option.some.inj (hx.symm.trans (hid ▸ hx'))
    exact device_unique hnd hd hd' (hxd.symm.trans hxd')
  sensors d hd := by
    have hsensors : (d.sensors.map Sensor.uuid).Nodup :=
      (List.nodup_cons.mp ((List.nodup_flatMap.mp hnd).1 d hd)).2
    refine List.Nodup.map_on (fun s hs s' hs' hid => ?_) (List.Nodup.of_map _ hsensors)
    obtain ⟨x, -, -, -, hx⟩ := h.devices d hd
    have huuid : s.uuid = s'.uuid := Option.some.inj ((hx s hs).symm.trans (hid ▸ hx s' hs'))
    exact List.inj_on_of_nodup_map hsensors hs hs' huuid

end

end MqttDeviceListListener

/-- What the registration of the devices of `m` has made of `agent`: its own data are the same, and
the devices are those of the list, now with UUIDs no two of which are equal. -/
structure Renewed (m : DeviceList) (agent stored : Agent) : Prop where
  id : stored.id = agent.id
  uid : stored.uid = agent.uid
  uuid : stored.uuid = agent.uuid
  name : stored.name = agent.name
  devices : stored.devices.map Device.anonymous = m.devices.map Device.anonymous
  assigned : ∀ u ∈ uuidsOf stored.devices, u.isSome
  distinct : (uuidsOf stored.devices).Nodup

lemma DistinctIds.assign {ds : List Device} (hids : DistinctIds ds) (us : List UUID) :
    DistinctIds (assignDevices ds us) := by
  rw [distinctIds_iff, map_ids_assignDevices]
  exact distinctIds_iff.mp hids

lemma renewed_assign (E : Environment) (m : DeviceList) (agent : Agent) (n : ℕ)
    (hdistinct : (E.next n (slots m.devices)).Nodup) :
    Renewed m agent
      { agent with devices := assignDevices m.devices (E.next n (slots m.devices)) } := by
  have huuids : uuidsOf (assignDevices m.devices (E.next n (slots m.devices)))
      = (E.next n (slots m.devices)).map some := by
    rw [uuidsOf_assignDevices _ _ (by simp), List.take_of_length_le (by simp)]
  refine ⟨rfl, rfl, rfl, rfl, anonymous_assignDevices _ _, ?_, ?_⟩
  · rw [huuids]
    simp
  · rw [huuids]
    exact hdistinct.map (Option.some_injective UUID)

/-- What one run of `process` leaves behind, the run having started in `w`. -/
structure ThreeWay (E : Environment) (m : DeviceList) (agent : Agent) (w : Alone Redis)
    (run : Except ProcessException DeviceListResponse × Alone Redis) (response : DeviceListResponse)
    (stored : Agent) : Prop where
  renewed : Renewed m agent stored
  /-- Redis has the agent with its new devices, and everything else as it was -/
  redis : ∀ k, run.2.store.myAgentsKey.get? k
    = if k = agentKey (some m.uuid) then some stored else w.store.myAgentsKey.get? k
  counter : run.2.store.myCounterKey = w.store.myCounterKey
  answers : response.uuid = m.uuid
  shows : Shows response.deviceUuids stored.devices
  returned : run.1 = if E.accepts w.published then .ok response else .error .mqtt
  outputs : run.2.outputs = w.outputs
    ++ .publish (getSensorListResponseTopic m.uuid) (.deviceListResponse response)
        (E.accepts w.published)
      :: if E.accepts w.published then
          [.send DEVICE_REGISTRATION_TOPIC (some m.uuid.toString) (.agent stored)]
        else []

/-- **Three-way agreement.**  Redis, the response and the Kafka record show the same UUIDs for the
same devices and sensors, whatever the framework has done before. -/
theorem device_registration_agreement (E : Environment)
    (acts : List (Interleaving.Action Request Oracle)) (m : DeviceList) (agent : Agent)
    (w : Alone Redis) (hreached : w.store = (runFramework acts).world.redis)
    (hregistered : w.store.myAgentsKey.get? (agentKey (some m.uuid)) = some agent)
    (hids : DistinctIds m.devices) (hdistinct : (E.next w.drawn (slots m.devices)).Nodup) :
    ∃ response stored, ThreeWay E m agent w
      (runAlone E Redis.exec (MqttDeviceListListener.process agentRedisRepository m) w)
      response stored := by
  have hkey : agentKey agent.uuid = agentKey (some m.uuid) := by
    have hinv : RedisInvariant w.store := hreached ▸ redisInvariant_run acts
    obtain ⟨u, huuid, hu⟩ := hinv.fields _ _ hregistered
    rw [huuid, ← hu]
  simp only [MqttDeviceListListener.process, agentRedisRepository, runAlone_assignUuids,
    AgentRedisRepository.runAlone_get, Prog.pure_eq, Prog.ret_bind, hregistered,
    AgentRedisRepository.runAlone_update, runAlone_sendMqttResponse, runAlone_sendKafkaMessage,
    runAlone_ret, publishing, hkey]
  refine ⟨⟨m.uuid, deviceUuids (assignDevices m.devices (E.next w.drawn (slots m.devices)))⟩, _,
    renewed_assign E m agent w.drawn hdistinct, fun k => ?_, ?_, rfl,
    shows_deviceUuids (hids.assign _), ?_, ?_⟩
  · cases E.accepts w.published <;> exact Dict.get?_set ..
  · cases E.accepts w.published <;> rfl
  · cases E.accepts w.published <;> rfl
  · cases E.accepts w.published <;> simp

/-- The agent `7` has registered: its handler has made all four of its calls and drawn the UUID
`7`. -/
def agentRegistered : List (Interleaving.Action Request Oracle) :=
  [.arrive (.register ⟨"node1", "IBswitch", "simulator", "", false⟩),
    .run 0 ⟨⟨7⟩, true⟩, .run 0 ⟨⟨7⟩, true⟩, .run 0 ⟨⟨7⟩, true⟩, .run 0 ⟨⟨7⟩, true⟩]

/-- Two devices whose sensors have the same ids.  A sensor is told apart by its device, so this is
allowed. -/
def twoDevices : DeviceList :=
  ⟨⟨7⟩, [⟨none, "switch", "switch", "", "", [plainSensor "in", plainSensor "out"]⟩,
    ⟨none, "hca", "hca", "", "", [plainSensor "in", plainSensor "out"]⟩]⟩

/-- The agent `7` of the simulator registers two devices that have sensors of the same ids. -/
theorem device_registration_agreement_two_devices :
    ∃ response stored, ThreeWay ⟨fun n => ⟨Fin.ofNat _ n⟩, fun _ => true⟩ twoDevices
      ⟨1, "node1", some ⟨7⟩, "simulator", []⟩ (.start (runFramework agentRegistered).world.redis)
      (runAlone ⟨fun n => ⟨Fin.ofNat _ n⟩, fun _ => true⟩ Redis.exec
        (MqttDeviceListListener.process agentRedisRepository twoDevices)
        (.start (runFramework agentRegistered).world.redis))
      response stored :=
  device_registration_agreement _ agentRegistered twoDevices _ _ rfl (by decide)
    ⟨by decide, by decide⟩ (by decide)

end KrakenMare
