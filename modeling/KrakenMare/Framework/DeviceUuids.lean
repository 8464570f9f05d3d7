import KrakenMare.Framework.Representation
import KrakenMare.Schema.Serializer
import Mathlib.Data.List.Lattice
import Mathlib.Data.List.Pairwise

/-!
# The identities in the answer to a device list

`assignDevices` puts the random UUIDs into the devices, `deviceUuids` makes the two levels of hash
maps of a `DeviceListResponse` out of them: one entry for each device id, in it one for each sensor
id.  An agent later looks its UUIDs up by these ids.  Nothing in the framework checks that the ids
are distinct, and a hash map keeps one entry for two devices of one id.

**The assignment.**  `map_ids_assignDevices` and `uuidsOf_assignDevices`: the ids are the agent's
own, the UUIDs are those drawn, one each and in order.

**The response**, when no two devices share an id and no device has two sensors of one id
(`DistinctIds`):

* `sensorUuid_response` — it shows every sensor with the UUID it was given.
* `sensorUuid_response_inj` — and no two sensors with the same one, if no UUID was drawn twice.

**The store.**  `storesSensor_unique`: under those ids Redis holds no other sensors, so that the
UUID stored for a sensor is determined.

`sensor_unique` is the reason behind: UUIDs tell the sensors of all devices apart.
-/

namespace KrakenMare

open Lib AgentRedisRepository

/-- The ids a device shows: its own and those of its sensors. -/
def Device.ids (d : Device) : String × List String := (d.id, d.sensors.map Sensor.id)

/-- Hash maps keyed by the ids lose nothing: no two devices share an id, and in no device two
sensors do. -/
structure DistinctIds (ds : List Device) : Prop where
  devices : (ds.map Device.id).Nodup
  sensors : ∀ d ∈ ds, (d.sensors.map Sensor.id).Nodup

@[simp] lemma Device.ids_mapFloat (f : Number → Number) (d : Device) :
    (d.mapFloat f).ids = d.ids := by
  simp [Device.ids, Device.mapFloat, Sensor.mapFloat, Function.comp_def]

lemma map_id_eq (ds : List Device) : ds.map Device.id = (ds.map Device.ids).map Prod.fst := by
  simp [Device.ids, Function.comp_def]

/-- Whether the ids are distinct can be seen from the ids. -/
lemma distinctIds_iff {ds : List Device} : DistinctIds ds ↔
    ((ds.map Device.ids).map Prod.fst).Nodup ∧ ∀ x ∈ ds.map Device.ids, x.2.Nodup := by
  rw [← map_id_eq, List.forall_mem_map]
  exact ⟨fun h => ⟨h.devices, h.sensors⟩, fun h => ⟨h.1, h.2⟩⟩

namespace MqttDeviceListListener

/-! ## Ids and UUIDs of an assignment -/

lemma map_id_assignSensors : ∀ (ss : List Sensor) (us : List UUID),
    (assignSensors ss us).map Sensor.id = ss.map Sensor.id
  | [], _ => rfl
  | s :: ss, us => by rw [assignSensors, List.map_cons, List.map_cons, map_id_assignSensors ss]

/-- The ids are the agent's own: an assignment changes nothing but UUIDs, and so neither the ids nor
their order. -/
theorem map_ids_assignDevices : ∀ (ds : List Device) (us : List UUID),
    (assignDevices ds us).map Device.ids = ds.map Device.ids
  | [], _ => rfl
  | d :: ds, us => by
      rw [assignDevices, List.map_cons, List.map_cons, map_ids_assignDevices ds]
      simp [Device.ids, map_id_assignSensors]

/-- All UUIDs of a device list, in the order in which the loops of `process` assign them. -/
def uuidsOf (ds : List Device) : List (Option UUID) :=
  ds.flatMap fun d => d.uuid :: d.sensors.map Sensor.uuid

lemma map_uuid_assignSensors : ∀ (ss : List Sensor) (us : List UUID), ss.length ≤ us.length →
    (assignSensors ss us).map Sensor.uuid = (us.take ss.length).map some
  | [], _, _ => rfl
  | s :: ss, [], h => absurd h (by simp)
  | s :: ss, u :: us, h => by
      have ih := map_uuid_assignSensors ss us (Nat.le_of_succ_le_succ h)
      simp [assignSensors, ih]

/-- The UUIDs are those drawn, one for each device and sensor, in the order of the list. -/
theorem uuidsOf_assignDevices : ∀ (ds : List Device) (us : List UUID), slots ds ≤ us.length →
    uuidsOf (assignDevices ds us) = (us.take (slots ds)).map some
  | [], _, _ => rfl
  | d :: ds, [], h => absurd h (by simp [slots])
  | d :: ds, u :: us, h => by
      simp only [slots, List.length_cons] at h
      have hss := map_uuid_assignSensors d.sensors us (by omega)
      have ih := uuidsOf_assignDevices ds (us.drop d.sensors.length)
        (by rw [List.length_drop]; omega)
      have hslots : slots (d :: ds) = d.sensors.length + slots ds + 1 := by simp [slots]; omega
      simp only [uuidsOf] at ih
      rw [uuidsOf, assignDevices, List.flatMap_cons, List.head?_cons, List.tail_cons,
        List.drop_succ_cons, hss, ih, hslots, List.take_succ_cons, List.take_add, List.map_cons,
        List.map_append, List.cons_append]

lemma slots_mapFloat (f : Number → Number) : ∀ ds : List Device,
    slots (ds.map (Device.mapFloat f)) = slots ds
  | [] => rfl
  | d :: ds => by simp [slots, slots_mapFloat f ds, Device.mapFloat]

/-! ## Telling sensors apart -/

variable {ds : List Device} {d d' : Device} {s s' : Sensor}

lemma sensor_mem_uuidsOf (hd : d ∈ ds) (hs : s ∈ d.sensors) : s.uuid ∈ uuidsOf ds :=
  List.mem_flatMap.mpr ⟨d, hd, List.mem_cons_of_mem _ (List.mem_map_of_mem hs)⟩

/-- The UUIDs of a device, its own and those of its sensors, are in no other. -/
lemma device_of_uuid (hnd : (uuidsOf ds).Nodup) (hd : d ∈ ds) (hd' : d' ∈ ds) {u : Option UUID}
    (hu : u ∈ d.uuid :: d.sensors.map Sensor.uuid)
    (hu' : u ∈ d'.uuid :: d'.sensors.map Sensor.uuid) : d = d' := by
  by_contra hne
  have : Std.Symm (Function.onFun List.Disjoint fun d : Device =>
      d.uuid :: d.sensors.map Sensor.uuid) := ⟨fun _ _ hdisj => List.Disjoint.symm hdisj⟩
  exact (List.nodup_flatMap.mp hnd).2.forall hd hd' hne hu hu'

lemma device_unique (hnd : (uuidsOf ds).Nodup) (hd : d ∈ ds) (hd' : d' ∈ ds)
    (h : d.uuid = d'.uuid) : d = d' :=
  device_of_uuid hnd hd hd' List.mem_cons_self (h ▸ List.mem_cons_self)

/-- A UUID belongs to one sensor of one device, if no two of all that were given are equal. -/
theorem sensor_unique (hnd : (uuidsOf ds).Nodup) (hd : d ∈ ds) (hd' : d' ∈ ds) (hs : s ∈ d.sensors)
    (hs' : s' ∈ d'.sensors) (h : s.uuid = s'.uuid) : d = d' ∧ s = s' := by
  obtain rfl := device_of_uuid hnd hd hd' (List.mem_cons_of_mem _ (List.mem_map_of_mem hs))
    (h ▸ List.mem_cons_of_mem _ (List.mem_map_of_mem hs'))
  have hsensors := (List.nodup_cons.mp ((List.nodup_flatMap.mp hnd).1 d hd)).2
  exact ⟨rfl, List.inj_on_of_nodup_map hsensors hs hs' h⟩

/-- The devices and sensors behind ids. -/
lemma exists_of_ids {id : String} {ids : List String} (h : (id, ids) ∈ ds.map Device.ids) :
    ∃ d ∈ ds, d.id = id ∧ ∀ n ∈ ids, ∃ s ∈ d.sensors, s.id = n := by
  obtain ⟨d, hd, hids⟩ := List.mem_map.mp h
  obtain ⟨rfl, rfl⟩ := Prod.mk.inj hids
  exact ⟨d, hd, rfl, fun n hn => List.mem_map.mp hn⟩

/-! ## The hash maps of the response -/

/-- `deviceUuids[deviceId]["sensorUuids"][sensorId]`; a null is not on the wire. -/
def sensorUuid? (uuids : Dict String SensorUuids) (deviceId sensorId : String) : Option UUID := do
  let device ← uuids.get? deviceId
  let uuid ← device.sensorUuids.get? sensorId
  uuid

lemma get?_deviceUuids (hids : DistinctIds ds) (hd : d ∈ ds) : (deviceUuids ds).get? d.id
    = some ⟨d.uuid, .ofEntries (d.sensors.map fun s => (s.id, s.uuid))⟩ := by
  refine Dict.get?_ofEntries ?_ (List.mem_map_of_mem hd)
  simpa [Function.comp_def] using hids.devices

/-- **The response and the devices agree**: what is found under the ids of a sensor is the UUID it
was given. -/
theorem sensorUuid_response (hids : DistinctIds ds) (hd : d ∈ ds) (hs : s ∈ d.sensors) :
    sensorUuid? (deviceUuids ds) d.id s.id = s.uuid := by
  have hget : (Dict.ofEntries (d.sensors.map fun s => (s.id, s.uuid))).get? s.id = some s.uuid := by
    refine Dict.get?_ofEntries ?_ (List.mem_map_of_mem hs)
    simpa [Function.comp_def] using hids.sensors d hd
  simp [sensorUuid?, get?_deviceUuids hids hd, hget]

/-- Every sensor has a UUID in the response. -/
lemma isSome_sensorUuid_response (hids : DistinctIds ds) (hsome : ∀ x ∈ uuidsOf ds, x.isSome)
    (hd : d ∈ ds) (hs : s ∈ d.sensors) : (sensorUuid? (deviceUuids ds) d.id s.id).isSome := by
  rw [sensorUuid_response hids hd hs]
  exact hsome _ (sensor_mem_uuidsOf hd hs)

/-- No two sensors have the same. -/
lemma sensorUuid_response_inj (hids : DistinctIds ds) (hnd : (uuidsOf ds).Nodup) (hd : d ∈ ds)
    (hd' : d' ∈ ds) (hs : s ∈ d.sensors) (hs' : s' ∈ d'.sensors)
    (h : sensorUuid? (deviceUuids ds) d.id s.id = sensorUuid? (deviceUuids ds) d'.id s'.id) :
    d = d' ∧ s = s' := by
  rw [sensorUuid_response hids hd hs, sensorUuid_response hids hd' hs'] at h
  exact sensor_unique hnd hd hd' hs hs' h

end MqttDeviceListListener

/-! ## What Redis holds -/

/-- The agent `u` has in Redis a device `deviceId` with a sensor `sensorId` of that UUID. -/
def StoresSensor (redis : Redis) (u : UUID) (deviceId sensorId : String) (uuid : Option UUID) :
    Prop :=
  ∃ a, redis.myAgentsKey.get? (agentKey (some u)) = some a ∧
    ∃ d ∈ a.devices, d.id = deviceId ∧ ∃ s ∈ d.sensors, s.id = sensorId ∧ s.uuid = uuid

/-- With distinct ids the UUID that is stored for a sensor is determined, and can be spoken of as
the one. -/
theorem storesSensor_unique {redis : Redis} {u : UUID} {a : Agent} {d : Device} {s : Sensor}
    (ha : redis.myAgentsKey.get? (agentKey (some u)) = some a) (hids : DistinctIds a.devices)
    (hd : d ∈ a.devices) (hs : s ∈ d.sensors) (uuid : Option UUID) :
    StoresSensor redis u d.id s.id uuid ↔ uuid = s.uuid := by
  constructor
  · rintro ⟨a', ha', d', hd', hdid, s', hs', hsid, rfl⟩
    obtain rfl := Option.some.inj (ha.symm.trans ha')
    obtain rfl := List.inj_on_of_nodup_map hids.devices hd' hd hdid
    obtain rfl := List.inj_on_of_nodup_map (hids.sensors _ hd) hs' hs hsid
    rfl
  · rintro rfl
    exact ⟨a, ha, d, hd, rfl, s, hs, rfl, rfl⟩

end KrakenMare
