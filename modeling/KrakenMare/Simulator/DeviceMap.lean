import KrakenMare.Agent.DeviceRegistration
import KrakenMare.Simulator.BatchCounter

/-!
# The sensors of the InfiniBand agent

`simulator/IBswitchSimulator.py`.  The agent registers one device for each switch of its two
inventories and one sensor for each entry of the device template, and later finds the UUIDs of the
sensors again under keys that it makes from the same names.  A switch goes by its `Node_GUID`
alone; the UUID of the agent, which a comment of `createMyDeviceMap` puts in front of it, is not
part of the id.

The inventories are functions of the file name, and so are the seed files, of which some may not be
there (`none`).  The random numbers and the times are `draws`, one for each switch visited.  The
loop of `send_data` has no end, so it is given a number of passes.

* `ids_deviceMap` — the ids of the devices and sensors that are registered.
* `Identified` — every metric of every switch has a UUID of its own in the response, the one that
  Redis stores; `identified_registered` says that registering the device map leads there.
* `visit_eq_some` — what one visit of a switch does: it notes the one list of records that it
  makes, and hands this very list to `mqtt_send_triplet_batch`.
* `Looping` — the invariant of the loop of `send_data` as to the UUIDs: no lookup fails, and every
  record has the UUID of its sensor in the response.
* `Visiting` — the invariant as to the switches: which ones it has come to, and that all lists made
  have been handed over.  `Passed` is what is left of it after some passes.
* `sensor_identity` — **the records of `send_data` carry the UUIDs stored for their sensors**:
  every pass of a running agent makes one for each metric of each switch, and sends it.

Two switches with one `Node_GUID` are not told apart by any of this; that no two have is assumed
there.
-/

namespace KrakenMare

open Lib AgentRedisRepository MqttDeviceListListener

/-- What is read of a switch in an inventory to make ids of. -/
structure Switch where
  Node_GUID : String
deriving DecidableEq

namespace IBswitchSimulator

/-- The two inventory files, one for each chassis management controller. -/
def cmcs : List String := ["r1i0c-ibswitch", "r1i1c-ibswitch"]

/-! ## The device map -/

section
variable (inventory : String → List Switch) (template : Device)

/-- The device of one switch, from a fresh copy of `InfinibandDevice.json`. -/
def device (cmc : String) (switch : Switch) : Device :=
  { template with
    id := switch.Node_GUID
    name := cmc ++ "-ib"
    type := "Infiniband Switch"
    location := cmc
    sensors := template.sensors.map fun sensor =>
      { sensor with id := switch.Node_GUID ++ "-" ++ sensor.name } }

/-- The devices of all switches, one inventory after the other. -/
def createMyDeviceMap (myAgent_uuid : UUID) : DeviceList :=
  ⟨myAgent_uuid, cmcs.flatMap fun cmc => (inventory cmc).map (device template cmc)⟩

/-- The `Node_GUID`s of one inventory, in the order of the file. -/
def guids (cmc : String) : List String := (inventory cmc).map Switch.Node_GUID

end

/-! ## `send_data` -/

/-- One visit of a switch: the time and three values of `random.random()`. -/
structure Draw where
  timestamp : ℤ
  x : ℚ
  y : ℚ
  z : ℚ

/-- `send_data` in its loop: the seed map, the agent, the number of visits made, and the record
lists made so far, each with the switch it is about. -/
structure Sending (Bytes : Type) where
  switchSimulatorSeedMap : Dict String (Dict String PerfQuery)
  agent : AgentCommon Bytes
  visits : ℕ
  produced : List (String × List SendTimeSeriesDruid)

/-- `device_uuid` and `sensor_uuid`, of which the first is filled and never read. -/
structure UuidMaps where
  device_uuid : Dict String (Dict String UUID)
  sensor_uuid : Dict String (Dict String (Dict String UUID))

section
variable (inventory : String → List Switch) (seedOutputDir : String → Option PerfQuery)
  (uuids : Dict String SensorUuids)

/-- The UUID map at the beginning of `send_data`.  A device or a sensor that is not in the response
ends it. -/
def assembleUuidMap : Option UuidMaps := do
  let device_uuid ← Dict.fill (fun cmc =>
    Dict.fill (fun guid => (uuids.get? guid).bind SensorUuids.uuid) (guids inventory cmc) ∅) cmcs ∅
  let sensor_uuid ← Dict.fill (fun cmc =>
    Dict.fill (fun guid =>
      Dict.fill (fun ibmetric => sensorUuid? uuids guid (guid ++ "-" ++ ibmetric)) ibmetrics ∅)
      (guids inventory cmc) ∅) cmcs ∅
  some ⟨device_uuid, sensor_uuid⟩

/-- The counters with which the switches begin, read from one file for each switch.  A file that is
not there ends it. -/
def seedSimulatorMap : Option (Dict String (Dict String PerfQuery)) :=
  Dict.fill (fun cmc => Dict.fill seedOutputDir (guids inventory cmc) ∅) cmcs ∅

variable {Bytes : Type} (S : MessageSerializer Bytes) (getsizeof : ℕ → ℕ) (args : SendArgs)
  (myAgent_uuid : UUID) (draws : ℕ → Draw)

/-- The body of the inner loop.  Nothing follows once the limit has ended the process. -/
def visit (maps : UuidMaps) (cmc switchGUID : String) (s : Sending Bytes) :
    Option (Sending Bytes) :=
  if s.agent.exited then some s
  else do
    let seeds ← s.switchSimulatorSeedMap.get? cmc
    let seed ← seeds.get? switchGUID
    let draw := draws s.visits
    let seed := seed.advance draw.x draw.y draw.z
    let sensors ← maps.sensor_uuid.get? cmc
    let sensor_uuid ← sensors.get? switchGUID
    let reading := ⟨sensor_uuid, seed, draw.timestamp⟩
    let record_list ← recordList myAgent_uuid reading s.agent
    let agent ← sendSwitch S getsizeof args myAgent_uuid reading s.agent
    some ⟨s.switchSimulatorSeedMap.set cmc (seeds.set switchGUID seed), agent, s.visits + 1,
      s.produced ++ [(switchGUID, record_list)]⟩

/-- One pass of the infinite loop, which goes by the seed map and not by the inventories. -/
def round (maps : UuidMaps) (s : Sending Bytes) : Option (Sending Bytes) :=
  s.switchSimulatorSeedMap.forKeys (fun cmc s => do
    let seeds ← s.switchSimulatorSeedMap.get? cmc
    seeds.forKeys (visit S getsizeof args myAgent_uuid draws maps cmc) s) s

/-- Some passes, one after the other. -/
def rounds (maps : UuidMaps) : ℕ → Sending Bytes → Option (Sending Bytes)
  | 0, s => some s
  | n + 1, s => do
      let s ← round S getsizeof args myAgent_uuid draws maps s
      rounds maps n s

/-- `send_data`, up to the end of its `n`-th pass. -/
def sendData (agent : AgentCommon Bytes) (n : ℕ) : Option (Sending Bytes) := do
  let maps ← assembleUuidMap inventory uuids
  let seedMap ← seedSimulatorMap inventory seedOutputDir
  rounds S getsizeof args myAgent_uuid draws maps n ⟨seedMap, agent, 0, []⟩

end

section
variable {Bytes : Type} {S : MessageSerializer Bytes} {getsizeof : ℕ → ℕ} {args : SendArgs}
  {myAgent_uuid : UUID} {draws : ℕ → Draw} {maps : UuidMaps} {cmc switchGUID : String}
  {s t : Sending Bytes}

/-- **One visit**, when no lookup fails: nothing, if the process is gone, or else the counters of
the switch move, and the one record list made from them is noted and handed to
`mqtt_send_triplet_batch`. -/
lemma visit_eq_some (h : visit S getsizeof args myAgent_uuid draws maps cmc switchGUID s = some t) :
    s.agent.exited = true ∧ t = s ∨ s.agent.exited = false ∧
      ∃ seeds seed sensors sensor_uuid record_list,
        s.switchSimulatorSeedMap.get? cmc = some seeds ∧ seeds.get? switchGUID = some seed ∧
        maps.sensor_uuid.get? cmc = some sensors ∧ sensors.get? switchGUID = some sensor_uuid ∧
        let draw := draws s.visits
        let seed' := seed.advance draw.x draw.y draw.z
        recordList myAgent_uuid ⟨sensor_uuid, seed', draw.timestamp⟩ s.agent = some record_list ∧
        t = ⟨s.switchSimulatorSeedMap.set cmc (seeds.set switchGUID seed'),
          s.agent.send S getsizeof args record_list, s.visits + 1,
          s.produced ++ [(switchGUID, record_list)]⟩ := by
  rw [visit] at h
  split_ifs at h with hexit
  · exact Or.inl ⟨hexit, (Option.some.inj h).symm⟩
  · obtain ⟨seeds, hseeds, h⟩ := Option.bind_eq_some_iff.mp h
    obtain ⟨seed, hseed, h⟩ := Option.bind_eq_some_iff.mp h
    obtain ⟨sensors, hsensors, h⟩ := Option.bind_eq_some_iff.mp h
    obtain ⟨sensor_uuid, huuid, h⟩ := Option.bind_eq_some_iff.mp h
    obtain ⟨record_list, hlist, h⟩ := Option.bind_eq_some_iff.mp h
    obtain ⟨agent, hagent, h⟩ := Option.bind_eq_some_iff.mp h
    rw [sendSwitch, hlist, Option.map_some, Option.some.injEq] at hagent
    refine Or.inr ⟨by simpa using hexit, seeds, seed, sensors, sensor_uuid, record_list, hseeds, hseed,
      hsensors, huuid, hlist, ?_⟩
    rw [hagent]
    exact (Option.some.inj h).symm

end

/-! ## The registered ids -/

section
variable {inventory : String → List Switch} {template : Device}

/-- The `Node_GUID`s of all switches, one inventory after the other, as they come in a pass. -/
def allGuids (inventory : String → List Switch) : List String := cmcs.flatMap (guids inventory)

lemma mem_allGuids {guid : String} :
    guid ∈ allGuids inventory ↔ ∃ cmc ∈ cmcs, guid ∈ guids inventory cmc := by
  simp [allGuids]

lemma sensorId_injective (guid : String) : Function.Injective fun name => guid ++ "-" ++ name :=
  fun _ _ h => (String.append_right_inj _).mp h

/-- **The registered ids**: the `Node_GUID` of each switch, and with it the names in the
template. -/
theorem ids_deviceMap (u : UUID) : (createMyDeviceMap inventory template u).devices.map Device.ids
    = (allGuids inventory).map fun guid =>
        (guid, (template.sensors.map Sensor.name).map fun name => guid ++ "-" ++ name) := by
  simp [createMyDeviceMap, allGuids, guids, device, Device.ids, List.map_flatMap,
    Function.comp_def]

/-- Concatenation keeps the ids distinct: with distinct GUIDs, and distinct names in the template,
no two devices and no two sensors of a device share an id. -/
theorem distinctIds_of_ids {ds : List Device} (hguids : (allGuids inventory).Nodup)
    (hnames : (template.sensors.map Sensor.name).Nodup)
    (h : ds.map Device.ids = (allGuids inventory).map fun guid =>
        (guid, (template.sensors.map Sensor.name).map fun name => guid ++ "-" ++ name)) :
    DistinctIds ds := by
  rw [distinctIds_iff, h, List.forall_mem_map]
  refine ⟨?_, fun guid _ => hnames.map (sensorId_injective guid)⟩
  simpa [Function.comp_def] using hguids

/-- Every metric of every switch has its sensor. -/
lemma exists_sensor {ds : List Device} (hmetrics : ibmetrics ⊆ template.sensors.map Sensor.name)
    (h : ds.map Device.ids = (allGuids inventory).map fun guid =>
        (guid, (template.sensors.map Sensor.name).map fun name => guid ++ "-" ++ name))
    {guid ibmetric : String} (hguid : guid ∈ allGuids inventory) (hm : ibmetric ∈ ibmetrics) :
    ∃ d ∈ ds, d.id = guid ∧ ∃ s ∈ d.sensors, s.id = guid ++ "-" ++ ibmetric := by
  have hmem := h ▸ List.mem_map_of_mem (f := fun guid =>
    (guid, (template.sensors.map Sensor.name).map fun name => guid ++ "-" ++ name)) hguid
  obtain ⟨d, hd, hid, hsensors⟩ := exists_of_ids hmem
  exact ⟨d, hd, hid, hsensors _ (List.mem_map_of_mem (hmetrics hm))⟩

end

/-! ## The UUIDs in the response -/

/-- Every metric of every switch has a UUID of its own in the response, the one that Redis
stores. -/
structure Identified (inventory : String → List Switch) (uuids : Dict String SensorUuids)
    (redis : Redis) (u : UUID) : Prop where
  device : ∀ guid ∈ allGuids inventory, ((uuids.get? guid).bind SensorUuids.uuid).isSome
  sensor : ∀ guid ∈ allGuids inventory, ∀ ibmetric ∈ ibmetrics,
    (sensorUuid? uuids guid (guid ++ "-" ++ ibmetric)).isSome
  stored : ∀ guid ∈ allGuids inventory, ∀ ibmetric ∈ ibmetrics, ∀ uuid,
    StoresSensor redis u guid (guid ++ "-" ++ ibmetric) uuid
      ↔ uuid = sensorUuid? uuids guid (guid ++ "-" ++ ibmetric)
  distinct : ∀ guid ∈ allGuids inventory, ∀ ibmetric ∈ ibmetrics,
    ∀ guid' ∈ allGuids inventory, ∀ ibmetric' ∈ ibmetrics,
      sensorUuid? uuids guid (guid ++ "-" ++ ibmetric)
        = sensorUuid? uuids guid' (guid' ++ "-" ++ ibmetric') → guid = guid' ∧ ibmetric = ibmetric'

/-- **The device map is identified**, once devices with its ids and distinct UUIDs are stored and
the response is made from them. -/
theorem identified {inventory : String → List Switch} {template : Device} {ds : List Device}
    {redis : Redis} {u : UUID} {a : Agent} {us : List UUID} (hguids : (allGuids inventory).Nodup)
    (hnames : (template.sensors.map Sensor.name).Nodup)
    (hmetrics : ibmetrics ⊆ template.sensors.map Sensor.name)
    (hids : ds.map Device.ids = (allGuids inventory).map fun guid =>
        (guid, (template.sensors.map Sensor.name).map fun name => guid ++ "-" ++ name))
    (hus : uuidsOf ds = us.map some) (hnd : us.Nodup)
    (ha : redis.myAgentsKey.get? (agentKey (some u)) = some a) (hds : a.devices = ds) :
    Identified inventory (deviceUuids ds) redis u := by
  have hdistinct := distinctIds_of_ids hguids hnames hids
  have huuids : (uuidsOf ds).Nodup := hus ▸ hnd.map (Option.some_injective _)
  have hsome : ∀ x ∈ uuidsOf ds, x.isSome := by
    rw [hus]
    simp
  refine ⟨fun guid hguid => ?_, fun guid hguid ibmetric hm => ?_,
    fun guid hguid ibmetric hm uuid => ?_,
    fun guid hguid ibmetric hm guid' hguid' ibmetric' hm' heq => ?_⟩
  · obtain ⟨x, hx, rfl⟩ := List.mem_map.mp
      (map_id_eq ds ▸ hids ▸ by simpa using hguid : guid ∈ ds.map Device.id)
    rw [get?_deviceUuids hdistinct hx]
    exact hsome _ (List.mem_flatMap.mpr ⟨x, hx, List.mem_cons_self⟩)
  · obtain ⟨d, hd, rfl, s, hs, hsid⟩ := exists_sensor hmetrics hids hguid hm
    exact hsid ▸ isSome_sensorUuid_response hdistinct hsome hd hs
  · obtain ⟨d, hd, rfl, s, hs, hsid⟩ := exists_sensor hmetrics hids hguid hm
    rw [← hsid, sensorUuid_response hdistinct hd hs]
    subst hds
    exact storesSensor_unique ha hdistinct hd hs uuid
  · obtain ⟨d, hd, rfl, s, hs, hsid⟩ := exists_sensor hmetrics hids hguid hm
    obtain ⟨d', hd', rfl, s', hs', hsid'⟩ := exists_sensor hmetrics hids hguid' hm'
    rw [← hsid, ← hsid'] at heq
    obtain ⟨rfl, rfl⟩ := sensorUuid_response_inj hdistinct huuids hd hd' hs hs' heq
    exact ⟨rfl, sensorId_injective d.id (hsid.symm.trans hsid')⟩

/-! ## The lookups of `send_data` -/

section
variable {inventory : String → List Switch} {uuids : Dict String SensorUuids}

/-- The UUID map holds for every switch the UUIDs of the response. -/
structure Assembled (inventory : String → List Switch) (uuids : Dict String SensorUuids)
    (maps : UuidMaps) : Prop where
  lookup : ∀ cmc ∈ cmcs, ∀ guid ∈ guids inventory cmc, ∃ sensors sensor_uuid,
    maps.sensor_uuid.get? cmc = some sensors ∧ sensors.get? guid = some sensor_uuid ∧
      ∀ ibmetric ∈ ibmetrics,
        sensor_uuid.get? ibmetric = sensorUuid? uuids guid (guid ++ "-" ++ ibmetric)

/-- **The UUID map** is assembled without a failing lookup, and shows what the response has. -/
theorem assembled {redis : Redis} {u : UUID} (h : Identified inventory uuids redis u) :
    ∃ maps, assembleUuidMap inventory uuids = some maps ∧ Assembled inventory uuids maps := by
  have hmem : ∀ {cmc guid}, cmc ∈ cmcs → guid ∈ guids inventory cmc →
      guid ∈ allGuids inventory := fun hcmc hguid => mem_allGuids.mpr ⟨_, hcmc, hguid⟩
  obtain ⟨device_uuid, hdevice⟩ := Dict.exists_fill cmcs ∅ fun cmc hcmc =>
    Option.isSome_iff_exists.mpr <| Dict.exists_fill (guids inventory cmc) ∅ fun guid hguid =>
      h.device guid (hmem hcmc hguid)
  have hmetrics : ∀ {cmc guid}, cmc ∈ cmcs → guid ∈ guids inventory cmc → ∃ sensor_uuid,
      Dict.fill (fun ibmetric => sensorUuid? uuids guid (guid ++ "-" ++ ibmetric)) ibmetrics ∅
        = some sensor_uuid := fun hcmc hguid =>
    Dict.exists_fill ibmetrics ∅ (h.sensor _ (hmem hcmc hguid))
  have hswitches := fun cmc (hcmc : cmc ∈ cmcs) =>
    Dict.exists_fill (guids inventory cmc) ∅ fun guid hguid =>
      Option.isSome_iff_exists.mpr (hmetrics hcmc hguid)
  obtain ⟨sensor_uuid, hsensor⟩ := Dict.exists_fill cmcs ∅ fun cmc hcmc =>
    Option.isSome_iff_exists.mpr (hswitches cmc hcmc)
  refine ⟨⟨device_uuid, sensor_uuid⟩, ?_, ⟨fun cmc hcmc guid hguid => ?_⟩⟩
  · rw [assembleUuidMap, hdevice, hsensor]
    rfl
  · obtain ⟨sensors, hsensors⟩ := hswitches cmc hcmc
    obtain ⟨metrics, hmetric⟩ := hmetrics hcmc hguid
    exact ⟨sensors, metrics, (Dict.get?_fill_of_mem hsensor hcmc).trans hsensors,
      (Dict.get?_fill_of_mem hsensors hguid).trans hmetric,
      fun ibmetric hm => Dict.get?_fill_of_mem hmetric hm⟩

/-! ## The loop -/

/-- The loop keeps the keys of the seed map, and has made only records with the UUIDs of the
response. -/
structure Looping (inventory : String → List Switch) (uuids : Dict String SensorUuids)
    {Bytes : Type} (s : Sending Bytes) : Prop where
  cmcs : ∀ cmc, (s.switchSimulatorSeedMap.get? cmc).isSome ↔ cmc ∈ cmcs
  seeds : ∀ cmc seeds, s.switchSimulatorSeedMap.get? cmc = some seeds →
    ∀ guid, (seeds.get? guid).isSome ↔ guid ∈ guids inventory cmc
  counter : s.agent.myEnableMQTTbatchesCounter = false
  produced : ∀ x ∈ s.produced, x.1 ∈ allGuids inventory ∧ List.Forall₂
    (fun ibmetric r => sensorUuid? uuids x.1 (x.1 ++ "-" ++ ibmetric) = some r.sensorUuid)
    ibmetrics x.2

lemma looping_start {seedOutputDir : String → Option PerfQuery} {Bytes : Type}
    {agent : AgentCommon Bytes} {seedMap : Dict String (Dict String PerfQuery)}
    (hcounter : agent.myEnableMQTTbatchesCounter = false)
    (h : seedSimulatorMap inventory seedOutputDir = some seedMap) :
    Looping inventory uuids ⟨seedMap, agent, 0, []⟩ := by
  have hcmcs : ∀ cmc, (seedMap.get? cmc).isSome ↔ cmc ∈ cmcs := fun cmc => by
    simpa using Dict.isSome_get?_fill h cmc
  refine ⟨hcmcs, fun cmc seeds hseeds guid => ?_, hcounter, by simp⟩
  have hcmc : cmc ∈ cmcs := (hcmcs cmc).mp (by rw [hseeds]; rfl)
  have hfill := (Dict.get?_fill_of_mem h hcmc).symm.trans hseeds
  simpa using Dict.isSome_get?_fill hfill guid

variable {Bytes : Type} {S : MessageSerializer Bytes} {getsizeof : ℕ → ℕ} {args : SendArgs}
  {myAgent_uuid : UUID} {draws : ℕ → Draw} {maps : UuidMaps} {s : Sending Bytes}

/-- With the batch counter off the records carry the UUIDs of the map. -/
lemma recordList_metrics (myAgent_uuid : UUID) (reading : SwitchReading) {a : AgentCommon Bytes}
    {uuid : String → Option UUID} (hcounter : a.myEnableMQTTbatchesCounter = false)
    (h : ∀ ibmetric ∈ ibmetrics, reading.sensor_uuid.get? ibmetric = uuid ibmetric)
    (hsome : ∀ ibmetric ∈ ibmetrics, (uuid ibmetric).isSome) :
    ∃ l, recordList myAgent_uuid reading a = some l ∧
      List.Forall₂ (fun ibmetric r => uuid ibmetric = some r.sensorUuid) ibmetrics l := by
  obtain ⟨u, hu⟩ := Option.isSome_iff_exists.mp (hsome "SymbolErrorCounter" (by simp [ibmetrics]))
  obtain ⟨v, hv⟩ := Option.isSome_iff_exists.mp (hsome "PortXmitData" (by simp [ibmetrics]))
  have hu' := (h "SymbolErrorCounter" (by simp [ibmetrics])).trans hu
  have hv' := (h "PortXmitData" (by simp [ibmetrics])).trans hv
  refine ⟨[⟨reading.timestamp, u, .finite reading.seed.SymbolErrorCounter⟩,
    ⟨reading.timestamp, v, .finite reading.seed.PortXmitData⟩], ?_, ?_⟩
  · simp [recordList, record, ibmetrics, hcounter, hu', hv', PerfQuery.get?]
  · exact .cons hu (.cons hv .nil)

/-- **One visit.**  No lookup fails, and the records made in it have the UUIDs of the response. -/
theorem Looping.visit {redis : Redis} {u : UUID} (hident : Identified inventory uuids redis u)
    (hmaps : Assembled inventory uuids maps) (h : Looping inventory uuids s) {cmc guid : String}
    (hcmc : cmc ∈ IBswitchSimulator.cmcs) (hguid : guid ∈ guids inventory cmc) :
    ∃ t, visit S getsizeof args myAgent_uuid draws maps cmc guid s = some t ∧
      Looping inventory uuids t := by
  rw [IBswitchSimulator.visit]
  split_ifs with hexit
  · exact ⟨s, rfl, h⟩
  · obtain ⟨seeds, hseeds⟩ := Option.isSome_iff_exists.mp ((h.cmcs cmc).mpr hcmc)
    obtain ⟨seed, hseed⟩ := Option.isSome_iff_exists.mp ((h.seeds cmc seeds hseeds guid).mpr hguid)
    obtain ⟨sensors, sensor_uuid, hsensors, huuid, hmetric⟩ := hmaps.lookup cmc hcmc guid hguid
    have hmem : guid ∈ allGuids inventory := mem_allGuids.mpr ⟨cmc, hcmc, hguid⟩
    obtain ⟨l, hl, hrecords⟩ := recordList_metrics myAgent_uuid ⟨sensor_uuid,
      seed.advance (draws s.visits).x (draws s.visits).y (draws s.visits).z,
      (draws s.visits).timestamp⟩ h.counter hmetric (hident.sensor guid hmem)
    simp only [hseeds, hseed, hsensors, huuid, sendSwitch, hl, Option.bind_eq_bind,
      Option.bind_some, Option.map_some]
    refine ⟨_, rfl, fun c => ?_, fun c seeds' hseeds' g => ?_, ?_, ?_⟩
    · rw [Dict.get?_set]
      split_ifs with hc
      · simpa [hc] using hcmc
      · exact h.cmcs c
    · rw [Dict.get?_set] at hseeds'
      split_ifs at hseeds' with hc
      · obtain rfl := Option.some.inj hseeds'
        rw [Dict.get?_set]
        split_ifs with hg
        · simpa [hc, hg] using hguid
        · rw [hc]
          exact h.seeds cmc seeds hseeds g
      · exact h.seeds c seeds' hseeds' g
    · rw [AgentCommon.enable_send]
      exact h.counter
    · intro x hx
      rcases List.mem_append.mp hx with hx | hx
      · exact h.produced x hx
      · obtain rfl := List.mem_singleton.mp hx
        exact ⟨hmem, hrecords⟩

/-- **One pass over the switches.** -/
lemma Looping.round {redis : Redis} {u : UUID} (hident : Identified inventory uuids redis u)
    (hmaps : Assembled inventory uuids maps) (h : Looping inventory uuids s) :
    ∃ t, round S getsizeof args myAgent_uuid draws maps s = some t ∧ Looping inventory uuids t := by
  refine Dict.forKeys_keeps (fun cmc s' hcmc h' => ?_) h
  have hcmc' := (h.cmcs cmc).mp hcmc
  obtain ⟨seeds, hseeds⟩ := Option.isSome_iff_exists.mp ((h'.cmcs cmc).mpr hcmc')
  simp only [hseeds, Option.bind_eq_bind, Option.bind_some]
  exact Dict.forKeys_keeps (fun guid s' hguid h'' =>
    h''.visit hident hmaps hcmc' ((h'.seeds cmc seeds hseeds guid).mp hguid)) h'

/-- **Any number of passes.**  No lookup fails in any of them. -/
theorem Looping.rounds {redis : Redis} {u : UUID} (hident : Identified inventory uuids redis u)
    (hmaps : Assembled inventory uuids maps) : ∀ (n : ℕ) {s : Sending Bytes},
    Looping inventory uuids s →
      ∃ t, rounds S getsizeof args myAgent_uuid draws maps n s = some t ∧ Looping inventory uuids t
  | 0, s, h => ⟨s, rfl, h⟩
  | n + 1, s, h => by
      obtain ⟨t, ht, hloop⟩ := h.round hident hmaps
      rw [IBswitchSimulator.rounds, ht]
      exact Looping.rounds hident hmaps n hloop

end

/-! ## The passes -/

section
variable {Bytes : Type} (S : MessageSerializer Bytes) (getsizeof : ℕ → ℕ) (args : SendArgs)
  (inventory : String → List Switch) (agent : AgentCommon Bytes)

/-- `send_data` has come to the switches `visited`, in this order.  The keys of the seed map stand
as they were filled in; the agent is the one that has been handed the record lists made; and there
is one for each switch, as long as the process is running. -/
structure Visiting (visited : List String) (s : Sending Bytes) : Prop where
  cmcs : s.switchSimulatorSeedMap.keys = IBswitchSimulator.cmcs
  guids : ∀ cmc seeds, s.switchSimulatorSeedMap.get? cmc = some seeds →
    seeds.keys = IBswitchSimulator.guids inventory cmc
  sent : s.agent = agent.sendAll S getsizeof args (s.produced.map Prod.snd)
  produced : s.produced.map Prod.fst <+: visited
  running : s.agent.exited = false → s.produced.map Prod.fst = visited

/-- What `n` passes of `send_data` have made of `agent`, as to the switches and to what was sent. -/
structure Passed (n : ℕ) (s : Sending Bytes) : Prop where
  /-- the record lists made are those that have been handed to `mqtt_send_triplet_batch` -/
  sent : s.agent = agent.sendAll S getsizeof args (s.produced.map Prod.snd)
  /-- they are about the switches of the inventories, pass after pass, in order -/
  produced : s.produced.map Prod.fst <+: (List.replicate n (allGuids inventory)).flatten
  /-- and all of them unless the limit has ended the process -/
  running : s.agent.exited = false →
    s.produced.map Prod.fst = (List.replicate n (allGuids inventory)).flatten

variable {S getsizeof args inventory agent} {myAgent_uuid : UUID} {draws : ℕ → Draw}
  {maps : UuidMaps} {s t : Sending Bytes} {visited : List String}

lemma visiting_start {seedOutputDir : String → Option PerfQuery}
    {seedMap : Dict String (Dict String PerfQuery)} (hguids : (allGuids inventory).Nodup)
    (h : seedSimulatorMap inventory seedOutputDir = some seedMap) :
    Visiting S getsizeof args inventory agent [] ⟨seedMap, agent, 0, []⟩ := by
  refine ⟨Dict.keys_fill h (by decide) (by simp), fun cmc seeds hseeds => ?_, rfl,
    List.prefix_refl _, fun _ => rfl⟩
  obtain ⟨hcmc, hfill⟩ := Dict.mem_of_get?_fill h hseeds
  exact Dict.keys_fill hfill ((List.nodup_flatMap.mp hguids).1 cmc hcmc) (by simp)

/-- **One visit** more. -/
lemma Visiting.visit (h : Visiting S getsizeof args inventory agent visited s) {cmc guid : String}
    (hvisit : visit S getsizeof args myAgent_uuid draws maps cmc guid s = some t) :
    Visiting S getsizeof args inventory agent (visited ++ [guid]) t := by
  obtain ⟨hexit, rfl⟩ | ⟨hexit, seeds, seed, sensors, sensor_uuid, l, hseeds, hseed, -, -, -, rfl⟩ :=
    visit_eq_some hvisit
  · exact ⟨h.cmcs, h.guids, h.sent, h.produced.trans (List.prefix_append _ _),
      fun hrunning => absurd (hexit.symm.trans hrunning) (by simp)⟩
  · have hmap : (s.produced ++ [(guid, l)]).map Prod.fst = visited ++ [guid] := by
      rw [List.map_append, h.running hexit]
      rfl
    refine ⟨?_, fun c seeds' hget => ?_, ?_, hmap ▸ List.prefix_refl _, fun _ => hmap⟩
    · rw [Dict.keys_set_of_isSome (by simp [hseeds])]
      exact h.cmcs
    · rw [Dict.get?_set] at hget
      split_ifs at hget with hc
      · obtain rfl := Option.some.inj hget
        rw [Dict.keys_set_of_isSome (by simp [hseed]), hc]
        exact h.guids cmc seeds hseeds
      · exact h.guids c seeds' hget
    · rw [List.map_append, List.map_singleton, AgentCommon.sendAll_concat, ← h.sent]

/-- **One pass** comes to every switch. -/
lemma Visiting.round (h : Visiting S getsizeof args inventory agent visited s)
    (hround : round S getsizeof args myAgent_uuid draws maps s = some t) :
    Visiting S getsizeof args inventory agent (visited ++ allGuids inventory) t := by
  have houter := Dict.forKeys_trace (P := fun done s => Visiting S getsizeof args inventory agent
    (visited ++ done.flatMap (IBswitchSimulator.guids inventory)) s)
    (fun done cmc s t hs hbody => ?_) (by simpa using h) hround
  · rwa [h.cmcs] at houter
  · obtain ⟨seeds, hseeds, hloop⟩ := Option.bind_eq_some_iff.mp hbody
    have hinner := Dict.forKeys_trace (P := fun done' s => Visiting S getsizeof args inventory agent
      (visited ++ done.flatMap (IBswitchSimulator.guids inventory) ++ done') s)
      (fun done' guid s t hs hvisit => by simpa using hs.visit hvisit) (by simpa using hs) hloop
    rwa [hs.guids cmc seeds hseeds, List.append_assoc,
      ← List.flatMap_singleton (f := IBswitchSimulator.guids inventory),
      ← List.flatMap_append] at hinner

lemma Visiting.rounds : ∀ (n : ℕ) {visited : List String} {s : Sending Bytes},
    Visiting S getsizeof args inventory agent visited s →
    rounds S getsizeof args myAgent_uuid draws maps n s = some t →
    Visiting S getsizeof args inventory agent
      (visited ++ (List.replicate n (allGuids inventory)).flatten) t
  | 0, visited, s, h, hrounds => by
      obtain rfl := Option.some.inj hrounds
      simpa using h
  | n + 1, visited, s, h, hrounds => by
      obtain ⟨s', hround, hrest⟩ := Option.bind_eq_some_iff.mp hrounds
      have hlater := Visiting.rounds n (h.round hround) hrest
      rwa [List.append_assoc, ← List.flatten_cons, ← List.replicate_succ] at hlater

lemma Visiting.passed {n : ℕ} (h : Visiting S getsizeof args inventory agent
    (List.replicate n (allGuids inventory)).flatten s) :
    Passed S getsizeof args inventory agent n s :=
  ⟨h.sent, h.produced, h.running⟩

end

/-! ## From the inventories to the records -/

/-- Each record carries the one UUID that Redis stores for its sensor, and records of different
sensors carry different UUIDs. -/
structure RecordsIdentified (redis : Redis) (u : UUID)
    (produced : List (String × List SendTimeSeriesDruid)) : Prop where
  stored : ∀ x ∈ produced, List.Forall₂ (fun ibmetric r => ∀ uuid,
    StoresSensor redis u x.1 (x.1 ++ "-" ++ ibmetric) uuid ↔ uuid = some r.sensorUuid) ibmetrics x.2
  distinct : ∀ x ∈ produced, ∀ y ∈ produced, ∀ m r m' r', (m, r) ∈ ibmetrics.zip x.2 →
    (m', r') ∈ ibmetrics.zip y.2 → r.sensorUuid = r'.sensorUuid → x.1 = y.1 ∧ m = m'

/-- Records with the UUIDs of an identified response are identified. -/
lemma Looping.recordsIdentified {Bytes : Type} {inventory : String → List Switch}
    {uuids : Dict String SensorUuids} {redis : Redis} {u : UUID} {s : Sending Bytes}
    (hident : Identified inventory uuids redis u) (h : Looping inventory uuids s) :
    RecordsIdentified redis u s.produced where
  stored x hx := by
    obtain ⟨hguid, hrecords⟩ := h.produced x hx
    rw [List.forall₂_iff_zip] at hrecords ⊢
    refine ⟨hrecords.1, fun hr uuid => ?_⟩
    rw [← hrecords.2 hr]
    exact hident.stored x.1 hguid _ (List.of_mem_zip hr).1 uuid
  distinct x hx y hy m r m' r' hr hr' heq := by
    obtain ⟨hguid, hrecords⟩ := h.produced x hx
    obtain ⟨hguid', hrecords'⟩ := h.produced y hy
    have hsame := ((List.forall₂_iff_zip.mp hrecords).2 hr).trans
      (heq ▸ ((List.forall₂_iff_zip.mp hrecords').2 hr').symm)
    exact hident.distinct x.1 hguid m (List.of_mem_zip hr).1 y.1 hguid' m' (List.of_mem_zip hr').1
      hsame

variable {Bytes : Type} (S : MessageSerializer Bytes) (E : Environment) (getsizeof : ℕ → ℕ)
  (args : SendArgs) (inventory : String → List Switch) (template : Device)
  (seedOutputDir : String → Option PerfQuery) (draws : ℕ → Draw) (u : UUID)

/-- The devices are registered with a framework that has been running for some time. -/
def registerSwitches (acts : List (Interleaving.Action Request Oracle)) :
    DeviceRegistration × Alone Redis :=
  mqttDeviceRegistration S E (createMyDeviceMap inventory template u) (.start u)
    (.start (runFramework acts).world.redis)

/-- What the agent stored is what Redis stores: once it has its answer, the device map is
identified. -/
theorem identified_registered {acts : List (Interleaving.Action Request Oracle)}
    (hguids : (allGuids inventory).Nodup) (hnames : (template.sensors.map Sensor.name).Nodup)
    (hmetrics : ibmetrics ⊆ template.sensors.map Sensor.name)
    (hdistinct : E.Distinct (slots (createMyDeviceMap inventory template u).devices))
    (hstored : (registerSwitches S E inventory template u acts).1.myDeviceRegistered = true) :
    Identified inventory (registerSwitches S E inventory template u acts).1.myDeviceSensorUUIDsMap
      (registerSwitches S E inventory template u acts).2.store u := by
  have hreg : Registered S E (createMyDeviceMap inventory template u)
      (.start (runFramework acts).world.redis)
      (registerSwitches S E inventory template u acts).1
      (registerSwitches S E inventory template u acts).2 := registered_of_stored rfl rfl hstored
  obtain ⟨a, ha, hdevices⟩ := hreg.stored (redisInvariant_run acts)
  have huuids : uuidsOf (registeredDevices S E (createMyDeviceMap inventory template u)
      (.start (runFramework acts).world.redis)) = _ := uuidsOf_registeredDevices
  rw [hreg.map]
  exact identified hguids hnames hmetrics (ids_registeredDevices.trans (ids_deviceMap u)) huuids
    hdistinct ha hdevices

/-- What `n` passes of `send_data` do with the UUIDs of a response: no lookup fails, so that only a
seed file that is missing can stop them; they make one record list for each switch they come to and
hand it over to be sent; and the records in it, one for each metric, are identified. -/
structure SendsIdentified (uuids : Dict String SensorUuids) (redis : Redis)
    (agent : AgentCommon Bytes) (n : ℕ) (run : Option (Sending Bytes)) : Prop where
  lookups : (assembleUuidMap inventory uuids).isSome
  runs : (seedSimulatorMap inventory seedOutputDir).isSome → run.isSome
  passed : ∀ s, run = some s → Passed S getsizeof args inventory agent n s
  records : ∀ s, run = some s → RecordsIdentified redis u s.produced

/-- **`send_data` on an identified map**, from any agent with the batch counter off. -/
theorem sendData_identified {uuids : Dict String SensorUuids} {redis : Redis}
    (hident : Identified inventory uuids redis u) (hguids : (allGuids inventory).Nodup)
    {agent : AgentCommon Bytes} (hcounter : agent.myEnableMQTTbatchesCounter = false) (n : ℕ) :
    SendsIdentified S getsizeof args inventory seedOutputDir u uuids redis agent n
      (sendData inventory seedOutputDir uuids S getsizeof args u draws agent n) := by
  obtain ⟨maps, hmaps, hassembled⟩ := assembled hident
  have hlookups : (assembleUuidMap inventory uuids).isSome := by simp [hmaps]
  rw [sendData, hmaps]
  cases hseeds : seedSimulatorMap inventory seedOutputDir with
  | none =>
      exact ⟨hlookups, fun h => absurd h (by simp [hseeds]), fun s h => absurd h (by simp),
        fun s h => absurd h (by simp)⟩
  | some seedMap =>
      obtain ⟨t, ht, hloop⟩ : ∃ t, rounds S getsizeof args u draws maps n
          ⟨seedMap, agent, 0, []⟩ = some t ∧ Looping inventory uuids t :=
        (looping_start hcounter hseeds).rounds hident hassembled n
      have hvisiting : Visiting S getsizeof args inventory agent _ t :=
        (visiting_start hguids hseeds).rounds n ht
      simp only [Option.bind_eq_bind, Option.bind_some, ht]
      refine ⟨hlookups, fun _ => rfl, fun s hs => ?_, fun s hs => ?_⟩
      · obtain rfl := Option.some.inj hs
        exact hvisiting.passed
      · obtain rfl := Option.some.inj hs
        exact hloop.recordsIdentified hident

/-- **Sensor identity.**  Once the agent has its answer, every lookup of `send_data` succeeds, in
any number of passes.  Every pass of a running agent makes one record for each metric of each
switch, and these are the records that are handed over to be sent; they carry the UUIDs that Redis
stores for their sensors. -/
theorem sensor_identity (acts : List (Interleaving.Action Request Oracle))
    (agent : AgentCommon Bytes) (n : ℕ) (hguids : (allGuids inventory).Nodup)
    (hnames : (template.sensors.map Sensor.name).Nodup)
    (hmetrics : ibmetrics ⊆ template.sensors.map Sensor.name)
    (hdistinct : E.Distinct (slots (createMyDeviceMap inventory template u).devices))
    (hcounter : agent.myEnableMQTTbatchesCounter = false)
    (hstored : (registerSwitches S E inventory template u acts).1.myDeviceRegistered = true) :
    let (a, w) := registerSwitches S E inventory template u acts
    SendsIdentified S getsizeof args inventory seedOutputDir u a.myDeviceSensorUUIDsMap w.store agent n
      (sendData inventory seedOutputDir a.myDeviceSensorUUIDsMap S getsizeof args u draws agent n) :=
  sendData_identified S getsizeof args inventory seedOutputDir draws u
    (identified_registered S E inventory template u hguids hnames hmetrics hdistinct hstored) hguids
    hcounter n

/-- One switch in each inventory, with GUIDs as in the files of the repository. -/
def twoSwitches : String → List Switch
  | "r1i0c-ibswitch" => [⟨"0x0800690000005E50"⟩]
  | "r1i1c-ibswitch" => [⟨"0x080069000000731E"⟩]
  | _ => []

/-- A sensor of `InfinibandDevice.json`, of which only the name is its own. -/
def counterSensor (name : String) : Sensor :=
  ⟨none, "guid+metricname", name, none, none, none, none, none, some "Counter", some (.finite 0),
    some (.finite 65535), none, some (.finite 1), some 1⟩

/-- A device template with the two metrics that are sent, and one that is not. -/
def switchTemplate : Device :=
  ⟨none, "use guid", "use CMC or node with -ib postfix", "Infiniband Switch or Infiniband HCA",
    "use CMC or node", ["PortSelect", "SymbolErrorCounter", "PortXmitData"].map counterSensor⟩

/-- The agent `7` registers, and its handler comes to its end. -/
def afterRegistration : List (Interleaving.Action Request Oracle) :=
  [.arrive (.register ⟨"r1i0c", "IBswitch", "simulator", "", false⟩),
    .run 0 ⟨⟨7⟩, true⟩, .run 0 ⟨⟨7⟩, true⟩, .run 0 ⟨⟨7⟩, true⟩, .run 0 ⟨⟨7⟩, true⟩]

/-- Two switches, whose template has a sensor more than `send_data` reads, registered with a
framework that has registered the agent before, and three passes over them. -/
theorem sensor_identity_two_switches :
    let (a, w) := registerSwitches structuralSerializer ⟨fun n => ⟨Fin.ofNat _ n⟩, fun _ => true⟩
      twoSwitches switchTemplate ⟨7⟩ afterRegistration
    SendsIdentified structuralSerializer listSizeof ⟨"ibswitch", -1, 512, ⟨7⟩, false⟩ twoSwitches
      (fun _ => some ⟨600, 0, 0, 18235298⟩) ⟨7⟩ a.myDeviceSensorUUIDsMap w.store
      (AgentCommon.start false 1 0) 3
      (sendData twoSwitches (fun _ => some ⟨600, 0, 0, 18235298⟩) a.myDeviceSensorUUIDsMap
        structuralSerializer listSizeof ⟨"ibswitch", -1, 512, ⟨7⟩, false⟩ ⟨7⟩
        (fun n => ⟨1000 * n, 1 / 2, 9 / 10, 1⟩) (AgentCommon.start false 1 0) 3) :=
  sensor_identity structuralSerializer _ listSizeof _ twoSwitches switchTemplate _ _ ⟨7⟩
    afterRegistration _ 3 (by decide) (by decide) (by decide) (by decide) rfl (by decide)

end IBswitchSimulator

end KrakenMare
