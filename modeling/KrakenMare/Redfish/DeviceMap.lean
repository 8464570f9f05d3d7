import KrakenMare.Agent.AgentCommon
import KrakenMare.Agent.DeviceRegistration
import KrakenMare.Framework.Agreement
import KrakenMare.Lib.Streams

/-!
# The sensors of the Redfish agent

`redfish/RedfishAgent.py`.  The agent registers one device for each chassis of a Redfish tree and
one sensor for each of its temperatures and fans, with ids made of its UUID, the name of the
chassis and the name of the sensor, and later finds the UUIDs of the sensors again under the same
ids.  The names come from the hardware, such as the `Computer System Chassis` in a comment of
`send_data`, and nothing keeps a rack from having two chassis of one name, or a chassis a
temperature and a fan of one name.

The tree is what the Redfish library has read, each connection having succeeded; values are texts.
`float` reads a number from a text, and fails on what is none (`none`).  A `Reading` says which
sensor a record is of, by the place of the chassis in the tree and not by its name, so that
readings can be told apart where ids cannot.

* `ids_deviceMap` — the ids of the devices and sensors that are registered.
* `distinctIds_iff_separateNames` — they are distinct when no two chassis share a name, and in no
  chassis a temperature and a fan do.
* `passed_sendData` — every pass makes one record for each reading and hands them over to be sent.
* `SendsSeparately` — different readings are sent under different UUIDs.
* **`separate_identities_iff`** — the response has an entry for every device and sensor, and the
  readings are sent separately, exactly under that condition on the names.
* `chassis_share_entry` — two chassis of one name, whose temperatures are sent under one UUID.

Left out: the connection to the Redfish servers with its retries, and the errors it prints.  A tree
may show other values at every pass but not other names; what is unplugged while the agent runs
would raise a `KeyError` in the loop.
-/

namespace KrakenMare

open Lib AgentRedisRepository MqttDeviceListListener

/-- A chassis, with what `thermal.get_temperatures()` and `thermal.get_fans()` answer. -/
structure Chassis where
  name : String
  temperatures : Dict String String
  fans : Dict String String
deriving DecidableEq

namespace Chassis

/-- The names a chassis shows: its own, those of its temperatures and those of its fans. -/
def names (c : Chassis) : String × List String × List String :=
  (c.name, c.temperatures.keys, c.fans.keys)

/-- The names of its sensors, the temperatures first. -/
def sensorNames (c : Chassis) : List String := c.temperatures.keys ++ c.fans.keys

end Chassis

/-- The two kinds of reading that `send_data` asks for. -/
inductive ReadingKind
  | temperature
  | fan
deriving DecidableEq

/-- A physical reading: a temperature or a fan of the chassis at some place of the tree. -/
structure Reading where
  chassis : ℕ
  kind : ReadingKind
  sensor : String
deriving DecidableEq

/-- The sensors of one kind, by their names, each of which is there once. -/
def Chassis.sensorsOf (c : Chassis) : ReadingKind → List String
  | .temperature => c.temperatures.keys
  | .fan => c.fans.keys

/-- The readings of a chassis at a place of the tree, in the order in which they are read. -/
def Chassis.readings (c : Chassis × ℕ) : List Reading :=
  c.1.temperatures.keys.map (⟨c.2, .temperature, ·⟩) ++ c.1.fans.keys.map (⟨c.2, .fan, ·⟩)

/-- The readings of a tree, chassis by chassis; no two of them are equal, whatever the names. -/
def readings (tree : List Chassis) : List Reading := tree.zipIdx.flatMap Chassis.readings

/-- What `str.split` takes for white space, which is more than the blank. -/
def isSpace (c : Char) : Bool :=
  let n := c.toNat
  (9 ≤ n && n ≤ 13) || (28 ≤ n && n ≤ 32) || n = 0x85 || n = 0xa0 || n = 0x1680
    || (0x2000 ≤ n && n ≤ 0x200a) || n = 0x2028 || n = 0x2029 || n = 0x202f || n = 0x205f
    || n = 0x3000

/-- `value.split(None, 1)[0]`; `none` is the `IndexError` on a blank text. -/
def firstWord (value : String) : Option String :=
  match (value.toList.dropWhile isSpace).takeWhile fun c => !isSpace c with
  | [] => none
  | word => some (String.ofList word)

namespace RedfishAgent

variable (float : String → Option Number) (myAgent_uuid : UUID)

/-! ## The device map -/

/-- The id of a chassis: the UUID of the agent and the name of the chassis. -/
def deviceId (chassisName : String) : String := myAgent_uuid.toString ++ "-" ++ chassisName

/-- The id of a sensor, which is made of the id of its chassis and its own name. -/
def sensorId (chassisName sensorName : String) : String :=
  myAgent_uuid.toString ++ "-" ++ chassisName ++ "-" ++ sensorName

/-- The same for a temperature and for a fan; only the id and the name tell one sensor from
another. -/
def sensor (chassisName sensorName : String) : Sensor where
  uuid := none
  id := sensorId myAgent_uuid chassisName sensorName
  name := sensorName
  collectionFrequencyMin := none
  collectionFrequencyMax := none
  collectionFrequencyDefault := none
  measuringAccuracy := none
  unit := none
  type := some "Counter"
  valueRangeMin := some (.finite 0)
  valueRangeMax := some (.finite 100)
  changeFrequency := none
  currentCollectionFrequency := some (.finite 1)
  storageTime := some 1

/-- One chassis, with its temperatures and fans. -/
def device (chassis : Chassis) : Device where
  uuid := none
  id := deviceId myAgent_uuid chassis.name
  name := chassis.name
  type := "Redfish iLO"
  location := "unknown"
  sensors := chassis.temperatures.keys.map (sensor myAgent_uuid chassis.name)
    ++ chassis.fans.keys.map (sensor myAgent_uuid chassis.name)

/-- The devices of all chassis, in the order of the tree. -/
def createMyDeviceMap (tree : List Chassis) : DeviceList :=
  ⟨myAgent_uuid, tree.map (device myAgent_uuid)⟩

/-! ## `send_data` -/

section
variable (uuids : Dict String SensorUuids) (timestamp : ℤ)

/-- One record of `send_data`.  Neither a sensor that is not found in the response nor a value that
is no number is caught. -/
def record (chassisName sensor : String) (value : Option Number) : Option SendTimeSeriesDruid := do
  let sensor_uuid ← sensorUuid? uuids (deviceId myAgent_uuid chassisName)
    (sensorId myAgent_uuid chassisName sensor)
  let value ← value
  some ⟨timestamp, sensor_uuid, value⟩

/-- The body of the loop over the chassis; each record comes with the reading it is of. -/
def chassisRecords (chassis : Chassis × ℕ) : Option (List (Reading × SendTimeSeriesDruid)) := do
  let _chassis_uuid ← uuids.get? (deviceId myAgent_uuid chassis.1.name)
  let temperatures ← chassis.1.temperatures.entries.mapM fun (sensor, value) =>
    (record myAgent_uuid uuids timestamp chassis.1.name sensor (float value)).map
      (⟨chassis.2, .temperature, sensor⟩, ·)
  let fans ← chassis.1.fans.entries.mapM fun (sensor, value) =>
    (record myAgent_uuid uuids timestamp chassis.1.name sensor
      ((firstWord value).bind float)).map (⟨chassis.2, .fan, sensor⟩, ·)
  some (temperatures ++ fans)

/-- `record_list` of one pass, chassis by chassis.  One lookup that fails ends the pass without a
list. -/
def recordList (tree : List Chassis) : Option (List (Reading × SendTimeSeriesDruid)) :=
  (tree.zipIdx.mapM (chassisRecords float myAgent_uuid uuids timestamp)).map List.flatten

end

/-- `send_data` in its loop: the agent, and the record lists made so far. -/
structure Sending (Bytes : Type) where
  agent : AgentCommon Bytes
  produced : List (List (Reading × SendTimeSeriesDruid))

section
variable {Bytes : Type} (S : MessageSerializer Bytes) (getsizeof : ℕ → ℕ) (args : SendArgs)
  (uuids : Dict String SensorUuids)

/-- The passes of `send_data`, each with its time and the tree it reads.  Nothing follows once the
limit has ended the process. -/
def sendData : List (ℤ × List Chassis) → Sending Bytes → Option (Sending Bytes)
  | [], s => some s
  | (timestamp, tree) :: passes, s =>
      if s.agent.exited then some s
      else do
        let record_list ← recordList float myAgent_uuid uuids timestamp tree
        sendData passes ⟨s.agent.send S getsizeof args (record_list.map Prod.snd),
          s.produced ++ [record_list]⟩

end

/-! ## The registered ids -/

section
variable {myAgent_uuid}

lemma deviceId_injective : Function.Injective (deviceId myAgent_uuid) :=
  fun _ _ h => (String.append_right_inj _).mp h

lemma sensorId_injective (chassisName : String) :
    Function.Injective (sensorId myAgent_uuid chassisName) :=
  fun _ _ h => (String.append_right_inj _).mp h

/-- **The registered ids**, in the order of the tree. -/
theorem ids_deviceMap (tree : List Chassis) :
    (createMyDeviceMap myAgent_uuid tree).devices.map Device.ids = tree.map fun c =>
      (deviceId myAgent_uuid c.name, c.sensorNames.map (sensorId myAgent_uuid c.name)) := by
  rw [createMyDeviceMap, List.map_map]
  refine List.map_congr_left fun c _ => ?_
  simp [Device.ids, device, Chassis.sensorNames, Function.comp_def, sensor]

end

/-- No two chassis share a name, and in no chassis a temperature and a fan do. -/
structure SeparateNames (tree : List Chassis) : Prop where
  chassis : (tree.map Chassis.name).Nodup
  sensors : ∀ c ∈ tree, c.temperatures.keys.Disjoint c.fans.keys

/-- **The ids are as distinct as the names**: they are made of nothing else, under one agent. -/
theorem distinctIds_iff_separateNames {tree : List Chassis} {ds : List Device}
    (hids : ds.map Device.ids = tree.map fun c =>
      (deviceId myAgent_uuid c.name, c.sensorNames.map (sensorId myAgent_uuid c.name))) :
    DistinctIds ds ↔ SeparateNames tree := by
  have hdevices : ((ds.map Device.ids).map Prod.fst).Nodup ↔ (tree.map Chassis.name).Nodup := by
    have hmap : (ds.map Device.ids).map Prod.fst
        = (tree.map Chassis.name).map (deviceId myAgent_uuid) := by
      rw [hids, List.map_map, List.map_map]
      rfl
    rw [hmap, List.nodup_map_iff deviceId_injective]
  have hsensors : (∀ x ∈ ds.map Device.ids, x.2.Nodup) ↔
      ∀ c ∈ tree, c.temperatures.keys.Disjoint c.fans.keys := by
    rw [hids, List.forall_mem_map]
    refine forall₂_congr fun c _ => ?_
    rw [List.nodup_map_iff (sensorId_injective c.name), Chassis.sensorNames, List.nodup_append']
    exact ⟨fun h => h.2.2, fun h => ⟨c.temperatures.nodupKeys, c.fans.nodupKeys, h⟩⟩
  rw [distinctIds_iff, hdevices, hsensors]
  exact ⟨fun h => ⟨h.1, h.2⟩, fun h => ⟨h.chassis, h.sensors⟩⟩

/-! ## The UUIDs in the response -/

section
variable {myAgent_uuid : UUID} {uuids : Dict String SensorUuids} {tree : List Chassis}

variable (myAgent_uuid) in
/-- Every sensor of the tree has a UUID of its own in the response. -/
structure Identified (uuids : Dict String SensorUuids) (tree : List Chassis) : Prop where
  device : ∀ c ∈ tree, (uuids.get? (deviceId myAgent_uuid c.name)).isSome
  sensor : ∀ c ∈ tree, ∀ n ∈ c.sensorNames, (sensorUuid? uuids (deviceId myAgent_uuid c.name)
    (sensorId myAgent_uuid c.name n)).isSome
  distinct : ∀ c ∈ tree, ∀ n ∈ c.sensorNames, ∀ c' ∈ tree, ∀ n' ∈ c'.sensorNames,
    sensorUuid? uuids (deviceId myAgent_uuid c.name) (sensorId myAgent_uuid c.name n)
      = sensorUuid? uuids (deviceId myAgent_uuid c'.name) (sensorId myAgent_uuid c'.name n') →
    c.name = c'.name ∧ n = n'

/-- Every sensor of the tree is among the devices. -/
lemma exists_sensor {ds : List Device} (hids : ds.map Device.ids = tree.map fun c =>
      (deviceId myAgent_uuid c.name, c.sensorNames.map (sensorId myAgent_uuid c.name)))
    {c : Chassis} (hc : c ∈ tree) : ∃ d ∈ ds, d.id = deviceId myAgent_uuid c.name ∧
      ∀ n ∈ c.sensorNames, ∃ s ∈ d.sensors, s.id = sensorId myAgent_uuid c.name n := by
  have hmem := hids ▸ List.mem_map_of_mem (f := fun c : Chassis =>
    (deviceId myAgent_uuid c.name, c.sensorNames.map (sensorId myAgent_uuid c.name))) hc
  obtain ⟨d, hd, hid, hsensors⟩ := exists_of_ids hmem
  exact ⟨d, hd, hid, fun n hn => hsensors _ (List.mem_map_of_mem hn)⟩

/-- **The device map is identified**, once devices with its ids are stored, these are distinct, and
so are their UUIDs. -/
theorem identified {ds : List Device} (hids : ds.map Device.ids = tree.map fun c =>
      (deviceId myAgent_uuid c.name, c.sensorNames.map (sensorId myAgent_uuid c.name)))
    (hdistinct : DistinctIds ds) (hsome : ∀ u ∈ uuidsOf ds, u.isSome) (hnd : (uuidsOf ds).Nodup) :
    Identified myAgent_uuid (deviceUuids ds) tree where
  device c hc := by
    obtain ⟨d, hd, hid, -⟩ := exists_sensor hids hc
    exact hid ▸ isSome_get?_deviceUuids hd
  sensor c hc n hn := by
    obtain ⟨d, hd, hid, hsensors⟩ := exists_sensor hids hc
    obtain ⟨s, hs, hsid⟩ := hsensors n hn
    exact hid ▸ hsid ▸ isSome_sensorUuid_response hdistinct hsome hd hs
  distinct c hc n hn c' hc' n' hn' heq := by
    obtain ⟨d, hd, hid, hsensors⟩ := exists_sensor hids hc
    obtain ⟨s, hs, hsid⟩ := hsensors n hn
    obtain ⟨d', hd', hid', hsensors'⟩ := exists_sensor hids hc'
    obtain ⟨s', hs', hsid'⟩ := hsensors' n' hn'
    rw [← hid, ← hsid, ← hid', ← hsid'] at heq
    obtain ⟨rfl, rfl⟩ := sensorUuid_response_inj hdistinct hnd hd hd' hs hs' heq
    have hname : c.name = c'.name := deviceId_injective (hid.symm.trans hid')
    rw [hname] at hsid
    exact ⟨hname, sensorId_injective c'.name (hsid.symm.trans hsid')⟩

end

/-! ## The records of a pass -/

section
variable {float : String → Option Number} {myAgent_uuid : UUID} {uuids : Dict String SensorUuids}
  {timestamp : ℤ} {tree tree' : List Chassis} {x y : Reading × SendTimeSeriesDruid}

variable (myAgent_uuid uuids) in
/-- A record of a reading of the tree, under the UUID that the response has for its sensor. -/
def Origin (tree : List Chassis) (x : Reading × SendTimeSeriesDruid) : Prop :=
  ∃ c, tree[x.1.chassis]? = some c ∧ x.1.sensor ∈ c.sensorsOf x.1.kind ∧
    sensorUuid? uuids (deviceId myAgent_uuid c.name)
      (sensorId myAgent_uuid c.name x.1.sensor) = some x.2.sensorUuid

lemma record_sensorUuid {chassisName sensor : String} {value : Option Number}
    {r : SendTimeSeriesDruid}
    (h : record myAgent_uuid uuids timestamp chassisName sensor value = some r) :
    sensorUuid? uuids (deviceId myAgent_uuid chassisName) (sensorId myAgent_uuid chassisName sensor)
      = some r.sensorUuid := by
  obtain ⟨u, hu, hrest⟩ := Option.bind_eq_some_iff.mp h
  obtain ⟨v, -, hr⟩ := Option.bind_eq_some_iff.mp hrest
  obtain rfl := Option.some.inj hr
  exact hu

/-- **Where the records of a pass come from**: each is of a reading of the tree, under the UUID that
the response has for its sensor. -/
theorem origin_recordList {l : List (Reading × SendTimeSeriesDruid)}
    (h : recordList float myAgent_uuid uuids timestamp tree = some l) (hx : x ∈ l) :
    Origin myAgent_uuid uuids tree x := by
  obtain ⟨ls, hls, rfl⟩ := Option.map_eq_some_iff.mp h
  obtain ⟨l', hl', hxl'⟩ := List.mem_flatten.mp hx
  obtain ⟨⟨c, i⟩, hci, hc⟩ := mem_of_mapM hls l' hl'
  have hplace : tree[i]? = some c := List.mem_zipIdx_iff_getElem?.mp hci
  obtain ⟨-, -, hrest⟩ := Option.bind_eq_some_iff.mp hc
  obtain ⟨temperatures, htemperatures, hrest⟩ := Option.bind_eq_some_iff.mp hrest
  obtain ⟨fans, hfans, hl⟩ := Option.bind_eq_some_iff.mp hrest
  obtain rfl := Option.some.inj hl
  rcases List.mem_append.mp hxl' with hx | hx
  · obtain ⟨⟨n, v⟩, hn, hr⟩ := mem_of_mapM htemperatures x hx
    obtain ⟨r, hrecord, rfl⟩ := Option.map_eq_some_iff.mp hr
    exact ⟨c, hplace, List.mem_map_of_mem (f := Prod.fst) hn, record_sensorUuid hrecord⟩
  · obtain ⟨⟨n, v⟩, hn, hr⟩ := mem_of_mapM hfans x hx
    obtain ⟨r, hrecord, rfl⟩ := Option.map_eq_some_iff.mp hr
    exact ⟨c, hplace, List.mem_map_of_mem (f := Prod.fst) hn, record_sensorUuid hrecord⟩

/-- A pass makes one record for each reading, in order. -/
lemma readings_recordList {l : List (Reading × SendTimeSeriesDruid)}
    (h : recordList float myAgent_uuid uuids timestamp tree = some l) :
    l.map Prod.fst = readings tree := by
  have hchassis : ∀ {c : Chassis × ℕ} {l : List (Reading × SendTimeSeriesDruid)},
      chassisRecords float myAgent_uuid uuids timestamp c = some l →
        l.map Prod.fst = Chassis.readings c := by
    rintro ⟨c, i⟩ l hc
    obtain ⟨-, -, hrest⟩ := Option.bind_eq_some_iff.mp hc
    obtain ⟨temperatures, htemperatures, hrest⟩ := Option.bind_eq_some_iff.mp hrest
    obtain ⟨fans, hfans, hl⟩ := Option.bind_eq_some_iff.mp hrest
    obtain rfl := Option.some.inj hl
    have hfirst : ∀ {f : String × String → Option SendTimeSeriesDruid} {kind : ReadingKind}
        {entries : List (String × String)} {xs : List (Reading × SendTimeSeriesDruid)},
        entries.mapM (fun e => (f e).map ((⟨i, kind, e.1⟩ : Reading), ·)) = some xs →
          xs.map Prod.fst = entries.map fun e => ⟨i, kind, e.1⟩ := fun hxs =>
      map_of_mapM (fun e x hx => by
        obtain ⟨r, -, rfl⟩ := Option.map_eq_some_iff.mp hx
        rfl) hxs
    rw [List.map_append, hfirst htemperatures, hfirst hfans, Chassis.readings, Dict.keys, Dict.keys,
      List.map_map, List.map_map]
    rfl
  obtain ⟨ls, hls, rfl⟩ := Option.map_eq_some_iff.mp h
  rw [List.map_flatten, map_of_mapM (fun c l hc => hchassis hc) hls,
    readings, List.flatMap_def]

/-- Only the names of a tree matter. -/
lemma exists_sameNames (hnames : tree'.map Chassis.names = tree.map Chassis.names) {i : ℕ}
    {c : Chassis} (hc : tree'[i]? = some c) : ∃ c', tree[i]? = some c' ∧ c'.names = c.names := by
  have h := congrArg (fun l => l[i]?) hnames
  rw [List.getElem?_map, List.getElem?_map, hc] at h
  exact Option.map_eq_some_iff.mp h.symm

lemma sensorsOf_of_names {c c' : Chassis} (h : c'.names = c.names) (kind : ReadingKind) :
    c'.sensorsOf kind = c.sensorsOf kind := by
  obtain ⟨-, hrest⟩ := Prod.mk.inj h
  obtain ⟨htemperatures, hfans⟩ := Prod.mk.inj hrest
  cases kind with
  | temperature => exact htemperatures
  | fan => exact hfans

lemma readings_of_names (hnames : tree'.map Chassis.names = tree.map Chassis.names) :
    readings tree' = readings tree := by
  have hreadings : ∀ tree : List Chassis, readings tree
      = (tree.map Chassis.names).zipIdx.flatMap fun x =>
        x.1.2.1.map (⟨x.2, .temperature, ·⟩) ++ x.1.2.2.map (⟨x.2, .fan, ·⟩) := by
    intro tree
    rw [readings, List.zipIdx_map, List.flatMap_map]
    rfl
  rw [hreadings, hreadings, hnames]

lemma Origin.of_names (hnames : tree'.map Chassis.names = tree.map Chassis.names)
    (h : Origin myAgent_uuid uuids tree' x) : Origin myAgent_uuid uuids tree x := by
  obtain ⟨c, hc, hsensor, huuid⟩ := h
  obtain ⟨c', hc', heq⟩ := exists_sameNames hnames hc
  refine ⟨c', hc', ?_, ?_⟩
  · rwa [sensorsOf_of_names heq]
  · rwa [(Prod.mk.inj heq).1]

lemma sensorsOf_subset (c : Chassis) : ∀ kind, c.sensorsOf kind ⊆ c.sensorNames
  | .temperature => List.subset_append_left ..
  | .fan => List.subset_append_right ..

/-- A sensor of a chassis is a temperature or a fan, not both. -/
lemma SeparateNames.kind (h : SeparateNames tree) {c : Chassis} (hc : c ∈ tree) {n : String} :
    ∀ {kind kind' : ReadingKind}, n ∈ c.sensorsOf kind → n ∈ c.sensorsOf kind' → kind = kind'
  | .temperature, .temperature, _, _ => rfl
  | .temperature, .fan, hn, hn' => absurd hn' (h.sensors c hc hn)
  | .fan, .temperature, hn, hn' => absurd hn (h.sensors c hc hn')
  | .fan, .fan, _, _ => rfl

/-- **A UUID stands for one reading**, if the names are separate, so that a consumer can tell the
readings apart. -/
theorem reading_eq_of_sensorUuid (hident : Identified myAgent_uuid uuids tree)
    (hseparate : SeparateNames tree) (hx : Origin myAgent_uuid uuids tree x)
    (hy : Origin myAgent_uuid uuids tree y) (h : x.2.sensorUuid = y.2.sensorUuid) :
    x.1 = y.1 := by
  obtain ⟨c, hc, hsensor, huuid⟩ := hx
  obtain ⟨c', hc', hsensor', huuid'⟩ := hy
  obtain ⟨hname, hn⟩ := hident.distinct c (List.mem_of_getElem? hc) _
    (sensorsOf_subset c _ hsensor) c' (List.mem_of_getElem? hc') _
    (sensorsOf_subset c' _ hsensor') (huuid.trans (h ▸ huuid'.symm))
  -- the names of the chassis tell their places
  obtain ⟨hi, rfl⟩ := List.getElem?_eq_some_iff.mp hc
  obtain ⟨hj, rfl⟩ := List.getElem?_eq_some_iff.mp hc'
  have hi' : x.1.chassis < (tree.map Chassis.name).length := by simpa using hi
  have hj' : y.1.chassis < (tree.map Chassis.name).length := by simpa using hj
  have hplace : x.1.chassis = y.1.chassis := by
    refine hseparate.chassis.getElem_inj_iff.mp
      (show (tree.map Chassis.name)[x.1.chassis] = (tree.map Chassis.name)[y.1.chassis] from ?_)
    simpa using hname
  have hkind : x.1.kind = y.1.kind := by
    refine hseparate.kind (List.getElem_mem hi) hsensor ?_
    rw [hn]
    simpa only [hplace] using hsensor'
  obtain ⟨⟨i, k, n⟩, r⟩ := x
  obtain ⟨⟨j, k', n'⟩, r'⟩ := y
  simp only at hplace hkind hn
  rw [hplace, hkind, hn]

/-! ## The passes -/

variable (float) in
/-- Every value of a tree is a number: `float` reads it, or the first word of it in the case of a
fan. -/
def Readable (tree : List Chassis) : Prop :=
  ∀ c ∈ tree, (∀ e ∈ c.temperatures.entries, (float e.2).isSome) ∧
    ∀ e ∈ c.fans.entries, ((firstWord e.2).bind float).isSome

/-- What is identified is so by the names, so another tree with the same names will do. -/
lemma Identified.of_names (hnames : tree'.map Chassis.names = tree.map Chassis.names)
    (h : Identified myAgent_uuid uuids tree) : Identified myAgent_uuid uuids tree' := by
  have hsame : ∀ c ∈ tree', ∃ c' ∈ tree, c'.name = c.name ∧ c'.sensorNames = c.sensorNames := by
    intro c hc
    obtain ⟨i, hi⟩ := List.mem_iff_getElem?.mp hc
    obtain ⟨c', hc', heq⟩ := exists_sameNames hnames hi
    refine ⟨c', List.mem_of_getElem? hc', (Prod.mk.inj heq).1, ?_⟩
    exact congrArg₂ (· ++ ·) (sensorsOf_of_names heq .temperature) (sensorsOf_of_names heq .fan)
  refine ⟨fun c hc => ?_, fun c hc n hn => ?_, fun c₁ hc₁ n₁ hn₁ c₂ hc₂ n₂ hn₂ heq => ?_⟩
  · obtain ⟨c', hc', hname, -⟩ := hsame c hc
    exact hname ▸ h.device c' hc'
  · obtain ⟨c', hc', hname, hsensors⟩ := hsame c hc
    exact hname ▸ h.sensor c' hc' n (hsensors ▸ hn)
  · obtain ⟨c₁', hc₁', hname₁, hsensors₁⟩ := hsame c₁ hc₁
    obtain ⟨c₂', hc₂', hname₂, hsensors₂⟩ := hsame c₂ hc₂
    rw [← hname₁, ← hname₂] at heq ⊢
    exact h.distinct c₁' hc₁' n₁ (hsensors₁ ▸ hn₁) c₂' hc₂' n₂ (hsensors₂ ▸ hn₂) heq

/-- No lookup fails. -/
lemma isSome_recordList (hident : Identified myAgent_uuid uuids tree)
    (hreadable : Readable float tree) (timestamp : ℤ) :
    (recordList float myAgent_uuid uuids timestamp tree).isSome := by
  have hrecord : ∀ c ∈ tree, ∀ n ∈ c.sensorNames, ∀ value : Option Number, value.isSome →
      (record myAgent_uuid uuids timestamp c.name n value).isSome := by
    intro c hc n hn value hvalue
    obtain ⟨u, hu⟩ := Option.isSome_iff_exists.mp (hident.sensor c hc n hn)
    obtain ⟨v, rfl⟩ := Option.isSome_iff_exists.mp hvalue
    rw [record, hu]
    rfl
  rw [recordList, Option.isSome_map]
  refine isSome_mapM fun ⟨c, i⟩ hci => ?_
  have hc : c ∈ tree := List.mem_of_getElem? (List.mem_zipIdx_iff_getElem?.mp hci)
  obtain ⟨d, hd⟩ := Option.isSome_iff_exists.mp (hident.device c hc)
  have htemperatures := isSome_mapM (l := c.temperatures.entries)
    (f := fun e => (record myAgent_uuid uuids timestamp c.name e.1 (float e.2)).map
      fun r => ((⟨i, .temperature, e.1⟩ : Reading), r)) fun e he => by
    rw [Option.isSome_map]
    exact hrecord c hc e.1 (List.mem_append_left _ (List.mem_map_of_mem he)) _
      ((hreadable c hc).1 e he)
  have hfans := isSome_mapM (l := c.fans.entries)
    (f := fun e => (record myAgent_uuid uuids timestamp c.name e.1
      ((firstWord e.2).bind float)).map fun r => ((⟨i, .fan, e.1⟩ : Reading), r)) fun e he => by
    rw [Option.isSome_map]
    exact hrecord c hc e.1 (List.mem_append_right _ (List.mem_map_of_mem he)) _
      ((hreadable c hc).2 e he)
  obtain ⟨ts, hts⟩ := Option.isSome_iff_exists.mp htemperatures
  obtain ⟨fs, hfs⟩ := Option.isSome_iff_exists.mp hfans
  rw [chassisRecords, hd]
  show Option.isSome (Option.bind (List.mapM _ _) _) = true
  rw [hts, Option.bind_some]
  show Option.isSome (Option.bind (List.mapM _ _) _) = true
  rw [hfs]
  rfl

variable {Bytes : Type} {S : MessageSerializer Bytes} {getsizeof : ℕ → ℕ} {args : SendArgs}

/-- **The run.**  Every record made is one of a reading of the tree, as long as the names stay what
they were. -/
theorem origin_sendData : ∀ {passes : List (ℤ × List Chassis)} {s t : Sending Bytes},
    (∀ p ∈ passes, p.2.map Chassis.names = tree.map Chassis.names) →
    (∀ x ∈ s.produced.flatten, Origin myAgent_uuid uuids tree x) →
    sendData float myAgent_uuid S getsizeof args uuids passes s = some t →
    ∀ x ∈ t.produced.flatten, Origin myAgent_uuid uuids tree x
  | [], s, t, _, hs, h => by
      obtain rfl := Option.some.inj h
      exact hs
  | (timestamp, tree') :: passes, s, t, hpasses, hs, h => by
      rw [sendData] at h
      split_ifs at h
      · obtain rfl := Option.some.inj h
        exact hs
      · obtain ⟨l, hl, hrest⟩ := Option.bind_eq_some_iff.mp h
        refine origin_sendData (fun p hp => hpasses p (List.mem_cons_of_mem _ hp)) ?_ hrest
        intro x hx
        rw [List.flatten_append, List.flatten_singleton] at hx
        rcases List.mem_append.mp hx with hx | hx
        · exact hs x hx
        · exact (origin_recordList hl hx).of_names (hpasses _ List.mem_cons_self)

/-- No pass raises, as long as every value is a number. -/
lemma isSome_sendData (hident : Identified myAgent_uuid uuids tree) :
    ∀ (passes : List (ℤ × List Chassis)) (s : Sending Bytes),
      (∀ p ∈ passes, p.2.map Chassis.names = tree.map Chassis.names) →
      (∀ p ∈ passes, Readable float p.2) →
      (sendData float myAgent_uuid S getsizeof args uuids passes s).isSome
  | [], s, _, _ => rfl
  | (timestamp, tree') :: passes, s, hnames, hreadable => by
      rw [sendData]
      split_ifs
      · rfl
      · obtain ⟨l, hl⟩ := Option.isSome_iff_exists.mp
          (isSome_recordList (hident.of_names (hnames _ List.mem_cons_self))
            (hreadable _ List.mem_cons_self) timestamp)
        rw [hl]
        exact isSome_sendData hident passes _ (fun p hp => hnames p (List.mem_cons_of_mem _ hp))
          fun p hp => hreadable p (List.mem_cons_of_mem _ hp)

end

/-! ## From the tree to the records -/

section
variable {Bytes : Type} (S : MessageSerializer Bytes) (getsizeof : ℕ → ℕ) (args : SendArgs)
  (float : String → Option Number) (tree : List Chassis) (agent : AgentCommon Bytes)

/-- What some passes of `send_data` have made of `agent`, as to the readings and to what was
sent. -/
structure Passed (passes : ℕ) (s : Sending Bytes) : Prop where
  /-- the records made are those that have been handed to `mqtt_send_triplet_batch` -/
  sent : s.agent = agent.sendAll S getsizeof args (s.produced.map (List.map Prod.snd))
  /-- every pass makes one record for each reading of the tree -/
  readings : ∀ l ∈ s.produced, l.map Prod.fst = readings tree
  /-- no pass is made after the limit has ended the process, and none is left out before -/
  produced : s.produced.length ≤ passes
  running : s.agent.exited = false → s.produced.length = passes

/-- What comes of `send_data`: each pass makes a record of each reading and hands them over to be
sent, different readings under different UUIDs, and it only stops at a value that is no number. -/
structure SendsSeparately (passes : List (ℤ × List Chassis)) (run : Option (Sending Bytes)) :
    Prop where
  runs : (∀ p ∈ passes, Readable float p.2) → run.isSome
  passed : ∀ s, run = some s → Passed S getsizeof args tree agent passes.length s
  separate : ∀ s, run = some s → ∀ x ∈ s.produced.flatten, ∀ y ∈ s.produced.flatten,
    x.2.sensorUuid = y.2.sensorUuid → x.1 = y.1

variable {S getsizeof args float tree agent}

/-- **The passes**, after `n` others: a pass of a running agent makes its list and hands it over,
and a pass of one that is gone is none. -/
theorem passed_sendData {myAgent_uuid : UUID} {uuids : Dict String SensorUuids} :
    ∀ {passes : List (ℤ × List Chassis)} {n : ℕ} {s t : Sending Bytes},
      (∀ p ∈ passes, p.2.map Chassis.names = tree.map Chassis.names) →
      Passed S getsizeof args tree agent n s → s.produced.length = n →
      sendData float myAgent_uuid S getsizeof args uuids passes s = some t →
      Passed S getsizeof args tree agent (n + passes.length) t
  | [], n, s, t, _, hs, _, h => by
      obtain rfl := Option.some.inj h
      exact hs
  | (timestamp, tree') :: passes, n, s, t, hpasses, hs, hn, h => by
      rw [sendData] at h
      split_ifs at h with hexit
      · obtain rfl := Option.some.inj h
        exact ⟨hs.sent, hs.readings, hs.produced.trans (Nat.le_add_right ..),
          fun hrunning => absurd (hexit.symm.trans hrunning) (by simp)⟩
      · obtain ⟨l, hl, hrest⟩ := Option.bind_eq_some_iff.mp h
        rw [List.length_cons, Nat.add_comm passes.length, ← Nat.add_assoc]
        have hlength : (s.produced ++ [l]).length = n + 1 := by
          rw [List.length_append, hn, List.length_singleton]
        refine passed_sendData (fun p hp => hpasses p (List.mem_cons_of_mem _ hp))
          ⟨?_, fun l' hl' => ?_, hlength.le, fun _ => hlength⟩ hlength hrest
        · rw [List.map_append, List.map_singleton, AgentCommon.sendAll_concat, ← hs.sent]
        · rcases List.mem_append.mp hl' with hl' | hl'
          · exact hs.readings l' hl'
          · rw [List.mem_singleton.mp hl', readings_recordList hl]
            exact readings_of_names (hpasses _ List.mem_cons_self)

end

/-- Every device and sensor that Redis has for the agent has its own entry in the response. -/
def OwnEntries (uuids : Dict String SensorUuids) (redis : Redis) (u : UUID) : Prop :=
  ∃ agent, redis.myAgentsKey.get? (agentKey (some u)) = some agent ∧ Shows uuids agent.devices

variable {Bytes : Type} (S : MessageSerializer Bytes) (E : Environment) (getsizeof : ℕ → ℕ)
  (args : SendArgs) (float : String → Option Number) (u : UUID)

/-- The devices are registered with a framework that has been running for some time. -/
def registerChassis (tree : List Chassis) (acts : List (Interleaving.Action Request Oracle)) :
    DeviceRegistration × Alone Redis :=
  mqttDeviceRegistration S E (createMyDeviceMap u tree) (.start u)
    (.start (runFramework acts).world.redis)

/-- The agent registers the devices of a tree and then reads the tree over and over: every device
and sensor has its own entry, and every reading is sent, under a UUID of its own. -/
def SeparateIdentities (tree : List Chassis) (acts : List (Interleaving.Action Request Oracle))
    (passes : List (ℤ × List Chassis)) (agent : AgentCommon Bytes) : Prop :=
  let (a, w) := registerChassis S E u tree acts
  OwnEntries a.myDeviceSensorUUIDsMap w.store u ∧
    SendsSeparately S getsizeof args float tree agent passes
      (sendData float u S getsizeof args a.myDeviceSensorUUIDsMap passes ⟨agent, []⟩)

/-- **Separate identities**, exactly when the names in the tree are separate.  The framework has
been running for some time, and the agent has its answer; every pass may show other values, but not
other names. -/
theorem separate_identities_iff (acts : List (Interleaving.Action Request Oracle))
    (tree : List Chassis) (passes : List (ℤ × List Chassis)) (agent : AgentCommon Bytes)
    (hpasses : ∀ p ∈ passes, p.2.map Chassis.names = tree.map Chassis.names)
    (hdistinct : E.Distinct (slots (createMyDeviceMap u tree).devices))
    (hstored : (registerChassis S E u tree acts).1.myDeviceRegistered = true) :
    SeparateIdentities S E getsizeof args float u tree acts passes agent ↔ SeparateNames tree := by
  have hreg : Registered S E (createMyDeviceMap u tree) (.start (runFramework acts).world.redis)
      (registerChassis S E u tree acts).1 (registerChassis S E u tree acts).2 :=
    registered_of_stored rfl rfl hstored
  obtain ⟨stored, hget, hdevices⟩ := hreg.stored (redisInvariant_run acts)
  have huuids : uuidsOf stored.devices
      = (E.next 0 (slots (createMyDeviceMap u tree).devices)).map some := by
    rw [hdevices]
    exact uuidsOf_registeredDevices
  have hids : stored.devices.map Device.ids = tree.map fun c =>
      (deviceId u c.name, c.sensorNames.map (sensorId u c.name)) := by
    rw [hdevices, ids_registeredDevices, ids_deviceMap]
  have hnd : (uuidsOf stored.devices).Nodup := huuids ▸ hdistinct.map (Option.some_injective UUID)
  have hsome : ∀ v ∈ uuidsOf stored.devices, v.isSome := by simp [huuids]
  have hmap : (registerChassis S E u tree acts).1.myDeviceSensorUUIDsMap
      = deviceUuids stored.devices := by rw [hreg.map, hdevices]
  show OwnEntries (registerChassis S E u tree acts).1.myDeviceSensorUUIDsMap
      (registerChassis S E u tree acts).2.store u ∧
        SendsSeparately S getsizeof args float tree agent passes (sendData float u S getsizeof args
          (registerChassis S E u tree acts).1.myDeviceSensorUUIDsMap passes ⟨agent, []⟩) ↔ _
  rw [hmap, ← distinctIds_iff_separateNames u hids]
  constructor
  · rintro ⟨⟨stored', hget', hshows⟩, -⟩
    obtain rfl := Option.some.inj (hget.symm.trans hget')
    exact hshows.distinctIds hnd
  · intro hdids
    have hident := identified hids hdids hsome hnd
    refine ⟨⟨stored, hget, shows_deviceUuids hdids⟩, isSome_sendData hident passes _ hpasses,
      fun s hs => ?_, fun s hs x hx y hy => ?_⟩
    · have hnone : Passed S getsizeof args tree agent 0 ⟨agent, []⟩ :=
        ⟨rfl, by simp, le_refl _, fun _ => rfl⟩
      simpa using passed_sendData hpasses hnone rfl hs
    have horigin := origin_sendData hpasses (by simp) hs
    exact reading_eq_of_sensorUuid hident ((distinctIds_iff_separateNames u hids).mp hdids)
      (horigin x hx) (horigin y hy)

/-- The agent `7` registers, and its handler comes to its end. -/
def afterRegistration : List (Interleaving.Action Request Oracle) :=
  [.arrive (.register ⟨"node1RedfishAgent11", "redfishAgent", "RedfishAgent", "", false⟩),
    .run 0 ⟨⟨7⟩, true⟩, .run 0 ⟨⟨7⟩, true⟩, .run 0 ⟨⟨7⟩, true⟩, .run 0 ⟨⟨7⟩, true⟩]

/-- A tree of two chassis with one temperature and one fan each. -/
def twoChassis (name name' : String) : List Chassis :=
  [⟨name, .ofEntries [("01-Inlet Ambient", "22")], .ofEntries [("Fan 1", "17 Percent")]⟩,
    ⟨name', .ofEntries [("01-Inlet Ambient", "23")], .ofEntries [("Fan 1", "16 Percent")]⟩]

/-- The numbers that the texts of these trees show, which `float` reads. -/
def shownNumber (text : String) : Option Number :=
  ([("22", .finite 22), ("17", .finite 17), ("23", .finite 23), ("16", .finite 16)] :
    List (String × Number)).lookup text

/-- Two chassis with different names, read twice.  Their temperatures have one name, and so do their
fans. -/
theorem separate_identities_two_chassis :
    SeparateIdentities structuralSerializer ⟨fun n => ⟨Fin.ofNat _ n⟩, fun _ => true⟩ listSizeof
      ⟨"ibswitch", -1, 512, ⟨7⟩, false⟩ shownNumber ⟨7⟩
      (twoChassis "Rack" "Enclosure") afterRegistration
      [(1000, twoChassis "Rack" "Enclosure"), (2000, twoChassis "Rack" "Enclosure")]
      (AgentCommon.start false 1 0) :=
  (separate_identities_iff structuralSerializer _ listSizeof _ _ ⟨7⟩ afterRegistration
    (twoChassis "Rack" "Enclosure") _ _ (by decide) (by decide) (by decide)).mpr
    ⟨by decide, fun c hc n hn => (by decide : ∀ c ∈ twoChassis "Rack" "Enclosure",
      ∀ n ∈ c.temperatures.keys, n ∉ c.fans.keys) c hc n hn⟩

/-- Two chassis of one name share an entry of the response, and a pass of `send_data` sends the
temperature of the one and that of the other under one UUID. -/
theorem chassis_share_entry :
    let tree := twoChassis "Computer System Chassis" "Computer System Chassis"
    let (a, _) := registerChassis structuralSerializer ⟨fun n => ⟨Fin.ofNat _ n⟩, fun _ => true⟩ ⟨7⟩
      tree afterRegistration
    ¬ SeparateIdentities structuralSerializer ⟨fun n => ⟨Fin.ofNat _ n⟩, fun _ => true⟩ listSizeof
      ⟨"ibswitch", -1, 512, ⟨7⟩, false⟩ shownNumber ⟨7⟩ tree afterRegistration [(1000, tree)]
      (AgentCommon.start false 1 0) ∧
    ∃ x y : Reading × SendTimeSeriesDruid,
      (sendData shownNumber ⟨7⟩ structuralSerializer listSizeof ⟨"ibswitch", -1, 512, ⟨7⟩, false⟩
        a.myDeviceSensorUUIDsMap [(1000, tree)] ⟨AgentCommon.start false 1 0, []⟩).any
          (fun s => x ∈ s.produced.flatten ∧ y ∈ s.produced.flatten) = true ∧
      x.1 = ⟨0, .temperature, "01-Inlet Ambient"⟩ ∧ y.1 = ⟨1, .temperature, "01-Inlet Ambient"⟩ ∧
      x.2.sensorUuid = y.2.sensorUuid := by
  refine ⟨?_, (⟨0, .temperature, "01-Inlet Ambient"⟩, ⟨1000, ⟨4⟩, .finite 22⟩),
    (⟨1, .temperature, "01-Inlet Ambient"⟩, ⟨1000, ⟨4⟩, .finite 23⟩), by decide +kernel, rfl, rfl, rfl⟩
  rintro ⟨⟨agent, hget, hshows⟩, -⟩
  have hstored : (some agent).all (fun agent => (uuidsOf agent.devices).Nodup
      ∧ ¬ (agent.devices.map Device.id).Nodup) = true := by
    rw [← hget]
    decide
  rw [Option.all_some, decide_eq_true_eq] at hstored
  exact hstored.2 (hshows.distinctIds hstored.1).devices

end RedfishAgent

end KrakenMare
