import KrakenMare.Agent.Standing
import KrakenMare.Simulator.Counters

/-!
# The sensor UUIDs of a cluster

The UUID of a sensor is all that the records of an agent say about where they come from, so it has
to tell one agent from another.  An agent has the UUIDs that it has been told, and makes its
records under them, in the `send_data` of its kind; with the batch counter on a simulator makes
them under its own UUID.

The framework hands out UUIDs to requests, and a request is made for one uid: a registration says
the uid, and a device list the UUID that was given to it.  So what an agent holds can be traced
through the answer and its handler to the draw, and from there to the uid (`drawn_of_holds`); and
no UUID is drawn twice.

* `uuids_separate` — **agents with different uids have no UUID in common**, whenever they are
  looked at: not for themselves, and not for any of their devices and sensors.
* `holds_of_sends` — an agent makes records under UUIDs that it has.
* `records_separate` — the records of agents with different uids have different sensor UUIDs.

Two agents with one uid do share UUIDs; when this happens is in `Agent.Identity`.  Two sensors of
one agent may share one as well, which is the subject of `Redfish.DeviceMap`.
-/

namespace KrakenMare

open Lib Lib.Interleaving AgentRedisRepository MqttDeviceListListener Protocol

/-! ## The records of an agent -/

namespace IBswitchSimulator

section
variable {Bytes : Type} {S : MessageSerializer Bytes} {getsizeof : ℕ → ℕ} {args : SendArgs}
  {myAgent_uuid : UUID} {draws : ℕ → Draw}

/-- A record is about the agent, if it counts batches, or about a sensor. -/
lemma sensorUuid_record {reading : SwitchReading} {a : AgentCommon Bytes} {ibmetric : String}
    {r : SendTimeSeriesDruid} (h : record myAgent_uuid reading a ibmetric = some r) :
    r.sensorUuid = myAgent_uuid ∨ reading.sensor_uuid.get? ibmetric = some r.sensorUuid := by
  rw [record] at h
  split_ifs at h
  · obtain ⟨count, -, h⟩ := Option.bind_eq_some_iff.mp h
    obtain rfl := Option.some.inj h
    exact Or.inl rfl
  · obtain ⟨u, hu, h⟩ := Option.bind_eq_some_iff.mp h
    obtain ⟨v, -, h⟩ := Option.bind_eq_some_iff.mp h
    obtain rfl := Option.some.inj h
    exact Or.inr hu

/-- All records of a simulator are about the agent itself or about a sensor that is found in the
answer to its device list. -/
theorem sensorUuid_sendData {inventory : String → List Switch}
    {seedOutputDir : String → Option PerfQuery} {uuids : Dict String SensorUuids}
    {agent : AgentCommon Bytes} {n : ℕ} {t : Sending Bytes} (h : sendData inventory seedOutputDir
      uuids S getsizeof args myAgent_uuid draws agent n = some t) :
    ∀ r ∈ t.records, r.sensorUuid = myAgent_uuid ∨
      ∃ deviceId sensorId, sensorUuid? uuids deviceId sensorId = some r.sensorUuid := by
  obtain ⟨maps, seedMap, hmaps, -, hvisited⟩ := visited_sendData h
  refine Visited.keeps (P := fun s => ∀ r ∈ s.records, r.sensorUuid = myAgent_uuid ∨
    ∃ deviceId sensorId, sensorUuid? uuids deviceId sensorId = some r.sensorUuid)
    (fun {cmc guid s t} hs hvisit r hr => ?_) hvisited (by simp [Sending.records])
  rcases visit_cases hvisit with rfl | ⟨seed, sensor_uuid, l, -, huuid, hlist, -, hrecords, -⟩
  · exact hs r hr
  rw [hrecords, List.mem_append] at hr
  rcases hr with hr | hr
  · exact hs r hr
  · obtain ⟨m, -, hrecord⟩ := mem_of_mapM hlist r hr
    refine (sensorUuid_record hrecord).imp_right fun hm => ⟨guid, guid ++ "-" ++ m, ?_⟩
    have hsensor : maps.sensor? cmc guid m = some r.sensorUuid := by
      rw [UuidMaps.sensor?, huuid]
      exact hm
    exact (sensor_assembleUuidMap hmaps hsensor).2.2.2

end

end IBswitchSimulator

namespace RedfishAgent

section
variable {Bytes : Type} {S : MessageSerializer Bytes} {getsizeof : ℕ → ℕ} {args : SendArgs}
  {float : String → Option Number} {myAgent_uuid : UUID} {uuids : Dict String SensorUuids}

/-- All records of a Redfish agent are about a sensor that is found in the answer to its device
list. -/
theorem sensorUuid_sendData : ∀ {passes : List (ℤ × List Chassis)} {s t : Sending Bytes},
    (∀ x ∈ s.produced.flatten, ∃ deviceId sensorId,
      sensorUuid? uuids deviceId sensorId = some x.2.sensorUuid) →
    sendData float myAgent_uuid S getsizeof args uuids passes s = some t →
    ∀ x ∈ t.produced.flatten, ∃ deviceId sensorId,
      sensorUuid? uuids deviceId sensorId = some x.2.sensorUuid
  | [], s, t, hs, h => by
      obtain rfl := Option.some.inj h
      exact hs
  | (timestamp, tree) :: passes, s, t, hs, h => by
      rw [sendData] at h
      split_ifs at h
      · obtain rfl := Option.some.inj h
        exact hs
      · obtain ⟨l, hl, hrest⟩ := Option.bind_eq_some_iff.mp h
        refine sensorUuid_sendData (fun x hx => ?_) hrest
        rw [List.flatten_append, List.flatten_singleton, List.mem_append] at hx
        rcases hx with hx | hx
        · exact hs x hx
        · obtain ⟨c, -, -, huuid⟩ := origin_recordList hl hx
          exact ⟨_, _, huuid⟩

end

end RedfishAgent

namespace Cluster

section
variable {ι : Type} {C : Cluster ι} {Bytes : Type} {S : MessageSerializer Bytes} {u : UUID}

/-! ## No UUID in common -/

/-- The agent has `v`: it is its uuid, or that of one of its devices or sensors. -/
def Holds (a : Handshake) (v : UUID) : Prop :=
  a.myAgent_uuid = .uuid v ∨ ∃ id x, a.myDeviceSensorUUIDsMap.get? id = some x ∧
    (x.uuid = some v ∨ ∃ sensorId, x.sensorUuids.get? sensorId = some (some v))

/-- The request is made for the uid: a registration of it, or a device list under a uuid that it was
given. -/
def For (h : Past) (uid : String) : Request → Prop
  | .register m => m.uid = uid
  | .devices m => Assigned h uid m.uuid
  | .deregister _ => False

lemma mem_uuidsOf_of_get? {devices : List Device} {id : String} {x : SensorUuids} {v : UUID}
    (hx : (deviceUuids devices).get? id = some x)
    (hv : x.uuid = some v ∨ ∃ sensorId, x.sensorUuids.get? sensorId = some (some v)) :
    some v ∈ uuidsOf devices := by
  obtain ⟨d, hd, hentry⟩ := List.mem_map.mp (Dict.mem_of_get?_ofEntries hx)
  obtain ⟨rfl, rfl⟩ := Prod.mk.inj hentry
  refine List.mem_flatMap.mpr ⟨d, hd, ?_⟩
  rcases hv with hv | ⟨sensorId, hv⟩
  · exact hv ▸ List.mem_cons_self
  · obtain ⟨sensor, hsensor, hentry⟩ := List.mem_map.mp (Dict.mem_of_get?_ofEntries hv)
    obtain ⟨-, huuid⟩ := Prod.mk.inj hentry
    exact List.mem_cons_of_mem _ (huuid ▸ List.mem_map_of_mem hsensor)

/-- **What an agent has was drawn for its uid**: there is a handler of a request for the uid that
has drawn it. -/
theorem drawn_of_holds {h : Past} (hr : Reachable anyCall h) {uid : String} {a : Handshake}
    (hg : Genuine h uid a) {v : UUID} (hv : Holds a v) : ∃ j m,
      (j, (⟨.randomUUID, v⟩ : Answered Answer)) ∈ h.log ∧ h.messages[j]? = some m ∧
        For h uid m := by
  rcases hv with hv | ⟨id, x, hx, hv⟩
  · obtain ⟨j, m, id, hc, huid⟩ := hg.uuid v hv
    exact ⟨j, .register m, hc.mem_draw, hc.message, huid⟩
  · have hne : a.myDeviceSensorUUIDsMap ≠ ∅ := by
      intro hempty
      rw [hempty] at hx
      exact absurd hx (by simp)
    obtain ⟨u, j, r, ha, hmem, hmap⟩ := hg.map.resolve_left hne
    obtain ⟨⟨m, hm, rfl⟩, hr'⟩ := response_eq hr hmem
    obtain ⟨us, huuids, -, hdrawn⟩ := uuidsOf_assignment hr hmem
    have hmem' : some v ∈ us.map some := huuids ▸ mem_uuidsOf_of_get? (hr' ▸ hmap ▸ hx) hv
    obtain ⟨v', hv', hsame⟩ := List.mem_map.mp hmem'
    obtain rfl := Option.some.inj hsame
    exact ⟨j, .devices m, hdrawn v' hv', hm, ha⟩

/-- A request is made for one uid. -/
lemma For.uid_eq {h : Past} (hr : Reachable anyCall h) {uid uid' : String} {m : Request}
    (hm : For h uid m) (hm' : For h uid' m) : uid = uid' := by
  cases m with
  | register m => exact hm.symm.trans hm'
  | devices m => exact Assigned.uid_eq hr hm hm'
  | deregister m => exact absurd hm (by simp [For])

variable [DecidableEq ι] (C S) in
/-- **Separate UUIDs.**  Whenever two agents with different uids are looked at, they have no UUID in
common: not for themselves, and not for any of their devices and sensors. -/
theorem uuids_separate (myAgent_debug : ι → Bool) (events later : List (ClusterEvent ι)) {i k : ι}
    (hne : C.uid i ≠ C.uid k) (v : UUID) :
    ¬ (Holds ((C.run S myAgent_debug events).agents i).self v ∧
      Holds ((C.run S myAgent_debug (events ++ later)).agents k).self v) := by
  rintro ⟨hi, hk⟩
  obtain ⟨-, hs⟩ := sound_run C S myAgent_debug events
  obtain ⟨hr, hs'⟩ := sound_run C S myAgent_debug (events ++ later)
  have hext := extends_later C S myAgent_debug events later
  have hgi := ((hs.honest i).genuine _ List.mem_cons_self).mono hext
  have hgk := (hs'.honest k).genuine _ List.mem_cons_self
  obtain ⟨j, m, hdrawn, hm, hfor⟩ := drawn_of_holds hr hgi hi
  obtain ⟨j', m', hdrawn', hm', hfor'⟩ := drawn_of_holds hr hgk hk
  obtain rfl := drawn_unique hr hdrawn hdrawn'
  obtain rfl := Option.some.inj (hm.symm.trans hm')
  exact hne (For.uid_eq hr hfor hfor')

/-! ## What is sent -/

variable (C) in
/-- The agent `i` makes the record, in a `send_data` with what it has been told.  The random draws,
the readings, the seed files and the number of passes are any. -/
inductive Sends (i : ι) (a : Handshake) (r : SendTimeSeriesDruid) : Prop
  | simulator {Bytes : Type} {S : MessageSerializer Bytes} {getsizeof : ℕ → ℕ} {args : SendArgs}
      {seedOutputDir : String → Option PerfQuery} {draws : ℕ → IBswitchSimulator.Draw}
      {agent : AgentCommon Bytes} {n : ℕ} {u : UUID} {t : IBswitchSimulator.Sending Bytes}
      (hkind : (C.agent i).kind = .IBswitchSimulator) (huuid : a.myAgent_uuid = .uuid u)
      (hrun : IBswitchSimulator.sendData (C.inventory i) seedOutputDir a.myDeviceSensorUUIDsMap S
        getsizeof args u draws agent n = some t)
      (hr : r ∈ t.records)
  | redfish {Bytes : Type} {S : MessageSerializer Bytes} {getsizeof : ℕ → ℕ} {args : SendArgs}
      {float : String → Option Number} {agent : AgentCommon Bytes}
      {passes : List (ℤ × List Chassis)} {u : UUID} {t : RedfishAgent.Sending Bytes}
      (hkind : (C.agent i).kind = .RedfishAgent) (huuid : a.myAgent_uuid = .uuid u)
      (hrun : RedfishAgent.sendData float u S getsizeof args a.myDeviceSensorUUIDsMap passes
        ⟨agent, []⟩ = some t)
      (hr : r ∈ t.produced.flatten.map Prod.snd)

/-- A UUID that is found in the response is one the agent has. -/
lemma holds_of_sensorUuid {a : Handshake} {v : UUID} {deviceId sensorId : String}
    (h : sensorUuid? a.myDeviceSensorUUIDsMap deviceId sensorId = some v) : Holds a v := by
  obtain ⟨x, hx, h⟩ := Option.bind_eq_some_iff.mp h
  obtain ⟨w, hw, rfl⟩ := Option.bind_eq_some_iff.mp h
  exact Or.inr ⟨deviceId, x, hx, Or.inr ⟨sensorId, hw⟩⟩

/-- **An agent makes records under UUIDs that it has**: its own with the batch counter on, and
otherwise those in its map. -/
theorem holds_of_sends {i : ι} {a : Handshake} {r : SendTimeSeriesDruid} (h : C.Sends i a r) :
    Holds a r.sensorUuid := by
  cases h with
  | simulator hkind huuid hrun hr =>
      rcases IBswitchSimulator.sensorUuid_sendData hrun r hr with hagent | ⟨_, _, hsensor⟩
      · exact Or.inl (hagent ▸ huuid)
      · exact holds_of_sensorUuid hsensor
  | redfish hkind huuid hrun hr =>
      obtain ⟨x, hx, rfl⟩ := List.mem_map.mp hr
      obtain ⟨_, _, hsensor⟩ := RedfishAgent.sensorUuid_sendData (by simp) hrun x hx
      exact holds_of_sensorUuid hsensor

variable [DecidableEq ι] (C S) in
/-- **The records of two agents.**  If their uids differ, no record of one has the sensor UUID of a
record of the other, whenever the two are sent. -/
theorem records_separate (myAgent_debug : ι → Bool) (events later : List (ClusterEvent ι))
    {i k : ι} (hne : C.uid i ≠ C.uid k) {r r' : SendTimeSeriesDruid}
    (hr : C.Sends i ((C.run S myAgent_debug events).agents i).self r)
    (hr' : C.Sends k ((C.run S myAgent_debug (events ++ later)).agents k).self r') :
    r.sensorUuid ≠ r'.sensorUuid := by
  intro heq
  refine uuids_separate C S myAgent_debug events later hne r.sensorUuid ⟨holds_of_sends hr, ?_⟩
  rw [heq]
  exact holds_of_sends hr'

end

/-- A simulator with one switch, and a Redfish agent with one chassis. -/
def twoAgents : Cluster Bool where
  agent i := cond i ⟨.RedfishAgent, "node3", 13, by decide, by decide⟩
    ⟨.IBswitchSimulator, "node2", 12, by decide, by decide⟩
  inventory
    | _, "r1i0c-ibswitch" => [⟨"0x1"⟩]
    | _, _ => []
  template _ := ⟨none, "", "", "", "", ibmetrics.map plainSensor⟩
  tree _ := [⟨"ilo", .ofEntries [("inlet", "21")], ∅⟩]

/-- An agent registers, has its device with `k` sensors registered, and sends data.  Its handlers
are `j` and `j + 1`, and there are `n` entries in the log before. -/
def handshake (i : Bool) (k j n : ℕ) : List (ClusterEvent Bool) :=
  List.replicate 3 (.agent i .main) ++ [.request i 0]
    ++ (List.range 4).map (fun t => .run j ⟨⟨Fin.ofNat _ (n + t)⟩, true⟩)
    ++ [.deliver i (n + 3)] ++ List.replicate 13 (.agent i .statement)
    ++ List.replicate 4 (.agent i .main) ++ [.request i 1]
    ++ (List.range (k + 4)).map (fun t => .run (j + 1) ⟨⟨Fin.ofNat _ (n + 4 + t)⟩, true⟩)
    ++ [.deliver i (n + 4 + (k + 3))] ++ List.replicate 4 (.agent i .statement)
    ++ List.replicate 2 (.agent i .main)

/-- The simulator has registered and sent data, and the Redfish agent has not started. -/
def firstRun : ClusterState Bool :=
  twoAgents.run structuralSerializer (fun _ => false) (handshake false 2 0 0)

/-- Both have registered and sent data, the simulator first. -/
def secondRun : ClusterState Bool :=
  twoAgents.run structuralSerializer (fun _ => false)
    (handshake false 2 0 0 ++ handshake true 1 2 10)

lemma sends_firstRun :
    twoAgents.Sends false (firstRun.agents false).self ⟨1000, ⟨6⟩, .finite 18235298⟩ := by
  have hrun : (firstRun.agents false).self.myAgent_uuid = .uuid ⟨1⟩ ∧
      (IBswitchSimulator.sendData (twoAgents.inventory false)
        (fun _ => some ⟨600, 0, 0, 18235298⟩) (firstRun.agents false).self.myDeviceSensorUUIDsMap
        structuralSerializer listSizeof ⟨"ibswitch", -1, 512, ⟨1⟩, false⟩ ⟨1⟩
        (fun _ => ⟨1000, 1 / 2, 9 / 10, 1⟩) (AgentCommon.start false 1 0) 1).any
          (fun t => decide (⟨1000, ⟨6⟩, .finite 18235298⟩ ∈ t.records)) := by
    decide +kernel
  obtain ⟨t, ht, hr⟩ := (Option.any_eq_true _ _).mp hrun.2
  exact .simulator rfl hrun.1 ht (of_decide_eq_true hr)

lemma sends_secondRun :
    twoAgents.Sends true (secondRun.agents true).self ⟨2000, ⟨15⟩, .finite 21⟩ := by
  have hrun : (secondRun.agents true).self.myAgent_uuid = .uuid ⟨11⟩ ∧
      (RedfishAgent.sendData (fun | "21" => some (.finite 21) | _ => none) ⟨11⟩
        structuralSerializer listSizeof ⟨"redfish", -1, 512, ⟨11⟩, false⟩
        (secondRun.agents true).self.myDeviceSensorUUIDsMap [(2000, twoAgents.tree true)]
        ⟨AgentCommon.start false 1 0, []⟩).any
          (fun t => decide (⟨2000, ⟨15⟩, .finite 21⟩ ∈ t.produced.flatten.map Prod.snd)) := by
    decide +kernel
  obtain ⟨t, ht, hr⟩ := (Option.any_eq_true _ _).mp hrun.2
  exact .redfish rfl hrun.1 ht (of_decide_eq_true hr)

/-- Both agents send data, a simulator at one moment and a Redfish agent at a later one, under
different UUIDs. -/
theorem records_separate_two_agents :
    twoAgents.Sends false (firstRun.agents false).self ⟨1000, ⟨6⟩, .finite 18235298⟩ ∧
    twoAgents.Sends true (secondRun.agents true).self ⟨2000, ⟨15⟩, .finite 21⟩ ∧
    (⟨6⟩ : UUID) ≠ ⟨15⟩ :=
  ⟨sends_firstRun, sends_secondRun, records_separate twoAgents structuralSerializer (fun _ => false)
    (handshake false 2 0 0) (handshake true 1 2 10) (by decide +kernel) sends_firstRun
    sends_secondRun⟩

end Cluster

end KrakenMare
