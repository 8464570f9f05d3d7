import KrakenMare.Simulator.DeviceMap

/-!
# The counters of the switches

`send_data` of `simulator/IBswitchSimulator.py` starts from the counters of the seed files and
moves them by random steps, none of them negative.  A sensor is one counter of one switch.

**The loop.**  A visit of a switch moves the counters of that switch in the seed map and sends them
under the UUIDs of its sensors.  `visit_cases` says what one visit does, seen from outside, and
follows from `visit_eq_some` of `Simulator.DeviceMap`.  Whatever the inventory, `send_data` makes
visits one after the other (`visited_sendData`), so an invariant that a visit keeps holds of a
whole run (`Visited.keeps`).

**The invariant** is `Climbing`: of any two records of one sensor the later has a value that is no
lower, and the seed map holds a value that is no lower than the last of them.

* `Climbing.visit` — **the values of a sensor never go down.**
* `climbing_visited` — so it is after visits in any order.
* `distinct_assembleUuidMap` — what registration promises of the UUIDs is what this rests on: no
  UUID stands for two sensors.

With the batch counter on the records carry counts of batches instead, and nothing is said of them
here.
-/

namespace KrakenMare

open Lib AgentCommon MqttDeviceListListener

/-- No step of the random walk is negative. -/
lemma PerfQuery.advance_le {q : PerfQuery} {ibmetric : String} {v : ℤ}
    (hv : q.get? ibmetric = some v) (x y z : ℚ) :
    ∃ w, (q.advance x y z).get? ibmetric = some w ∧ v ≤ w := by
  unfold PerfQuery.get? at hv ⊢
  split at hv
  case h_5 => exact absurd hv (by simp)
  all_goals
    obtain rfl := Option.some.inj hv
    refine ⟨_, rfl, ?_⟩
    simp only [PerfQuery.advance]
    try split_ifs
    all_goals omega

namespace IBswitchSimulator

/-- `sensor_uuid[cmc][switchGUID][ibmetric]`, where any of the three lookups may fail. -/
def UuidMaps.sensor? (maps : UuidMaps) (cmc switchGUID ibmetric : String) : Option UUID :=
  ((maps.sensor_uuid.get? cmc).bind (·.get? switchGUID)).bind (·.get? ibmetric)

variable {Bytes : Type}

namespace Sending

/-- `switchSimulatorSeedMap[cmc][switchGUID]`, the counters of a switch as they stand. -/
def seed? (s : Sending Bytes) (cmc switchGUID : String) : Option PerfQuery :=
  (s.switchSimulatorSeedMap.get? cmc).bind (·.get? switchGUID)

/-- The records built so far, in the order in which they are handed over to be sent. -/
def records (s : Sending Bytes) : List SendTimeSeriesDruid := s.produced.flatMap Prod.snd

end Sending

section
variable {S : MessageSerializer Bytes} {getsizeof : ℕ → ℕ} {args : SendArgs} {myAgent_uuid : UUID}
  {draws : ℕ → Draw} {maps : UuidMaps} {cmc switchGUID : String} {s t : Sending Bytes}

/-- One visit as seen from outside, by the counters and the records built. -/
lemma visit_cases (h : visit S getsizeof args myAgent_uuid draws maps cmc switchGUID s = some t) :
    t = s ∨ ∃ seed sensor_uuid record_list,
      s.seed? cmc switchGUID = some seed ∧
      (maps.sensor_uuid.get? cmc).bind (·.get? switchGUID) = some sensor_uuid ∧
      let draw := draws s.visits
      let seed' := seed.advance draw.x draw.y draw.z
      recordList myAgent_uuid ⟨sensor_uuid, seed', draw.timestamp⟩ s.agent = some record_list ∧
      t.agent = s.agent.send S getsizeof args record_list ∧
      t.records = s.records ++ record_list ∧
      ∀ cmc' guid', t.seed? cmc' guid'
        = if cmc' = cmc ∧ guid' = switchGUID then some seed' else s.seed? cmc' guid' := by
  obtain ⟨-, rfl⟩ | ⟨-, seeds, seed, sensors, sensor_uuid, record_list, hseeds, hseed, hsensors, huuid,
    hlist, rfl⟩ := visit_eq_some h
  · exact Or.inl rfl
  · refine Or.inr ⟨seed, sensor_uuid, record_list, ?_, ?_, hlist, rfl, ?_, ?_⟩
    · rw [Sending.seed?, hseeds]
      exact hseed
    · rw [hsensors]
      exact huuid
    · simp [Sending.records]
    · intro cmc' guid'
      by_cases hcmc : cmc' = cmc
      · by_cases hguid : guid' = switchGUID
        · simp [Sending.seed?, hcmc, hguid]
        · simp [Sending.seed?, hcmc, hguid, hseeds]
      · simp [Sending.seed?, hcmc]

/-- With the batch counter off, each record carries the counter of a metric under its UUID. -/
lemma mem_recordList {reading : SwitchReading} {a : AgentCommon Bytes}
    {l : List SendTimeSeriesDruid} (hcounter : a.myEnableMQTTbatchesCounter = false)
    (h : recordList myAgent_uuid reading a = some l) :
    l.Pairwise (fun r r' => ∃ m m', m ≠ m' ∧ reading.sensor_uuid.get? m = some r.sensorUuid ∧
        reading.sensor_uuid.get? m' = some r'.sensorUuid) ∧
      ∀ r ∈ l, ∃ m v, reading.sensor_uuid.get? m = some r.sensorUuid ∧
        reading.seed.get? m = some v ∧ r.sensorValue = .finite v := by
  have hrecord : ∀ {m r}, record myAgent_uuid reading a m = some r →
      reading.sensor_uuid.get? m = some r.sensorUuid ∧
        ∃ v : ℤ, reading.seed.get? m = some v ∧ r.sensorValue = .finite v := by
    intro m r hr
    rw [record, if_pos (by simp [hcounter])] at hr
    obtain ⟨u, hu, hr⟩ := Option.bind_eq_some_iff.mp hr
    obtain ⟨v, hv, hr⟩ := Option.bind_eq_some_iff.mp hr
    obtain rfl := Option.some.inj hr
    exact ⟨hu, v, hv, rfl⟩
  rw [recordList, ibmetrics, List.mapM_cons] at h
  obtain ⟨r₁, h₁, h⟩ := Option.bind_eq_some_iff.mp h
  obtain ⟨rest, hrest, h⟩ := Option.bind_eq_some_iff.mp h
  rw [List.mapM_cons] at hrest
  obtain ⟨r₂, h₂, hrest⟩ := Option.bind_eq_some_iff.mp hrest
  obtain rfl := Option.some.inj hrest
  obtain rfl := Option.some.inj h
  obtain ⟨hu₁, v₁, hv₁, hvalue₁⟩ := hrecord h₁
  obtain ⟨hu₂, v₂, hv₂, hvalue₂⟩ := hrecord h₂
  constructor
  · refine List.pairwise_pair.mpr ⟨_, _, ?_, hu₁, hu₂⟩
    decide
  · intro r hr
    rcases List.mem_pair.mp hr with rfl | rfl
    · exact ⟨_, v₁, hu₁, hv₁, hvalue₁⟩
    · exact ⟨_, v₂, hu₂, hv₂, hvalue₂⟩

end

/-! ## The invariant of the loop -/

/-- No UUID stands for two sensors, of one switch or of two. -/
def UuidMaps.Distinct (maps : UuidMaps) : Prop :=
  ∀ {cmc guid m cmc' guid' m' u}, maps.sensor? cmc guid m = some u →
    maps.sensor? cmc' guid' m' = some u → cmc = cmc' ∧ guid = guid' ∧ m = m'

/-- Of one sensor, `r'` has a value that is no lower; of two sensors, nothing is said. -/
def Climbs (r r' : SendTimeSeriesDruid) : Prop :=
  r.sensorUuid = r'.sensorUuid →
    ∃ v w : ℤ, r.sensorValue = .finite v ∧ r'.sensorValue = .finite w ∧ v ≤ w

/-- An agent that sends what the counters show, from its start on. -/
structure Climbing (S : MessageSerializer Bytes) (getsizeof : ℕ → ℕ) (args : SendArgs) (T first : ℕ)
    (maps : UuidMaps) (s : Sending Bytes) : Prop where
  counter : s.agent.myEnableMQTTbatchesCounter = false
  agent : Follows S args (Batched S getsizeof args T first) s.records s.agent
  /-- the seed map shows what the records of a sensor have come to -/
  seeds : ∀ r ∈ s.records, ∃ cmc guid m, maps.sensor? cmc guid m = some r.sensorUuid ∧
    ∃ seed v w, s.seed? cmc guid = some seed ∧ seed.get? m = some v ∧
      r.sensorValue = .finite (w : ℤ) ∧ w ≤ v
  climbs : s.records.Pairwise Climbs

section
variable {S : MessageSerializer Bytes} {getsizeof : ℕ → ℕ} {args : SendArgs} {T first : ℕ}
  {maps : UuidMaps} {s t : Sending Bytes}

lemma climbing_start (hfirst : first < T) (seedMap : Dict String (Dict String PerfQuery)) :
    Climbing S getsizeof args T first maps ⟨seedMap, start false T first, 0, []⟩ :=
  ⟨rfl, follows_start (batched_start false hfirst), by simp [Sending.records],
    List.Pairwise.nil⟩

/-- **One visit** keeps the invariant: it moves the counters of one switch up, and what it sends is
what they have come to. -/
theorem Climbing.visit (h : Climbing S getsizeof args T first maps s) (hT : 0 < T)
    (hb : 0 < args.byteBatchSize) (hdistinct : maps.Distinct) {myAgent_uuid : UUID}
    {draws : ℕ → Draw} {cmc guid : String}
    (hvisit : visit S getsizeof args myAgent_uuid draws maps cmc guid s = some t) :
    Climbing S getsizeof args T first maps t := by
  rcases visit_cases hvisit with rfl | ⟨seed, sensor_uuid, l, hseed, huuid, hlist, hagent, hrecords,
    hmap⟩
  · exact h
  obtain ⟨hnew, hvalue⟩ := mem_recordList h.counter hlist
  -- a record of the list is about a metric of this switch
  have hsensor : ∀ {m u}, sensor_uuid.get? m = some u → maps.sensor? cmc guid m = some u := by
    intro m u hm
    rw [UuidMaps.sensor?, huuid]
    exact hm
  have hthis := hmap cmc guid
  rw [if_pos ⟨rfl, rfl⟩] at hthis
  refine ⟨?_, ?_, ?_, ?_⟩
  · rw [hagent, enable_send]
    exact h.counter
  · rw [hagent, hrecords]
    exact h.agent.send (accepting_batched hT hb) l
  · intro r hr
    rw [hrecords, List.mem_append] at hr
    rcases hr with hr | hr
    · obtain ⟨cmc', guid', m, hm, seed', v, w, hseed', hv, hw, hle⟩ := h.seeds r hr
      refine ⟨cmc', guid', m, hm, ?_⟩
      rw [hmap]
      split_ifs with hhere
      · obtain ⟨rfl, rfl⟩ := hhere
        obtain rfl := Option.some.inj (hseed.symm.trans hseed')
        obtain ⟨v', hv', hclimb⟩ := PerfQuery.advance_le hv _ _ _
        exact ⟨_, v', w, rfl, hv', hw, hle.trans hclimb⟩
      · exact ⟨seed', v, w, hseed', hv, hw, hle⟩
    · obtain ⟨m, v, hm, hv, hr⟩ := hvalue r hr
      exact ⟨cmc, guid, m, hsensor hm, _, v, v, hthis, hv, hr, le_refl v⟩
  · rw [hrecords]
    refine List.pairwise_append.mpr ⟨h.climbs, hnew.imp ?_, fun r hr r' hr' heq => ?_⟩
    · rintro r r' ⟨m, m', hne, hm, hm'⟩ heq
      rw [heq] at hm
      exact absurd (hdistinct (hsensor hm) (hsensor hm')).2.2 hne
    · obtain ⟨cmc', guid', m, hm, seed', v, w, hseed', hv, hw, hle⟩ := h.seeds r hr
      obtain ⟨m', v', hm', hv', hr'⟩ := hvalue r' hr'
      rw [heq] at hm
      obtain ⟨rfl, rfl, rfl⟩ := hdistinct hm (hsensor hm')
      obtain rfl := Option.some.inj (hseed.symm.trans hseed')
      obtain ⟨v'', hv'', hclimb⟩ := PerfQuery.advance_le hv _ _ _
      obtain rfl := Option.some.inj (hv'.symm.trans hv'')
      exact ⟨w, v', hw, hr', hle.trans hclimb⟩

end

/-! ## The passes of `send_data` -/

section
variable (S : MessageSerializer Bytes) (getsizeof : ℕ → ℕ) (args : SendArgs) (myAgent_uuid : UUID)
  (draws : ℕ → Draw) (maps : UuidMaps)

/-- A visit, an exception leaving everything as it was, so that calls can come in any order. -/
def attempt (call : String × String) (s : Sending Bytes) : Sending Bytes :=
  (visit S getsizeof args myAgent_uuid draws maps call.1 call.2 s).getD s

variable {S getsizeof args myAgent_uuid draws maps} {s t : Sending Bytes}

/-- Visits, one after the other, of any switches and in any order, a switch perhaps several
times. -/
def Visited (S : MessageSerializer Bytes) (getsizeof : ℕ → ℕ) (args : SendArgs)
    (myAgent_uuid : UUID) (draws : ℕ → Draw) (maps : UuidMaps) (s t : Sending Bytes) : Prop :=
  ∃ calls : List (String × String),
    t = calls.foldl (fun s call => attempt S getsizeof args myAgent_uuid draws maps call s) s

lemma Visited.visit {cmc guid : String} {u : Sending Bytes}
    (h : Visited S getsizeof args myAgent_uuid draws maps s t)
    (hvisit : visit S getsizeof args myAgent_uuid draws maps cmc guid t = some u) :
    Visited S getsizeof args myAgent_uuid draws maps s u := by
  obtain ⟨calls, rfl⟩ := h
  refine ⟨calls ++ [(cmc, guid)], ?_⟩
  rw [List.foldl_append, List.foldl_cons, List.foldl_nil, attempt, hvisit]
  rfl

lemma Visited.rounds : ∀ (n : ℕ) {t u : Sending Bytes},
    Visited S getsizeof args myAgent_uuid draws maps s t →
    rounds S getsizeof args myAgent_uuid draws maps n t = some u →
    Visited S getsizeof args myAgent_uuid draws maps s u
  | 0, t, u, h, hrun => Option.some.inj hrun ▸ h
  | n + 1, t, u, h, hrun => by
      obtain ⟨t', hround, hrest⟩ := Option.bind_eq_some_iff.mp hrun
      refine Visited.rounds n ?_ hrest
      refine Dict.forKeys_some (fun cmc s' t' h' hbody => ?_) h hround
      obtain ⟨seeds, -, hinner⟩ := Option.bind_eq_some_iff.mp hbody
      exact Dict.forKeys_some (fun guid s' t' h' hvisit => h'.visit hvisit) h' hinner

/-- What `send_data` does is visits, and so what visits in any order keep holds of its passes. -/
theorem visited_sendData {inventory : String → List Switch}
    {seedOutputDir : String → Option PerfQuery} {uuids : Dict String SensorUuids}
    {agent : AgentCommon Bytes} {n : ℕ}
    (h : sendData inventory seedOutputDir uuids S getsizeof args myAgent_uuid draws agent n = some s) :
    ∃ maps seedMap, assembleUuidMap inventory uuids = some maps ∧
      seedSimulatorMap inventory seedOutputDir = some seedMap ∧
      Visited S getsizeof args myAgent_uuid draws maps ⟨seedMap, agent, 0, []⟩ s := by
  obtain ⟨maps, hmaps, h⟩ := Option.bind_eq_some_iff.mp h
  obtain ⟨seedMap, hseeds, h⟩ := Option.bind_eq_some_iff.mp h
  exact ⟨maps, seedMap, hmaps, hseeds, Visited.rounds n ⟨[], rfl⟩ h⟩

/-- What a visit keeps, visits in any order keep; this is the induction that the invariant uses. -/
theorem Visited.keeps {P : Sending Bytes → Prop}
    (hvisit : ∀ {cmc guid : String} {s t : Sending Bytes}, P s →
      IBswitchSimulator.visit S getsizeof args myAgent_uuid draws maps cmc guid s = some t → P t)
    (h : Visited S getsizeof args myAgent_uuid draws maps s t) (hs : P s) : P t := by
  obtain ⟨calls, rfl⟩ := h
  induction calls using List.reverseRecOn with
  | nil => exact hs
  | append_singleton calls call ih =>
      rw [List.foldl_append, List.foldl_cons, List.foldl_nil, attempt]
      cases hcall : IBswitchSimulator.visit S getsizeof args myAgent_uuid draws maps call.1 call.2
          (calls.foldl (fun s call => attempt S getsizeof args myAgent_uuid draws maps call s) s) with
      | none => exact ih
      | some t => exact hvisit ih hcall

/-- **The run.**  Visits in any order keep the invariant, and so the records of a sensor climb. -/
theorem climbing_visited {T first : ℕ} (h : Climbing S getsizeof args T first maps s) (hT : 0 < T)
    (hb : 0 < args.byteBatchSize) (hdistinct : maps.Distinct)
    (hvisited : Visited S getsizeof args myAgent_uuid draws maps s t) :
    Climbing S getsizeof args T first maps t :=
  hvisited.keeps (fun hs hvisit => hs.visit hT hb hdistinct hvisit) h

end

/-! ## The UUIDs of a registered agent -/

/-- The map made from a response has the UUIDs of its sensors. -/
lemma sensor_assembleUuidMap {inventory : String → List Switch} {uuids : Dict String SensorUuids}
    {maps : UuidMaps} (hmaps : assembleUuidMap inventory uuids = some maps) {cmc guid m : String}
    {u : UUID} (h : maps.sensor? cmc guid m = some u) :
    cmc ∈ cmcs ∧ guid ∈ guids inventory cmc ∧ m ∈ ibmetrics ∧
      sensorUuid? uuids guid (guid ++ "-" ++ m) = some u := by
  obtain ⟨device_uuid, -, hmaps⟩ := Option.bind_eq_some_iff.mp hmaps
  obtain ⟨sensor_uuid, hfill, hmaps⟩ := Option.bind_eq_some_iff.mp hmaps
  obtain rfl := Option.some.inj hmaps
  obtain ⟨metrics, hmetrics, hm⟩ := Option.bind_eq_some_iff.mp h
  obtain ⟨switches, hswitches, hguid⟩ := Option.bind_eq_some_iff.mp hmetrics
  obtain ⟨hcmc, hswitches⟩ := Dict.mem_of_get?_fill hfill hswitches
  obtain ⟨hmem, hguid⟩ := Dict.mem_of_get?_fill hswitches hguid
  obtain ⟨hmetric, hm⟩ := Dict.mem_of_get?_fill hguid hm
  exact ⟨hcmc, hmem, hmetric, hm⟩

/-- In the map made from an identified response no UUID stands for two sensors, so registration
gives what the invariant asks for. -/
theorem distinct_assembleUuidMap {inventory : String → List Switch}
    {uuids : Dict String SensorUuids} {redis : Redis} {u : UUID} {maps : UuidMaps}
    (hident : Identified inventory uuids redis u) (hguids : (allGuids inventory).Nodup)
    (hmaps : assembleUuidMap inventory uuids = some maps) : maps.Distinct := by
  intro cmc guid m cmc' guid' m' u h h'
  obtain ⟨hcmc, hguid, hm, hu⟩ := sensor_assembleUuidMap hmaps h
  obtain ⟨hcmc', hguid', hm', hu'⟩ := sensor_assembleUuidMap hmaps h'
  obtain ⟨rfl, rfl⟩ := hident.distinct guid (mem_allGuids.mpr ⟨cmc, hcmc, hguid⟩) m hm guid'
    (mem_allGuids.mpr ⟨cmc', hcmc', hguid'⟩) m' hm' (hu.trans hu'.symm)
  refine ⟨?_, rfl, rfl⟩
  by_contra hne
  have : Std.Symm (Function.onFun List.Disjoint (guids inventory)) := ⟨fun _ _ hd => hd.symm⟩
  exact (List.nodup_flatMap.mp hguids).2.forall hcmc hcmc' hne hguid hguid'

end IBswitchSimulator

end KrakenMare
