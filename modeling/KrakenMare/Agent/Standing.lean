import KrakenMare.Agent.Cluster

/-!
# Where the agents of a cluster stand

What can be said at any moment of a run, from an agent's side: what its uuid is, what it has when
it sends data, and what has been done when it has left.  An agent does not check that an answer is
meant for it, so its side is only as good as the framework's: `Sound` joins the two, and what is
said here of an agent is read off the handler behind the answer that the agent has had.

Uids may be shared, so a request is that of an agent with the same uid; where uids are distinct it
is the agent's own.  In the same way the ids of devices and sensors may be shared, by two chassis
of one name for instance.  The device list has a UUID for each of them, but the map that the agent
keeps has one entry for each id, and `GET /agents` is compared with the agent by ids.

* `request?_eq_some` — what stands behind a request.
* `uuidsOf_assignment` — the UUIDs in an answer are those its handler has drawn, all different.
* **`cluster_run`** — where an agent stands, and what the framework shows of it.

That the agent of an exited process is gone for good is not said, since a handler of one of its
device lists may write it back; nor that the uuid deleted is the last one the process had, since
the answers to several registrations of one uid reach all agents with that uid.
-/

namespace KrakenMare

open Lib Lib.Interleaving AgentRedisRepository MqttDeviceListListener Protocol

namespace Cluster

section
variable {ι : Type} {C : Cluster ι} {Bytes : Type} {S : MessageSerializer Bytes}

lemma uuid_createMyDeviceMap (i : ι) (u : UUID) : (C.createMyDeviceMap i u).uuid = u := by
  rw [createMyDeviceMap]
  cases (C.agent i).kind <;> rfl

/-- **What stands behind a request**: the registration data of the agent, the device map that it
made for a uuid, or a uuid to deregister. -/
theorem request?_eq_some {i : ι} {o : AgentOutput} {m : Request} (h : C.request? S i o = some m) :
    (o = .register ∧ m = .register (C.agent i).myRegistrationData) ∨
    (∃ topic u, o = .devices topic (.uuid u) ∧ m = .devices
      ⟨u, (C.createMyDeviceMap i u).devices.map (Device.mapFloat S.float)⟩) ∨
    ∃ topic u, o = .deregister topic u ∧ m = .deregister ⟨u⟩ := by
  obtain ⟨q, hq, h⟩ := Option.bind_eq_some_iff.mp h
  obtain ⟨payload, hpayload, h⟩ := Option.bind_eq_some_iff.mp h
  obtain ⟨request, hrequest, h⟩ := Option.bind_eq_some_iff.mp h
  split_ifs at h
  obtain rfl := Option.some.inj h
  obtain rfl := Option.some.inj ((S.decode_encode _).symm.trans hpayload)
  cases o with
  | register =>
      obtain rfl := Option.some.inj hq
      obtain rfl := Option.some.inj hrequest
      exact Or.inl ⟨rfl, rfl⟩
  | devices topic uuid =>
      cases uuid with
      | uuid u =>
          obtain rfl := Option.some.inj hq
          obtain rfl := Option.some.inj hrequest
          exact Or.inr (Or.inl ⟨topic, u, rfl, by simp [uuid_createMyDeviceMap]⟩)
      | minusOne => exact absurd hq (by simp [agentRequest?])
      | null => exact absurd hq (by simp [agentRequest?])
  | data => exact absurd hq (by simp [agentRequest?])
  | deregister requestTopic u =>
      obtain rfl := Option.some.inj hq
      obtain rfl := Option.some.inj hrequest
      exact Or.inr (Or.inr ⟨requestTopic, u, rfl, rfl⟩)

variable (C) in
/-- These devices have the ids, sensors included, of those that an agent with the uid of `i`
registers for `u`. -/
def DevicesOf (i : ι) (u : UUID) (devices : List Device) : Prop :=
  ∃ k, C.uid k = C.uid i ∧
    devices.map Device.ids = (C.createMyDeviceMap k u).devices.map Device.ids

variable (C) in
/-- An agent with the uid of `i` has asked for the deregistration of `u`. -/
def Leaves (s : ClusterState ι) (i : ι) (u : UUID) : Prop :=
  ∃ k topic, C.uid k = C.uid i ∧ .deregister topic u ∈ (s.agents k).published

variable {s : ClusterState ι} {i : ι} {u : UUID}

/-- A device list that is handled has the devices of an agent. -/
lemma Sound.devicesOf (hs : C.Sound S s) (hr : Reachable anyCall s.framework.history)
    (ha : Assigned s.framework.history (C.uid i) u) {j : ℕ}
    (hh : Handles s.framework.history u j) :
    C.DevicesOf i u (assignment s.framework.history j) := by
  obtain ⟨m, hm, rfl⟩ := hh
  obtain ⟨k, o, ho, hrequest⟩ := hs.heard _ (List.mem_of_getElem? hm)
  obtain ⟨-, hno⟩ | ⟨topic, u, rfl, hdevices⟩ | ⟨_, _, -, hno⟩ := request?_eq_some hrequest
  · exact absurd hno (by simp)
  · obtain rfl := Request.devices.inj hdevices
    have hk : Assigned s.framework.history (C.uid k) u := (hs.honest k).published _ ho u rfl
    refine ⟨k, hk.uid_eq hr ha, ?_⟩
    simp only [assignment, hm]
    rw [map_ids_assignDevices, List.map_map]
    exact List.map_congr_left fun d _ => Device.ids_mapFloat S.float d
  · exact absurd hno (by simp)

/-- A deregistration that is handled was asked for. -/
lemma Sound.leaves (hs : C.Sound S s) (hr : Reachable anyCall s.framework.history)
    (ha : Assigned s.framework.history (C.uid i) u)
    (hm : Request.deregister ⟨u⟩ ∈ s.framework.history.messages) : C.Leaves s i u := by
  obtain ⟨k, o, ho, hrequest⟩ := hs.heard _ hm
  obtain ⟨-, hno⟩ | ⟨_, _, -, hno⟩ | ⟨topic, u', rfl, hu⟩ := request?_eq_some hrequest
  · exact absurd hno (by simp)
  · exact absurd hno (by simp)
  · obtain rfl : u = u' := congrArg DeregisterRequest.uuid (Request.deregister.inj hu)
    have hk : Assigned s.framework.history (C.uid k) u := (hs.honest k).published _ ho
    exact ⟨k, topic, hk.uid_eq hr ha, ho⟩

/-! ## What is behind an answer -/

/-- The UUIDs that one thread has drawn differ. -/
lemma nodup_drawnBy {h : Past} (hr : Reachable anyCall h) (j : ℕ) : (drawnBy h j).Nodup := by
  have hdrawn : drawnBy h j = (h.log.filter fun e => e.1 = j).filterMap uuid? := by
    rw [drawnBy, History.own, List.filterMap_map]
    refine List.filterMap_congr fun e _ => ?_
    obtain ⟨i, c, r⟩ := e
    cases c <;> rfl
  have hnd : (h.log.filterMap uuid?).Nodup := (uuids_eq hr).1 ▸ (uuids_eq hr).2
  rw [hdrawn]
  exact hnd.sublist (List.Sublist.filterMap uuid? List.filter_sublist)

/-- The devices in an answer have the UUIDs that its thread has drawn, one each and no two the
same. -/
theorem uuidsOf_assignment {h : Past} (hr : Reachable anyCall h) {j : ℕ} {r : DeviceListResponse}
    (hmem : (j, r) ∈ responses h u) : ∃ us : List UUID,
      uuidsOf (assignment h j) = us.map some ∧ us.Nodup ∧
      ∀ v ∈ us, (j, (⟨.randomUUID, v⟩ : Answered Answer)) ∈ h.log := by
  obtain ⟨-, t, hlog⟩ := mem_responses.mp hmem
  obtain ⟨m, l₁, l₂, hm, hown, hn⟩ := hr.mem_log hlog
  obtain ⟨req, us, a, n, rfl, hus, rfl, -⟩ := hn.deviceListResponse
  obtain ⟨rest, hown'⟩ : ∃ rest, h.own j = draws us ++ rest :=
    ⟨_, by rw [hown, updated, fetched, List.append_assoc, List.append_assoc]⟩
  refine ⟨us, ?_, ?_, fun v hv => ?_⟩
  · rw [assignment_eq hm hus hown', uuidsOf_assignDevices _ _ hus.ge, ← hus, List.take_length]
  · refine (nodup_drawnBy hr j).sublist ?_
    have hdraws : (draws us : List (Answered Answer)).filterMap drawn? = us := by
      simp [draws, List.filterMap_map, Function.comp_def, drawn?]
    rw [drawnBy, hown', List.filterMap_append, hdraws]
    exact List.sublist_append_left _ _
  · refine History.mem_own.mp ?_
    rw [hown']
    exact List.mem_append_left _ (List.mem_map.mpr ⟨v, hv, rfl⟩)

/-- An agent with its uuid and its uid was created with them. -/
lemma assigned_of_known {h : Past} {a : Agent} (hk : Known h u a) : Assigned h a.uid u := by
  obtain ⟨j, m, id, hc, -, huid, -⟩ := hk.created
  exact ⟨j, m, id, hc, huid.symm⟩

/-- What has been deleted was asked to be. -/
lemma Sound.leaves_of_deleted (hs : C.Sound S s) (hr : Reachable anyCall s.framework.history)
    (ha : Assigned s.framework.history (C.uid i) u) (hd : Deleted s.framework.history u) :
    C.Leaves s i u := by
  obtain ⟨j, n, hmem⟩ := hd
  obtain ⟨m, l₁, l₂, hm, hown, hn⟩ := hr.mem_log hmem
  obtain ⟨req, a, rfl, rfl, hkey⟩ := Next.hdel hn
  have hget : (j, (⟨.store (.hget (agentKey (some req.uuid))), some a⟩ : Answered Answer))
      ∈ s.framework.history.log := History.mem_own.mp (by rw [hown]; simp [found])
  obtain ⟨v, hk, hv⟩ := (represented hr).fetched j _ a hget
  obtain rfl := agentKey_injective hk
  rw [hv.uuid] at hkey
  obtain rfl := agentKey_injective hkey
  exact hs.leaves hr ha (List.mem_of_getElem? hm)

/-! ## Where an agent stands -/

variable (C) in
/-- `GET /agents` shows the agent `u`, with the uid of `i` and with devices whose ids are those
that an agent of this uid registers. -/
def Listed (E : Environment) (s : ClusterState ι) (i : ι) (u : UUID) : Prop :=
  ∃ all, runAlone E Redis.exec AgentsResource.getAll (.start s.framework.world.redis)
      = (.ok all, .start s.framework.world.redis) ∧
    ∃ a ∈ all, a.uuid = some u ∧ a.uid = C.uid i ∧ C.DevicesOf i u a.devices

variable (C) in
/-- Where the agent `i` stands with the framework, from what it has been told and has asked for. -/
structure Standing (E : Environment) (s : ClusterState ι) (i : ι) : Prop where
  /-- its uuid is one that its uid was given -/
  identified : ∀ u, (s.agents i).self.myAgent_uuid = .uuid u →
    Assigned s.framework.history (C.uid i) u
  /-- and so is every uuid that it asks for -/
  asking : ∀ o ∈ (s.agents i).published, o.About (Assigned s.framework.history (C.uid i))
  /-- when it has sent data, its map is that of an answer: it has one entry for each id of a list
  of devices, in which every device and every sensor has a UUID, no two of them the same.  The
  devices are by their ids those that an agent of this uid registers, and `GET /agents` shows the
  agent `u` with devices of the same ids, until an agent of this uid asks for the deregistration of
  `u` -/
  sending : .data ∈ (s.agents i).published → ∃ u devices,
    Assigned s.framework.history (C.uid i) u ∧ C.DevicesOf i u devices ∧
      (∀ x ∈ uuidsOf devices, x.isSome) ∧ (uuidsOf devices).Nodup ∧
      (s.agents i).self.myDeviceSensorUUIDsMap = deviceUuids devices ∧
      (C.Leaves s i u ∨ C.Listed E s i u)
  /-- when it has left, an agent of this uid has asked for the deregistration of some uuid that the
  uid was given, and a handler of the framework has run its delete for that uuid -/
  left : (s.agents i).phase = .exited 0 → ∃ u, Assigned s.framework.history (C.uid i) u ∧
    C.Leaves s i u ∧ Deleted s.framework.history u

/-- An agent whose device list has been answered is listed until it leaves. -/
lemma Sound.listed (hs : C.Sound S s) (hr : Reachable anyCall s.framework.history)
    (E : Environment) (ha : Assigned s.framework.history (C.uid i) u) {j : ℕ}
    {r : DeviceListResponse} (hmem : (j, r) ∈ responses s.framework.history u) :
    C.Leaves s i u ∨ C.Listed E s i u := by
  by_cases hder : Request.deregister ⟨u⟩ ∈ s.framework.history.messages
  · exact Or.inl (hs.leaves hr ha hder)
  refine Or.inr ⟨_, run_getAll E _, ?_⟩
  obtain ⟨j', a, hall, huuid, -, hh, hdevices⟩ := (listing hr).assigned j u r hmem hder
  obtain ⟨k, hk⟩ := (Dict.mem_values _).mp hall
  obtain ⟨v, rfl, hv⟩ := (represented hr).stored k a hk
  obtain rfl := Option.some.inj (hv.uuid.symm.trans huuid)
  exact ⟨a, hall, huuid, (assigned_of_known hv).uid_eq hr ha, hdevices ▸ hs.devicesOf hr ha hh⟩

lemma Sound.sending (hs : C.Sound S s) (hr : Reachable anyCall s.framework.history)
    (E : Environment)
    (htold : Told s.framework.history (C.uid i) (s.agents i).self.myDeviceSensorUUIDsMap) :
    ∃ u devices, Assigned s.framework.history (C.uid i) u ∧ C.DevicesOf i u devices ∧
      (∀ x ∈ uuidsOf devices, x.isSome) ∧ (uuidsOf devices).Nodup ∧
      (s.agents i).self.myDeviceSensorUUIDsMap = deviceUuids devices ∧
      (C.Leaves s i u ∨ C.Listed E s i u) := by
  obtain ⟨u, j, r, ha, hmem, hmap⟩ := htold
  obtain ⟨hh, hr'⟩ := response_eq hr hmem
  obtain ⟨us, huuids, hnd, -⟩ := uuidsOf_assignment hr hmem
  refine ⟨u, assignment s.framework.history j, ha, hs.devicesOf hr ha hh, ?_, ?_,
    hmap.trans hr', hs.listed hr E ha hmem⟩
  · rw [huuids]
    simp
  · rw [huuids]
    exact hnd.map (Option.some_injective UUID)

/-- An agent that has sent data has been told that its devices are registered. -/
lemma registered_of_data {x : AgentThreads} (hx : AgentThreads.InSequence x.self x.published)
    (hdata : .data ∈ x.published) : x.self.myDeviceRegistered = true := by
  obtain ⟨asked, data, rest, hpublished, -, hrest, hasked⟩ := hx
  have hmem : .data ∈ data := by
    rw [hpublished, List.mem_append, List.mem_append] at hdata
    rcases hdata with (hdata | hdata) | hdata
    · rcases hasked with ⟨rfl, -⟩ | ⟨rfl, -⟩ | ⟨topic, uuid, rfl, -⟩ <;> simp at hdata
    · exact hdata
    · obtain ⟨requestTopic, u, hno⟩ := hrest _ hdata
      exact absurd hno (by simp)
  have hne : data ≠ [] := List.ne_nil_of_mem hmem
  rcases hasked with ⟨-, hnone⟩ | ⟨-, hnone⟩ | ⟨topic, uuid, -, -, hflag⟩
  · exact absurd hnone hne
  · exact absurd hnone hne
  · exact hflag hne

variable [DecidableEq ι] (C S) in
/-- **Where the agents stand.**  At every moment of every run, `Standing` holds of every agent: its
threads, the handlers, the broker and the signals may have taken their steps in any order, requests
may have been handed over again, and connections may have been lost. -/
theorem cluster_run (myAgent_debug : ι → Bool) (E : Environment) (events : List (ClusterEvent ι))
    (i : ι) : C.Standing E (C.run S myAgent_debug events) i := by
  obtain ⟨hr, hs⟩ := sound_run C S myAgent_debug events
  have hgenuine := (hs.honest i).genuine _ List.mem_cons_self
  refine ⟨hgenuine.uuid, (hs.honest i).published,
    fun hdata => hs.sending hr E (hgenuine.devices ?_), fun hexit => ?_⟩
  · obtain ⟨es, hes⟩ := agents_run C S myAgent_debug events i
    have hsequence := (AgentThreads.inOrder_run S (myAgent_debug i) (C.uid i) es).1.inSequence
    rw [← hes] at hsequence
    exact registered_of_data hsequence hdata
  · obtain ⟨u, ha, hd⟩ := (hs.honest i).left (Or.inr hexit)
    exact ⟨u, ha, hs.leaves_of_deleted hr ha hd, hd⟩

end

end Cluster

end KrakenMare
