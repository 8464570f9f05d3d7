import KrakenMare.Framework.Representation

/-!
# Device lists side by side

Each handler of a device list leaves its assignment of UUIDs in three places: it updates the store,
publishes the response and sends the agent to Kafka, one after the other and without a lock.  When
several handlers for one agent are under way, each place keeps what the last handler put there, and
the last handler need not be the same in all of them.

**Whose assignment it is.**  `assignment h i` are the devices of the list that thread `i` handles,
with the UUIDs this thread has drawn.  No two threads have drawn the same, so two handlers can only
give the same UUIDs when they give none (`deviceUuids_assignment`).

* `stored_eq_last_write` — while the agent does not deregister, the store keeps what was written
  last.
* `last_assignments` — once all handlers have returned, **each of the three places holds the whole
  assignment of one handler**, never a mixture, and the places agree exactly when that is the same
  handler, or when those handlers had no device to assign.
* `last_assignments_overtaken`, `places_disagree` — a run in which it is not: one handler overtakes
  another between its update and its response.

Where the response and the store disagree, the agent may send under UUIDs which the framework does
not list.
-/

namespace KrakenMare

open Lib Lib.Interleaving AgentRedisRepository MqttDeviceListListener Protocol

/-! ## The three places -/

/-- A write of the agent `u` into the store, with the thread that made it and what it wrote. -/
def write? (u : UUID) : ℕ × Answered Answer → Option (ℕ × Agent)
  | (i, ⟨.store (.hset field a), _⟩) => if field = agentKey (some u) then some (i, a) else none
  | _ => none

/-- A `DeviceListResponse` published for `u`, with the thread that made it.  A refused one does not
count. -/
def response? (u : UUID) : ℕ × Answered Answer → Option (ℕ × DeviceListResponse)
  | (i, ⟨.publish _ (.deviceListResponse r), true⟩) => if r.uuid = u then some (i, r) else none
  | _ => none

/-- A record sent to the device registration topic under the key `u`. -/
def record? (u : UUID) : ℕ × Answered Answer → Option (ℕ × Agent)
  | (i, ⟨.send topic key (.agent a), _⟩) =>
      if topic = DEVICE_REGISTRATION_TOPIC ∧ key = some u.toString then some (i, a) else none
  | _ => none

/-- The updates of the stored agent `u`, each with the thread that made it. -/
def writes (h : Past) (u : UUID) : List (ℕ × Agent) := h.log.filterMap (write? u)

/-- The responses published for `u`, each with the thread that published it. -/
def responses (h : Past) (u : UUID) : List (ℕ × DeviceListResponse) :=
  h.log.filterMap (response? u)

/-- The records sent to Kafka for `u`, each with the thread that sent it. -/
def records (h : Past) (u : UUID) : List (ℕ × Agent) := h.log.filterMap (record? u)

/-- A write is an `HSET` under the key of the agent, whatever Redis has answered. -/
lemma write?_eq_some {u : UUID} {e : ℕ × Answered Answer} {x : ℕ × Agent} :
    write? u e = some x ↔
      ∃ n : ℕ, e = (x.1, ⟨.store (.hset (agentKey (some u)) x.2), n⟩) := by
  constructor
  · intro hw
    unfold write? at hw
    split at hw
    · split_ifs at hw with hk
      obtain rfl := Option.some.inj hw
      subst hk
      exact ⟨_, rfl⟩
    · exact absurd hw (by simp)
  · rintro ⟨n, rfl⟩
    simp [write?]

lemma mem_writes {h : Past} {u : UUID} {i : ℕ} {a : Agent} : (i, a) ∈ writes h u ↔
    ∃ n : ℕ, (i, (⟨.store (.hset (agentKey (some u)) a), n⟩ : Answered Answer)) ∈ h.log := by
  constructor
  · intro hmem
    obtain ⟨e, he, hw⟩ := List.mem_filterMap.mp hmem
    obtain ⟨n, rfl⟩ := write?_eq_some.mp hw
    exact ⟨n, he⟩
  · rintro ⟨n, hn⟩
    exact List.mem_filterMap.mpr ⟨_, hn, write?_eq_some.mpr ⟨n, rfl⟩⟩

/-- The responses are the publications of the log that were accepted and are for the agent. -/
lemma mem_responses {h : Past} {u : UUID} {i : ℕ} {r : DeviceListResponse} :
    (i, r) ∈ responses h u ↔ r.uuid = u ∧
      ∃ t, (i, (⟨.publish t (.deviceListResponse r), true⟩ : Answered Answer)) ∈ h.log := by
  constructor
  · intro hmem
    obtain ⟨⟨j, c, x⟩, he, hw⟩ := List.mem_filterMap.mp hmem
    unfold response? at hw
    split at hw
    · rename_i heq
      cases heq
      split_ifs at hw with hk
      obtain ⟨rfl, rfl⟩ := Prod.mk.inj (Option.some.inj hw)
      exact ⟨hk, _, he⟩
    · exact absurd hw (by simp)
  · rintro ⟨rfl, t, ht⟩
    exact List.mem_filterMap.mpr ⟨_, ht, by simp [response?]⟩

/-- The records are the sends of the log, on the topic for device lists and under the key of the
agent. -/
lemma mem_records {h : Past} {u : UUID} {i : ℕ} {a : Agent} : (i, a) ∈ records h u ↔
    (i, (⟨.send DEVICE_REGISTRATION_TOPIC (some u.toString) (.agent a), ()⟩ : Answered Answer))
      ∈ h.log := by
  constructor
  · intro hmem
    obtain ⟨⟨j, c, x⟩, he, hw⟩ := List.mem_filterMap.mp hmem
    unfold record? at hw
    split at hw
    · rename_i heq
      cases heq
      split_ifs at hw with hk
      obtain ⟨rfl, rfl⟩ := Prod.mk.inj (Option.some.inj hw)
      obtain ⟨rfl, rfl⟩ := hk
      exact he
    · exact absurd hw (by simp)
  · intro ht
    exact List.mem_filterMap.mpr ⟨_, ht, by simp [record?]⟩

/-! ## Whose assignment it is -/

/-- The UUID that a call has drawn; all other calls have drawn none. -/
def drawn? : Answered Answer → Option UUID
  | ⟨.randomUUID, u⟩ => some u
  | _ => none

/-- The UUIDs that a thread has drawn, in order, whatever the others did in between. -/
def drawnBy (h : Past) (i : ℕ) : List UUID := (h.own i).filterMap drawn?

/-- The devices of the list that thread `i` handles, with the UUIDs it has drawn for them. -/
def assignment (h : Past) (i : ℕ) : List Device :=
  match h.messages[i]? with
  | some (.devices m) => assignDevices m.devices (drawnBy h i)
  | _ => []

/-- Thread `i` handles a device list of the agent `u`; it may have made none of its calls yet. -/
def Handles (h : Past) (u : UUID) (i : ℕ) : Prop :=
  ∃ m, h.messages[i]? = some (.devices m) ∧ m.uuid = u

variable {G : World → Request → Call RedisCmd → Prop} {h : Past} {u : UUID} {i j : ℕ}

lemma assignment_eq {m : DeviceList} {us : List UUID} {l : List (Answered Answer)}
    (hm : h.messages[i]? = some (.devices m)) (hus : us.length = slots m.devices)
    (hown : h.own i = draws us ++ l) : assignment h i = assignDevices m.devices us := by
  have hdraws : (draws us : List (Answered Answer)).filterMap drawn? = us := by
    simp [draws, List.filterMap_map, Function.comp_def, drawn?]
  simp only [assignment, hm, drawnBy, hown, List.filterMap_append, hdraws]
  exact assignDevices_append _ _ _ hus.ge

/-- The agent `u` is written by its registration and by its device lists. -/
lemma hset_handles (hr : Reachable G h) {m : Request} {l : List (Answered Answer)} {a : Agent}
    (hm : h.messages[i]? = some m) (hl : l <+: h.own i)
    (hn : Next m l (.store (.hset (agentKey (some u)) a))) :
    (∃ req id, m = .register req ∧ l = identified id u ∧ a = newAgent req id u) ∨
    Handles h u i ∧ a.devices = assignment h i ∧ ∃ j req id, Created h j req id u := by
  obtain ⟨req, id, v, rfl, rfl, hk, rfl⟩ | ⟨req, us, b, rfl, hus, rfl, hk, rfl⟩ := hn.hset
  · obtain rfl := agentKey_injective hk
    exact Or.inl ⟨req, id, rfl, rfl, rfl⟩
  · have hget : (i, (⟨.store (.hget (agentKey (some req.uuid))), some b⟩ : Answered Answer))
        ∈ h.log := History.mem_own.mp (hl.mem (by simp [fetched]))
    obtain ⟨v, hkv, hv⟩ := (represented hr).fetched i _ b hget
    rw [hv.uuid, agentKey_inj] at hk
    obtain rfl := agentKey_injective hkv
    obtain ⟨j, req', id, hc, -⟩ := hv.created
    obtain ⟨l', hl'⟩ := hl
    refine Or.inr ⟨⟨req, hm, hk.symm⟩, ?_, j, req', id, hk ▸ hc⟩
    rw [assignment_eq hm hus (by rw [← hl', fetched, List.append_assoc])]
    rfl

/-- What has been written has been registered, and a device list writes its assignment. -/
lemma write_eq (hr : Reachable G h) {a : Agent} (hw : (i, a) ∈ writes h u) :
    (∃ j req id, Created h j req id u) ∧ (Handles h u i → a.devices = assignment h i) := by
  obtain ⟨n, hmem⟩ := mem_writes.mp hw
  obtain ⟨m, l₁, l₂, hm, hown, hn⟩ := hr.mem_log hmem
  rcases hset_handles hr hm (hown ▸ List.prefix_append _ _) hn with
    ⟨req, id, rfl, rfl, rfl⟩ | ⟨hh, heq, hc⟩
  · refine ⟨⟨i, req, id, hm, n, ?_⟩, fun ⟨m, hm', _⟩ => ?_⟩
    · rw [hown, saved]
      exact (List.prefix_append_right_inj _).mpr ⟨l₂, rfl⟩
    · exact absurd (Option.some.inj (hm.symm.trans hm')) (by simp)
  · exact ⟨hc, fun _ => heq⟩

lemma response_eq (hr : Reachable G h) {r : DeviceListResponse} (hmem : (i, r) ∈ responses h u) :
    Handles h u i ∧ r.deviceUuids = deviceUuids (assignment h i) := by
  obtain ⟨rfl, t, hlog⟩ := mem_responses.mp hmem
  obtain ⟨m, l₁, l₂, hm, hown, hn⟩ := hr.mem_log hlog
  obtain ⟨req, us, b, n, rfl, hus, rfl, rfl⟩ := hn.deviceListResponse
  refine ⟨⟨req, hm, rfl⟩, ?_⟩
  rw [assignment_eq hm hus (by rw [hown, updated, fetched, List.append_assoc, List.append_assoc])]
  rfl

lemma record_eq (hr : Reachable G h) {a : Agent} (hmem : (i, a) ∈ records h u) :
    Handles h u i ∧ a.devices = assignment h i := by
  obtain ⟨m, l₁, l₂, hm, hown, hn⟩ := hr.mem_log (mem_records.mp hmem)
  obtain ⟨req, us, b, n, rfl, hus, rfl, hkey, rfl⟩ := hn.agentRecord
  refine ⟨⟨req, hm, (UUID.toString_injective (Option.some.inj hkey)).symm⟩, ?_⟩
  rw [assignment_eq hm hus (by
    rw [hown, updated, fetched, List.append_assoc, List.append_assoc, List.append_assoc])]
  rfl

/-! ## The last write -/

lemma writes_concat (w : World) (e : ℕ × Answered Answer) :
    writes ⟨w, h.messages, h.log ++ [e]⟩ u = writes h u ++ (write? u e).toList := by
  cases he : write? u e <;> simp [writes, he]

/-- While the agent does not deregister, the store keeps what was written last.  Only a
deregistration deletes, and it deletes the agent that asks for it. -/
theorem stored_eq_last_write (hr : Reachable G h) (hder : Request.deregister ⟨u⟩ ∉ h.messages) :
    h.world.redis.myAgentsKey.get? (agentKey (some u)) = (writes h u).getLast?.map Prod.snd := by
  induction hr with
  | start => rfl
  | arrive m hr ih => exact ih fun hmem => hder (List.mem_append_left _ hmem)
  | @call h i m c r w o hr hm hn hG hexec ih =>
      rw [writes_concat]
      cases hw : write? u (i, ⟨c, r⟩) with
      | some x =>
          obtain ⟨n, hcall⟩ := write?_eq_some.mp hw
          cases hcall
          obtain ⟨-, rfl⟩ := Prod.mk.inj (Option.some.inj hexec)
          simp [Redis.exec]
      | none =>
          rw [Option.toList_none, List.append_nil, ← ih hder]
          rcases exec_agents hexec with hsame | ⟨k, v, rfl, hset⟩ | ⟨k, rfl, hdel⟩
          · rw [hsame]
          · rw [hset, Dict.get?_set_ne]
            rintro rfl
            simp [write?] at hw
          · -- the agent deleted is that of the request
            obtain ⟨req, a, rfl, hown, rfl⟩ := hn.hdel
            have hget : (i, (⟨.store (.hget (agentKey (some req.uuid))), some a⟩ :
                Answered Answer)) ∈ h.log := History.mem_own.mp (by rw [hown]; simp [found])
            obtain ⟨v, hk, hv⟩ := (represented hr).fetched i _ a hget
            obtain rfl := agentKey_injective hk
            rw [hdel, Dict.get?_del, if_neg]
            rw [hv.uuid, agentKey_inj]
            rintro rfl
            exact hder (List.mem_of_getElem? hm)

lemma Handles.mono {h' : Past} (hh : Handles h u i) (he : h.Extends h') : Handles h' u i := by
  obtain ⟨m, hm, hu⟩ := hh
  exact ⟨m, he.message hm, hu⟩

/-- After the first write, which is that of the registration, all writes are those of device
lists. -/
theorem later_writes (hr : Reachable G h) {x : ℕ × Agent} {rest : List (ℕ × Agent)}
    (hw : writes h u = x :: rest) : ∀ y ∈ rest, Handles h u y.1 := by
  induction hr generalizing rest with
  | start => exact absurd hw (by simp [writes])
  | @arrive h m hr ih =>
      intro y hy
      exact (ih hw y hy).mono (History.Extends.arrive h m)
  | @call h i m c r w o hr hm hn hG hexec ih =>
      have he := History.Extends.call h w (i, ⟨c, r⟩)
      rw [writes_concat] at hw
      intro y hy
      cases hwe : write? u (i, ⟨c, r⟩) with
      | none =>
          rw [hwe, Option.toList_none, List.append_nil] at hw
          exact (ih hw y hy).mono he
      | some e =>
          rw [hwe, Option.toList_some] at hw
          cases hold : writes h u with
          | nil =>
              rw [hold] at hw
              obtain ⟨-, rfl⟩ := List.cons.inj hw
              exact absurd hy List.not_mem_nil
          | cons x' rest' =>
              rw [hold, List.cons_append] at hw
              obtain ⟨rfl, rfl⟩ := List.cons.inj hw
              rcases List.mem_append.mp hy with hy | hy
              · exact (ih hold y hy).mono he
              · obtain rfl := List.mem_singleton.mp hy
                obtain ⟨n, hcall⟩ := write?_eq_some.mp hwe
                cases hcall
                rcases hset_handles hr hm (List.prefix_refl _) hn with
                  ⟨req, id, -, hown, -⟩ | ⟨hh, -, -⟩
                · -- the registration has written before
                  have hmem : x' ∈ writes h u := by simp [hold]
                  obtain ⟨j, req', id', hc⟩ := (write_eq hr hmem).1
                  exact absurd hown (hc.not_identified hr)
                · exact hh.mono he

/-- Once a device list has been written, the last write is one of a device list: a registration
writes first. -/
lemma last_write_handles (hr : Reachable G h) {x y : ℕ × Agent} (hx : x ∈ writes h u)
    (hhx : Handles h u x.1) (hy : (writes h u).getLast? = some y) : Handles h u y.1 := by
  cases hw : writes h u with
  | nil => simp [hw] at hx
  | cons z rest =>
      cases rest with
      | nil =>
          obtain rfl : y = z := by simpa [hw] using hy.symm
          obtain rfl : x = y := by simpa [hw] using hx
          exact hhx
      | cons z' rest =>
          refine later_writes hr hw y ?_
          rw [hw, List.getLast?_cons_cons] at hy
          exact List.mem_of_getLast? hy

/-! ## When the handlers have returned -/

/-- Thread `i` has handled a device list of `u` to the end: it has left its mark in all three
places, and all the UUIDs of its assignment are ones it has drawn. -/
structure Handled (h : Past) (u : UUID) (i : ℕ) : Prop where
  handles : Handles h u i
  written : ∃ a, (i, a) ∈ writes h u
  responded : ∃ r, (i, r) ∈ responses h u
  recorded : ∃ a, (i, a) ∈ records h u
  drawn : ∀ d ∈ assignment h i, ∃ v, d.uuid = some v ∧
    (i, (⟨.randomUUID, v⟩ : Answered Answer)) ∈ h.log

/-- A handler that has come to its end has written, answered and sent the record, each with its
assignment. -/
lemma handled_of_final (hr : Reachable G h) {m : DeviceList} {response : Message}
    (hm : h.messages[i]? = some (.devices m))
    (hf : Final (.devices m) (h.own i) (.ok response)) : Handled h m.uuid i := by
  generalize hown : h.own i = l at hf
  cases hf with
  | assigned _ us a n hus =>
      have hmem : ∀ x ∈ updated m us a n ++ [⟨respond m us, true⟩] ++ [⟨record m us a, ()⟩],
          (i, x) ∈ h.log := fun x hx => History.mem_own.mp (hown ▸ hx)
      have hget := hmem ⟨.store (.hget (agentKey (some m.uuid))), some a⟩ (by
        simp [updated, fetched])
      obtain ⟨v, hk, hv⟩ := (represented hr).fetched i _ a hget
      obtain rfl := agentKey_injective hk
      refine ⟨⟨m, hm, rfl⟩, ⟨updatedAgent m a us, mem_writes.mpr ⟨n, ?_⟩⟩,
        ⟨_, mem_responses.mpr ⟨rfl, _, hmem ⟨respond m us, true⟩ (by simp)⟩⟩,
        ⟨_, mem_records.mpr (hmem ⟨record m us a, ()⟩ (by simp))⟩, fun d hd => ?_⟩
      · exact hv.uuid ▸ hmem ⟨.store (.hset (agentKey a.uuid) (updatedAgent m a us)), n⟩
          (by simp [updated])
      · have heq : h.own i = draws us ++ ([⟨.store (.hget (agentKey (some m.uuid))), some a⟩] ++
            ([⟨.store (.hset (agentKey a.uuid) (updatedAgent m a us)), n⟩] ++
              ([⟨respond m us, true⟩] ++ [⟨record m us a, ()⟩]))) := by
          rw [hown, updated, fetched]
          simp only [List.append_assoc]
        rw [assignment_eq hm hus heq] at hd
        obtain ⟨v, hv, hdv⟩ := uuid_mem_of_mem_assignDevices hus.ge hd
        refine ⟨v, hdv, History.mem_own.mp ?_⟩
        rw [heq]
        exact List.mem_append_left _ (List.mem_map.mpr ⟨v, hv, rfl⟩)

/-- Two handlers give the same uuids only if both have nothing to give: every handler draws its own,
and drawn UUIDs never repeat. -/
theorem deviceUuids_assignment (hr : Reachable G h) (hi : Handled h u i) (hj : Handled h u j) :
    deviceUuids (assignment h i) = deviceUuids (assignment h j) ↔
      i = j ∨ assignment h i = [] ∧ assignment h j = [] := by
  -- a device of one list shows a UUID that its thread has drawn
  have key : ∀ {i j}, Handled h u i → Handled h u j →
      deviceUuids (assignment h i) = deviceUuids (assignment h j) → assignment h i ≠ [] →
      i = j := by
    intro i j hi hj heq hne
    obtain ⟨d, hd⟩ := List.exists_mem_of_ne_nil _ hne
    obtain ⟨x, hx⟩ := Option.isSome_iff_exists.mp (isSome_get?_deviceUuids hd)
    obtain ⟨e, he, -, hxe⟩ := mem_of_get?_deviceUuids hx
    obtain ⟨f, hf, -, hxf⟩ := mem_of_get?_deviceUuids (heq ▸ hx)
    obtain ⟨v, hev, hvi⟩ := hi.drawn e he
    obtain ⟨v', hfv, hvj⟩ := hj.drawn f hf
    obtain rfl : v = v' := Option.some.inj (by rw [← hev, ← hxe, hxf, hfv])
    exact drawn_unique hr hvi hvj
  constructor
  · intro heq
    by_cases hnil : assignment h i = []
    · by_cases hnil' : assignment h j = []
      · exact Or.inr ⟨hnil, hnil'⟩
      · exact Or.inl (key hj hi heq.symm hnil').symm
    · exact Or.inl (key hi hj heq hnil)
  · rintro (rfl | ⟨hnil, hnil'⟩)
    · rfl
    · rw [hnil, hnil']

/-- The request is a device list of the agent `u`; these are the handlers that `Finished` is
about. -/
def isDeviceList (u : UUID) : Request → Bool
  | .devices m => m.uuid = u
  | _ => false

/-- Every handler of a device list of `u` has returned its response. -/
def Finished (p : Pool (Call RedisCmd) Answer ProcessException Message Request World) (u : UUID) :
    Prop :=
  ∀ t ∈ p.threads, isDeviceList u t.1 → t.2.returned

instance (p : Pool (Call RedisCmd) Answer ProcessException Message Request World) (u : UUID) :
    Decidable (Finished p u) :=
  inferInstanceAs (Decidable (∀ t ∈ p.threads, isDeviceList u t.1 → t.2.returned))

/-- Thread `i` was the last to update the stored agent `u`, `j` the last to respond to it and `k`
the last to send it to Kafka, and each of them left its own assignment. -/
structure LastPlaces (h : Past) (u : UUID) (i j k : ℕ) : Prop where
  handlers : Handles h u i ∧ Handles h u j ∧ Handles h u k
  stored : ∃ a, h.world.redis.myAgentsKey.get? (agentKey (some u)) = some a ∧
    (writes h u).getLast? = some (i, a) ∧ a.devices = assignment h i
  responded : ∃ r, (responses h u).getLast? = some (j, r) ∧
    r.deviceUuids = deviceUuids (assignment h j)
  recorded : ∃ a, (records h u).getLast? = some (k, a) ∧ a.devices = assignment h k

/-- The uuids in the store, in the last response and in the last record are the same. -/
def PlacesAgree (h : Past) (u : UUID) : Prop :=
  ∃ a j r k b, h.world.redis.myAgentsKey.get? (agentKey (some u)) = some a ∧
    (responses h u).getLast? = some (j, r) ∧ (records h u).getLast? = some (k, b) ∧
    deviceUuids a.devices = r.deviceUuids ∧ r.deviceUuids = deviceUuids b.devices

/-- The places agree when one handler was last in all of them; otherwise two of them hold UUIDs of
different handlers, which are never the same. -/
theorem LastPlaces.agree_iff (hr : Reachable G h) {k : ℕ} (hp : LastPlaces h u i j k)
    (hi : Handled h u i) (hj : Handled h u j) (hk : Handled h u k) : PlacesAgree h u ↔
      i = j ∧ j = k ∨ assignment h i = [] ∧ assignment h j = [] ∧ assignment h k = [] := by
  obtain ⟨a, hget, -, ha⟩ := hp.stored
  obtain ⟨r, hlast, hresp⟩ := hp.responded
  obtain ⟨b, hlast', hb⟩ := hp.recorded
  have heq : PlacesAgree h u ↔ deviceUuids (assignment h i) = deviceUuids (assignment h j) ∧
      deviceUuids (assignment h j) = deviceUuids (assignment h k) := by
    constructor
    · rintro ⟨a', j', r', k', b', hget', hl, hl', h₁, h₂⟩
      obtain rfl := Option.some.inj (hget.symm.trans hget')
      obtain ⟨rfl, rfl⟩ := Prod.mk.inj (Option.some.inj (hlast.symm.trans hl))
      obtain ⟨rfl, rfl⟩ := Prod.mk.inj (Option.some.inj (hlast'.symm.trans hl'))
      rw [← ha, ← hb, ← hresp]
      exact ⟨h₁, h₂⟩
    · rintro ⟨h₁, h₂⟩
      exact ⟨a, j, r, k, b, hget, hlast, hlast', by rw [ha, hresp, h₁], by rw [hresp, hb, h₂]⟩
  rw [heq, deviceUuids_assignment hr hi hj, deviceUuids_assignment hr hj hk]
  constructor
  · rintro ⟨rfl | ⟨h₁, h₂⟩, rfl | ⟨h₃, h₄⟩⟩
    · exact Or.inl ⟨rfl, rfl⟩
    · exact Or.inr ⟨h₃, h₃, h₄⟩
    · exact Or.inr ⟨h₁, h₂, h₂⟩
    · exact Or.inr ⟨h₁, h₂, h₄⟩
  · rintro (⟨rfl, rfl⟩ | ⟨h₁, h₂, h₃⟩)
    · exact ⟨Or.inl rfl, Or.inl rfl⟩
    · exact ⟨Or.inr ⟨h₁, h₂⟩, Or.inr ⟨h₂, h₃⟩⟩

/-- A handler that has returned has left its assignment in all three places. -/
lemma handled_of_finished {acts : List (Action Request Oracle)}
    (hdone : Finished (runFramework acts) u) {i : ℕ} (hi : Handles (runFramework acts).history u i) :
    Handled (runFramework acts).history u i := by
  obtain ⟨m, hm, rfl⟩ := hi
  obtain ⟨⟨m', q⟩, ht, rfl⟩ := Option.map_eq_some_iff.mp
    ((List.getElem?_map ..).symm.trans hm)
  have hret := hdone _ (List.mem_of_getElem? ht) (by simp [isDeviceList])
  cases q with
  | ret response => exact handled_of_final (reachable_run acts) hm (returned_run acts ht)
  | throw e => exact absurd hret (by simp [Prog.returned])
  | call c k => exact absurd hret (by simp [Prog.returned])

lemma handles_of_arrived {acts : List (Action Request Oracle)} {m : DeviceList}
    (hm : Action.arrive (Request.devices m) ∈ acts) :
    ∃ i, Handles (runFramework acts).history m.uuid i := by
  have hmem : Request.devices m ∈ (runFramework acts).history.messages := by
    rw [runFramework, messages_run]
    exact List.mem_append_right _ (List.mem_filterMap.mpr ⟨_, hm, rfl⟩)
  obtain ⟨i, hi⟩ := List.getElem?_of_mem hmem
  exact ⟨i, m, hi, rfl⟩

/-- **The last handler in each place.**  Of an agent that does not deregister, once every handler of
its device lists has returned: the store, the last response and the last record each hold the whole
assignment of one handler, and they agree exactly when that is one and the same handler, or when
those handlers had no device to assign. -/
theorem last_assignments (acts : List (Action Request Oracle)) (u : UUID)
    (hder : Action.arrive (Request.deregister ⟨u⟩) ∉ acts)
    (hsome : ∃ m, Action.arrive (Request.devices m) ∈ acts ∧ m.uuid = u)
    (hdone : Finished (runFramework acts) u) :
    ∃ i j k, LastPlaces (runFramework acts).history u i j k ∧
      (PlacesAgree (runFramework acts).history u ↔ i = j ∧ j = k ∨
        assignment (runFramework acts).history i = [] ∧
        assignment (runFramework acts).history j = [] ∧
        assignment (runFramework acts).history k = []) := by
  have hr := reachable_run acts
  obtain ⟨m, hm, rfl⟩ := hsome
  obtain ⟨i₀, h₀⟩ := handles_of_arrived hm
  obtain ⟨-, ⟨a₀, hw₀⟩, ⟨r₀, hr₀⟩, ⟨b₀, hb₀⟩, -⟩ := handled_of_finished hdone h₀
  have hdereg : Request.deregister ⟨m.uuid⟩ ∉ (runFramework acts).history.messages := by
    rw [runFramework, messages_run]
    intro hmem
    obtain ⟨x, hx, hxm⟩ := List.mem_filterMap.mp (by simpa [Pool.history, Pool.start] using hmem)
    cases x with
    | arrive m' => exact hder (Option.some.inj hxm ▸ hx)
    | run i o => exact absurd hxm (by simp [Action.message?])
  -- each place has a last handler
  obtain ⟨⟨i, a⟩, hlast⟩ := Option.isSome_iff_exists.mp
    (List.getLast?_isSome.mpr (List.ne_nil_of_mem hw₀))
  obtain ⟨⟨j, r⟩, hresp⟩ := Option.isSome_iff_exists.mp
    (List.getLast?_isSome.mpr (List.ne_nil_of_mem hr₀))
  obtain ⟨⟨k, b⟩, hrec⟩ := Option.isSome_iff_exists.mp
    (List.getLast?_isSome.mpr (List.ne_nil_of_mem hb₀))
  have hi := last_write_handles hr hw₀ h₀ hlast
  obtain ⟨hj, hrj⟩ := response_eq hr (List.mem_of_getLast? hresp)
  obtain ⟨hk, hbk⟩ := record_eq hr (List.mem_of_getLast? hrec)
  have hplaces : LastPlaces (runFramework acts).history m.uuid i j k :=
    ⟨⟨hi, hj, hk⟩, ⟨a, by rw [stored_eq_last_write hr hdereg, hlast]; rfl, hlast,
      (write_eq hr (List.mem_of_getLast? hlast)).2 hi⟩, ⟨r, hresp, hrj⟩, ⟨b, hrec, hbk⟩⟩
  exact ⟨i, j, k, hplaces, hplaces.agree_iff hr (handled_of_finished hdone hi)
    (handled_of_finished hdone hj) (handled_of_finished hdone hk)⟩

/-! ## Two handlers -/

/-- The agent `7` registers and sends two device lists of one switch each. -/
def twoDeviceLists : List (Action Request Oracle) :=
  [.arrive (.register ⟨"r1i0c", "IBswitch", "simulator", "", false⟩),
    .run 0 ⟨⟨7⟩, true⟩, .run 0 ⟨⟨7⟩, true⟩, .run 0 ⟨⟨7⟩, true⟩, .run 0 ⟨⟨7⟩, true⟩,
    .arrive (.devices ⟨⟨7⟩, [⟨none, "ib0", "ib0", "switch", "r1i0c", []⟩]⟩),
    .arrive (.devices ⟨⟨7⟩, [⟨none, "ib0", "ib0", "switch", "r1i0c", []⟩]⟩)]

/-- The first handler updates, the second runs to its end, and then the first goes on. -/
def overtaken : List (Action Request Oracle) :=
  [.run 1 ⟨⟨8⟩, true⟩, .run 1 ⟨⟨8⟩, true⟩, .run 1 ⟨⟨8⟩, true⟩,
    .run 2 ⟨⟨9⟩, true⟩, .run 2 ⟨⟨9⟩, true⟩, .run 2 ⟨⟨9⟩, true⟩, .run 2 ⟨⟨9⟩, true⟩,
    .run 2 ⟨⟨9⟩, true⟩,
    .run 1 ⟨⟨8⟩, true⟩, .run 1 ⟨⟨8⟩, true⟩]

/-- The store keeps the assignment of the second handler, the agent and Kafka that of the first. -/
theorem last_assignments_overtaken :
    ∃ i j k, LastPlaces (runFramework (twoDeviceLists ++ overtaken)).history ⟨7⟩ i j k ∧
      (PlacesAgree (runFramework (twoDeviceLists ++ overtaken)).history ⟨7⟩ ↔ i = j ∧ j = k ∨
        assignment (runFramework (twoDeviceLists ++ overtaken)).history i = [] ∧
        assignment (runFramework (twoDeviceLists ++ overtaken)).history j = [] ∧
        assignment (runFramework (twoDeviceLists ++ overtaken)).history k = []) :=
  last_assignments (twoDeviceLists ++ overtaken) ⟨7⟩ (by decide)
    ⟨⟨⟨7⟩, [⟨none, "ib0", "ib0", "switch", "r1i0c", []⟩]⟩, by decide, rfl⟩
    (by decide)

/-- The places may disagree: nothing keeps one handler from overtaking another between its three
steps. -/
theorem places_disagree : ¬ ∀ (acts : List (Action Request Oracle)) (u : UUID),
    Action.arrive (Request.deregister ⟨u⟩) ∉ acts →
    (∃ m, Action.arrive (Request.devices m) ∈ acts ∧ m.uuid = u) →
    Finished (runFramework acts) u → PlacesAgree (runFramework acts).history u := by
  intro h
  obtain ⟨a, j, r, k, b, ha, hr, hb, h₁, h₂⟩ := h (twoDeviceLists ++ overtaken) ⟨7⟩ (by decide)
    ⟨⟨⟨7⟩, [⟨none, "ib0", "ib0", "switch", "r1i0c", []⟩]⟩, by decide, rfl⟩
    (by decide)
  have hstore : (runFramework (twoDeviceLists ++ overtaken)).world.redis.myAgentsKey.get?
      (agentKey (some ⟨7⟩)) = some ⟨1, "r1i0c", some ⟨7⟩, "simulator",
        [⟨some ⟨9⟩, "ib0", "ib0", "switch", "r1i0c", []⟩]⟩ := by decide
  have hresp : (responses (runFramework (twoDeviceLists ++ overtaken)).history ⟨7⟩).getLast?
      = some (1, ⟨⟨7⟩, .ofEntries [("ib0", ⟨some ⟨8⟩, ∅⟩)]⟩) := by decide
  obtain rfl := Option.some.inj (hstore.symm.trans ha)
  obtain ⟨rfl, rfl⟩ := Prod.mk.inj (Option.some.inj (hresp.symm.trans hr))
  exact absurd h₁ (by decide)

end KrakenMare
