import KrakenMare.Framework.DeviceLists
import KrakenMare.Framework.Registration

/-!
# What the REST interface lists

`GET /agents` is `AgentsResource.getAll` in `rest/AgentsResource.java`, which asks `FrameworkImpl`
and that the Redis repository.  The web server has threads of its own, so a request may fall
between any two calls of the handlers; it is one `HGETALL`, and finds the store as it is then.

A handler of a device list reads the agent, changes the copy and writes it back, so what is stored
for an agent is what was written for it last: by its registration, with no devices, or by one of
the handlers of its device lists, with the devices of that list.  Which handler wrote last is a
matter of the interleaving and not of the order in which the lists arrived.

* **`stored_last_write`** — what is stored under a key is what was written there last.
* **`listing`** — at any moment every agent is listed once, as it registered, with what was written
  for it last, and none that has its answer is missed before someone asks for its deregistration.
* **`agents_listed`** — two requests in a run, the second of which still lists what the first one
  did, unchanged as long as no device list of the agent was written in between.

Another device list of an agent replaces its devices, so the second request need not show the
devices of the first.  After a deregistration has been requested nothing is said: a handler under
way may write the agent back, which is the subject of `Framework.Deregistration`.
-/

namespace KrakenMare

open Lib Lib.Interleaving AgentRedisRepository MqttDeviceListListener Protocol

/-- `FrameworkImpl.getAgents`, which asks the Redis repository. -/
def FrameworkImpl.getAgents : Process RedisCmd.Answer (List Agent) := AgentRedisRepository.getAll

/-- `AgentsResource.getAll`, the handler of `GET /agents`, which logs the call and asks the
framework. -/
def AgentsResource.getAll : Process RedisCmd.Answer (List Agent) := FrameworkImpl.getAgents

lemma run_getAll (E : Environment) (w : Alone Redis) :
    runAlone E Redis.exec AgentsResource.getAll w = (.ok w.store.myAgentsKey.values, w) := rfl

/-- What a request shows of a history: who is listed, with which fields and devices, and who is not
left out. -/
structure Listing (h : Past) (all : List Agent) : Prop where
  distinct : (all.map Agent.uuid).Nodup
  /-- every agent is there as it registered and as it was written last: with no devices, or with all
  those of the device list for which it was written -/
  requested : ∀ a ∈ all, ∃ u m i, a.uuid = some u ∧ Request.register m ∈ h.messages ∧
    a.uid = m.uid ∧ a.name = m.name ∧ (writes h u).getLast? = some (i, a) ∧
    (a.devices = [] ∨ Handles h u i ∧ a.devices = assignment h i)
  /-- an agent that has its answer is listed, unless someone asked for its deregistration -/
  registered : ∀ i r, Welcomed h i r → Request.deregister ⟨r.uuid⟩ ∉ h.messages →
    ∃ a ∈ all, a.uuid = some r.uuid
  /-- once one of its device lists has been answered, it is listed with all the devices of one of its
  device lists, which is the one whose handler was the last to write -/
  assigned : ∀ i u r, (i, r) ∈ responses h u → Request.deregister ⟨u⟩ ∉ h.messages →
    ∃ j, ∃ a ∈ all, a.uuid = some u ∧ (writes h u).getLast? = some (j, a) ∧ Handles h u j ∧
      a.devices = assignment h j

variable {G : World → Request → Call RedisCmd → Prop} {h : Past} {u : UUID}

/-- **What is stored was written last.**  A deletion leaves nothing under the key, and a write after
it is again the last. -/
theorem stored_last_write (hr : Reachable G h) : ∀ {a : Agent},
    h.world.redis.myAgentsKey.get? (agentKey (some u)) = some a →
    ∃ i, (writes h u).getLast? = some (i, a) := by
  induction hr with
  | start => exact fun ha => absurd ha (by simp [World.reset, Redis.reset])
  | arrive m hr ih => exact ih
  | @call h i m c r w o hr hm hn hG hexec ih =>
      intro a ha
      rw [writes_concat]
      cases hw : write? u (i, ⟨c, r⟩) with
      | some x =>
          obtain ⟨n, hcall⟩ := write?_eq_some.mp hw
          cases hcall
          obtain ⟨-, rfl⟩ := Prod.mk.inj (Option.some.inj hexec)
          obtain rfl : x.2 = a := by simpa [Redis.exec] using ha
          exact ⟨x.1, by simp⟩
      | none =>
          rw [Option.toList_none, List.append_nil]
          rcases exec_agents hexec with hsame | ⟨k, v, rfl, hset⟩ | ⟨k, rfl, hdel⟩
          · exact ih (hsame ▸ ha)
          · -- a write of another agent
            rw [hset, Dict.get?_set_ne] at ha
            · exact ih ha
            · rintro rfl
              simp [write?] at hw
          · -- what is still there has not been deleted
            simp only [hdel, Dict.get?_del] at ha
            split_ifs at ha
            exact ih ha

/-- What has been written is stored, until someone asks for the deregistration. -/
lemma stored_of_written (hr : Reachable G h) (hder : Request.deregister ⟨u⟩ ∉ h.messages) {i : ℕ}
    {a : Agent} (hw : (i, a) ∈ writes h u) : ∃ x, (writes h u).getLast? = some x ∧
      h.world.redis.myAgentsKey.get? (agentKey (some u)) = some x.2 := by
  cases hlast : (writes h u).getLast? with
  | none =>
      rw [List.getLast?_eq_none_iff.mp hlast] at hw
      exact absurd hw List.not_mem_nil
  | some x =>
      refine ⟨x, rfl, ?_⟩
      rw [stored_eq_last_write hr hder, hlast]
      rfl

/-- The answer to a registration comes after the agent has been written. -/
lemma Welcomed.written (hr : Reachable G h) {i : ℕ} {r : RegisterResponse} (hw : Welcomed h i r) :
    ∃ a, (i, a) ∈ writes h r.uuid := by
  obtain ⟨m, id, hc, -⟩ := hw.created hr
  obtain ⟨n, hn⟩ := hc.own
  exact ⟨newAgent m id r.uuid, mem_writes.mpr
    ⟨n, History.mem_own.mp (hn.mem (by simp [saved]))⟩⟩

/-- So does the answer to a device list. -/
lemma written_of_response (hr : Reachable G h) {i : ℕ} {r : DeviceListResponse}
    (hmem : (i, r) ∈ responses h u) : Handles h u i ∧ ∃ a, (i, a) ∈ writes h u := by
  obtain ⟨rfl, t, hlog⟩ := mem_responses.mp hmem
  obtain ⟨m, l₁, l₂, hm, hown, hn⟩ := hr.mem_log hlog
  obtain ⟨req, us, b, n, rfl, hus, rfl, rfl⟩ := hn.deviceListResponse
  have hget : (i, (⟨.store (.hget (agentKey (some req.uuid))), some b⟩ : Answered Answer))
      ∈ h.log := History.mem_own.mp (by rw [hown]; simp [updated, fetched])
  obtain ⟨v, hk, hv⟩ := (represented hr).fetched i _ b hget
  obtain rfl := agentKey_injective hk
  refine ⟨⟨req, hm, rfl⟩, updatedAgent req b us, mem_writes.mpr ⟨n, ?_⟩⟩
  show (i, (⟨.store (.hset (agentKey (some req.uuid)) (updatedAgent req b us)), n⟩ :
    Answered Answer)) ∈ h.log
  rw [← hv.uuid]
  exact History.mem_own.mp (by rw [hown]; simp [updated])

/-- A written agent has no devices, or those of the list it was written for. -/
lemma devices_of_written (hr : Reachable G h) {i : ℕ} {a : Agent} (hw : (i, a) ∈ writes h u) :
    a.devices = [] ∨ Handles h u i ∧ a.devices = assignment h i := by
  obtain ⟨n, hmem⟩ := mem_writes.mp hw
  obtain ⟨m, l₁, l₂, hm, hown, hn⟩ := hr.mem_log hmem
  rcases hset_handles hr hm (hown ▸ List.prefix_append _ _) hn with
    ⟨req, id, -, -, rfl⟩ | ⟨hh, heq, -⟩
  · exact Or.inl rfl
  · exact Or.inr ⟨hh, heq⟩

/-- No two agents have one uuid, since the uuid makes the key. -/
lemma nodup_listing (hr : Reachable G h) :
    (h.world.redis.myAgentsKey.values.map Agent.uuid).Nodup := by
  have hkeys : (h.world.redis.myAgentsKey.values.map Agent.uuid).map agentKey
      = h.world.redis.myAgentsKey.keys := by
    rw [Dict.values, Dict.keys, List.map_map, List.map_map]
    refine List.map_congr_left fun e he => ?_
    obtain ⟨u, hk, hu⟩ := (represented hr).stored e.1 e.2 ((Dict.mem_entries _).mp he)
    rw [hk, ← hu.uuid]
    rfl
  exact List.Nodup.of_map agentKey (hkeys ▸ h.world.redis.myAgentsKey.nodupKeys)

/-- **What one request lists**, at any moment of a run, the handlers being wherever they are. -/
theorem listing (hr : Reachable G h) : Listing h h.world.redis.myAgentsKey.values where
  distinct := nodup_listing hr
  requested := by
    intro a ha
    obtain ⟨k, hk⟩ := (Dict.mem_values _).mp ha
    obtain ⟨u, rfl, hu⟩ := (represented hr).stored k a hk
    obtain ⟨i, m, id, hc, -, huid, hname⟩ := hu.created
    obtain ⟨j, hlast⟩ := stored_last_write hr hk
    exact ⟨u, m, j, hu.uuid, List.mem_of_getElem? hc.message, huid, hname, hlast,
      devices_of_written hr (List.mem_of_getLast? hlast)⟩
  registered := by
    intro i r hw hder
    obtain ⟨a, ha⟩ := hw.written hr
    obtain ⟨x, -, hx⟩ := stored_of_written hr hder ha
    obtain ⟨u, hk, hu⟩ := (represented hr).stored _ _ hx
    exact ⟨x.2, (Dict.mem_values _).mpr ⟨_, hx⟩, by rw [hu.uuid, agentKey_injective hk]⟩
  assigned := by
    intro i u r hmem hder
    obtain ⟨hh, a, ha⟩ := written_of_response hr hmem
    obtain ⟨x, hlast, hx⟩ := stored_of_written hr hder ha
    obtain ⟨v, hk, hv⟩ := (represented hr).stored _ _ hx
    have hhx := last_write_handles hr ha hh hlast
    exact ⟨x.1, x.2, (Dict.mem_values _).mpr ⟨_, hx⟩, by rw [hv.uuid, agentKey_injective hk], hlast,
      hhx, (write_eq hr (List.mem_of_getLast? hlast)).2 hhx⟩

/-! ## Two requests -/

/-- What the second of two requests, at `h'`, shows of an agent that the first one, at `h`, has
shown, unless someone has asked for its deregistration.  The agent is still there under its uuid,
id, uid and name.  It is unchanged if it was not written in between; if it was, by handlers of its
device lists, then it has the devices that the last of them assigned. -/
def StillListed (h h' : Past) (all all' : List Agent) : Prop :=
  ∀ a ∈ all, ∀ u, a.uuid = some u → Request.deregister ⟨u⟩ ∉ h'.messages →
    ∃ a' ∈ all', a'.uuid = some u ∧ a'.id = a.id ∧ a'.uid = a.uid ∧ a'.name = a.name ∧
      ∃ between, writes h' u = writes h u ++ between ∧ (between = [] → a' = a) ∧
        ∀ i b, between.getLast? = some (i, b) →
          a' = b ∧ Handles h' u i ∧ a'.devices = assignment h' i

/-- The writes of an agent that come after another one are those of its device lists. -/
lemma handles_of_later (hr : Reachable G h) {before between : List (ℕ × Agent)}
    (hw : writes h u = before ++ between) (hne : before ≠ []) :
    ∀ y ∈ between, Handles h u y.1 := by
  obtain ⟨x, rest, rfl⟩ := List.exists_cons_of_ne_nil hne
  exact fun y hy => later_writes hr hw y (List.mem_append_right rest hy)

/-- **Two requests**, for the store at the two moments: what the later one shows of the agents of
the earlier one. -/
theorem stillListed (hr : Reachable G h) {h' : Past} (hr' : Reachable G h') (he : h.Extends h') :
    StillListed h h' h.world.redis.myAgentsKey.values h'.world.redis.myAgentsKey.values := by
  intro a ha u huuid hder
  obtain ⟨k, hk⟩ := (Dict.mem_values _).mp ha
  obtain ⟨v, rfl, hv⟩ := (represented hr).stored k a hk
  obtain rfl := Option.some.inj (hv.uuid.symm.trans huuid)
  obtain ⟨i, hfirst⟩ := stored_last_write hr hk
  obtain ⟨between, hbetween⟩ : writes h v <+: writes h' v := he.log.filterMap _
  have hw' : (i, a) ∈ writes h' v := by
    rw [← hbetween]
    exact List.mem_append_left _ (List.mem_of_getLast? hfirst)
  obtain ⟨x, hlast, hx⟩ := stored_of_written hr' hder hw'
  obtain ⟨v', hkey, hv'⟩ := (represented hr').stored _ _ hx
  obtain rfl := agentKey_injective hkey
  obtain ⟨hid, huid, hname⟩ := (hv.mono he).unique hr' hv'
  refine ⟨x.2, (Dict.mem_values _).mpr ⟨_, hx⟩, hv'.uuid, hid.symm, huid.symm, hname.symm, between,
    hbetween.symm, ?_, ?_⟩
  · -- the last write is still the one that the first request has shown
    rintro rfl
    rw [List.append_nil] at hbetween
    rw [← hbetween, hfirst] at hlast
    rw [← Option.some.inj hlast]
  · intro j b hb
    have hsame : (writes h' v).getLast? = some (j, b) := by
      rw [← hbetween, List.getLast?_append, hb, Option.some_or]
    obtain rfl := Option.some.inj (hlast.symm.trans hsame)
    have hhx : Handles h' v j := handles_of_later hr' hbetween.symm
      (List.ne_nil_of_mem (List.mem_of_getLast? hfirst)) _ (List.mem_of_getLast? hb)
    exact ⟨rfl, hhx, (write_eq hr' (List.mem_of_getLast? hlast)).2 hhx⟩

/-- **The agents listed.**  Of two requests at any moments of a run, both answer, without changing
anything, and show what `Listing` says.  An agent that the first one lists is still listed by the
second, unless its deregistration has been requested: as it was if nothing was written for it in
between, and otherwise with the devices that the last handler to write assigned. -/
theorem agents_listed (acts later : List (Action Request Oracle)) (E : Environment) :
    let p := runFramework acts
    let p' := runFramework (acts ++ later)
    ∃ all all', runAlone E Redis.exec AgentsResource.getAll (.start p.world.redis)
        = (.ok all, .start p.world.redis) ∧
      runAlone E Redis.exec AgentsResource.getAll (.start p'.world.redis)
        = (.ok all', .start p'.world.redis) ∧
      Listing p.history all ∧ Listing p'.history all' ∧
        StillListed p.history p'.history all all' := by
  intro p p'
  have hr : Reachable anyCall p.history := reachable_run acts
  have hr' : Reachable anyCall p'.history := reachable_run (acts ++ later)
  have he : p.history.Extends p'.history := by
    show (runFramework acts).history.Extends (runFramework (acts ++ later)).history
    rw [runFramework, runFramework, run_append]
    exact extends_run _ later
  exact ⟨_, _, run_getAll E _, run_getAll E _, listing hr, listing hr', stillListed hr hr' he⟩

end KrakenMare
