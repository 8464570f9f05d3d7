import KrakenMare.Framework.Representation

/-!
# Deregistration against device lists

`MqttDeregistrationListener` deletes what it has fetched and then says so, with `success` as the
answer of `HDEL`.  `MqttDeviceListListener` writes back what it has fetched, and its `update` is an
`HSET`, which creates the field if it is not there.

So there is a race.  A device list that fetches the agent before the deregistration deletes it, and
writes it after, brings it back: the agent was told that it is gone, and the framework lists it
again.

* `UpdatesFind` — the condition that excludes this: in the run every update of a device list finds
  the field it writes.  It is about the store before each update.
* `no_resurrection` — **under this condition an agent whose deregistration has been confirmed is
  gone for good**, in every later state and whatever else goes on.
* `no_resurrection_in_order` — a run that meets the condition: the device list updates before the
  agent is fetched for deletion.
* `resurrection` — a run in which the agent comes back.

The argument (`absent_of_deleted`) is that a deleted agent is not written again: the registration
that created it has done its writing, and an update would have to find the field.
-/

namespace KrakenMare

open Lib Lib.Interleaving AgentRedisRepository MqttDeviceListListener Protocol

/-- The update of a device list finds the field it writes.  Redis does not ask for it: an `HSET`
makes a field that is not there. -/
def UpdateFinds (w : World) : Request → Call RedisCmd → Prop
  | .devices _, .store (.hset field _) => (w.redis.myAgentsKey.get? field).isSome
  | _, _ => True

instance : ∀ w m c, Decidable (UpdateFinds w m c)
  | _, .devices _, .store (.hset _ _) => inferInstanceAs (Decidable (_ = true))
  | _, .devices _, .randomUUID | _, .devices _, .publish _ _ | _, .devices _, .send _ _ _
  | _, .devices _, .store .incr | _, .devices _, .store (.hget _) | _, .devices _, .store (.hdel _)
  | _, .devices _, .store .hlen | _, .devices _, .store .hgetAll
  | _, .register _, _ | _, .deregister _, _ => .isTrue trivial

/-- Every update of a device list in the run finds the field it writes. -/
def UpdatesFind (acts : List (Action Request Oracle)) : Prop :=
  Meets (messageArrived agentRedisRepository) exec UpdateFinds (Pool.start World.reset) acts

instance (acts : List (Action Request Oracle)) : Decidable (UpdatesFind acts) :=
  inferInstanceAs (Decidable (Meets _ _ _ _ _))

/-- A `DeregisterResponse` with `success = true` has been sent for `u`, and the MQTT client took
it. -/
def Confirmed (h : Past) (u : UUID) : Prop :=
  ∃ i t, (i, (⟨.publish t (.deregisterResponse ⟨u, true⟩), true⟩ : Answered Answer)) ∈ h.log

/-- `get` raises `EntityNotFoundException` and `getAll` does not list the agent. -/
def Gone (s : Redis) (u : UUID) : Prop :=
  ∀ E (w : Alone Redis), w.store = s →
    (runAlone E Redis.exec (AgentRedisRepository.get u) w).1 = .error (.entityNotFound u) ∧
    ∃ all, (runAlone E Redis.exec AgentRedisRepository.getAll w).1 = .ok all ∧
      ∀ a ∈ all, a.uuid ≠ some u

/-- An agent is gone just when there is nothing under its key, since each is stored under its
own. -/
lemma gone_iff {s : Redis} (hs : RedisInvariant s) {u : UUID} :
    Gone s u ↔ s.myAgentsKey.get? (agentKey (some u)) = none := by
  constructor
  · intro hgone
    have hget := (hgone ⟨fun _ => u, fun _ => true⟩ (Alone.start s) rfl).1
    rw [run_get] at hget
    cases hs : s.myAgentsKey.get? (agentKey (some u)) with
    | none => rfl
    | some a => simp [Alone.start, hs] at hget
  · rintro habsent E w rfl
    refine ⟨by rw [run_get, habsent]; rfl, _, rfl, fun a ha huuid => ?_⟩
    obtain ⟨k, hk⟩ := (Dict.mem_values _).mp ha
    obtain ⟨v, hv, rfl⟩ := hs.fields k a hk
    obtain rfl := Option.some.inj (hv.symm.trans huuid)
    exact absurd (habsent.symm.trans hk) (by simp)

variable {h : Past}

/-- What `HDEL` answers. -/
lemma exec_hdel {k : String} {o : Oracle} {w w' : World} {n : ℕ}
    (he : exec (.store (.hdel k)) o w = some (n, w')) :
    n = (if (w.redis.myAgentsKey.get? k).isSome then 1 else 0) ∧
      w'.redis.myAgentsKey = w.redis.myAgentsKey.del k := by
  obtain ⟨rfl, rfl⟩ := Prod.mk.inj (Option.some.inj he)
  exact ⟨rfl, rfl⟩

/-- A registered agent that is absent is not written: its registration is over, and an update would
not find it. -/
lemma hset_ne_of_absent (hr : Reachable UpdateFinds h) {i j id : ℕ} {m : Request}
    {req : RegisterRequest} {k : String} {v : Agent} {u : UUID} (hc : Created h i req id u)
    (habsent : h.world.redis.myAgentsKey.get? (agentKey (some u)) = none)
    (hn : Next m (h.own j) (.store (.hset k v)))
    (hG : UpdateFinds h.world m (.store (.hset k v))) : agentKey (some u) ≠ k := by
  rintro rfl
  obtain ⟨req', id', u', rfl, hown, hk, -⟩ | ⟨req', us, a, rfl, -⟩ := hn.hset
  · obtain rfl := agentKey_injective hk
    exact hc.not_identified hr hown
  · simp [UpdateFinds, habsent] at hG

/-- An agent once deleted stays deleted, as long as updates find their fields: a registration writes
under a UUID that has just been drawn, and all other writes are updates. -/
theorem absent_of_deleted (hr : Reachable UpdateFinds h) {i : ℕ} {u : UUID}
    (hd : (i, (⟨.store (.hdel (agentKey (some u))), (1 : ℕ)⟩ : Answered Answer)) ∈ h.log) :
    (∃ j req id, Created h j req id u) ∧
      h.world.redis.myAgentsKey.get? (agentKey (some u)) = none := by
  induction hr with
  | start => exact absurd hd List.not_mem_nil
  | @arrive h m hr ih =>
      obtain ⟨⟨j, req, id, hc⟩, habsent⟩ := ih hd
      exact ⟨⟨j, req, id, hc.mono (History.Extends.arrive h m)⟩, habsent⟩
  | @call h i' m c r w o hr hm hn hG hexec ih =>
      have he := History.Extends.call h w (i', ⟨c, r⟩)
      rcases List.mem_append.mp hd with hd | hd
      · -- deleted before the call
        obtain ⟨⟨j, req, id, hc⟩, habsent⟩ := ih hd
        refine ⟨⟨j, req, id, hc.mono he⟩, ?_⟩
        rcases exec_agents hexec with hsame | ⟨k, v, rfl, hset⟩ | ⟨k, rfl, hdel⟩
        · rw [hsame, habsent]
        · rw [hset, Dict.get?_set_ne _ _ (hset_ne_of_absent hr hc habsent hn hG), habsent]
        · rw [hdel, Dict.get?_del, habsent, ite_self]
      · -- deleted by the call, so it was present
        obtain ⟨rfl, hcall⟩ := Prod.mk.inj (List.mem_singleton.mp hd)
        cases hcall
        obtain ⟨hone, hdel⟩ := exec_hdel hexec
        split_ifs at hone with hsome
        obtain ⟨a, ha⟩ := Option.isSome_iff_exists.mp hsome
        obtain ⟨u', hk, hu⟩ := (represented hr).stored _ a ha
        obtain rfl := agentKey_injective hk
        obtain ⟨j, req, id, hc, -⟩ := hu.created
        exact ⟨⟨j, req, id, hc.mono he⟩, by rw [hdel, Dict.get?_del, if_pos rfl]⟩

/-- Behind a confirmation stands a deletion. -/
lemma Confirmed.deleted {G : World → Request → Call RedisCmd → Prop} (hr : Reachable G h)
    {u : UUID} (hc : Confirmed h u) :
    ∃ i, (i, (⟨.store (.hdel (agentKey (some u))), (1 : ℕ)⟩ : Answered Answer)) ∈ h.log := by
  obtain ⟨i, t, hmem⟩ := hc
  obtain ⟨m, l₁, l₂, hm, hown, hn⟩ := hr.mem_log hmem
  obtain ⟨req, a, n, rfl, rfl, hresp⟩ := hn.deregisterResponse
  obtain ⟨rfl, hn1⟩ := DeregisterResponse.mk.inj hresp
  obtain rfl : n = 1 := by simpa using hn1.symm
  have hget : (i, (⟨.store (.hget (agentKey (some req.uuid))), some a⟩ : Answered Answer))
      ∈ h.log := History.mem_own.mp (by rw [hown]; simp [Protocol.deleted, found])
  have hdel : (i, (⟨.store (.hdel (agentKey a.uuid)), (1 : ℕ)⟩ : Answered Answer)) ∈ h.log :=
    History.mem_own.mp (by rw [hown]; simp [Protocol.deleted])
  obtain ⟨u, hk, hu⟩ := (represented hr).fetched i _ a hget
  obtain rfl := agentKey_injective hk
  exact ⟨i, hu.uuid ▸ hdel⟩

/-- **No resurrection.**  In a run in which every update of a device list finds the field it writes,
an agent is gone in every state after its deregistration has been confirmed. -/
theorem no_resurrection (acts later : List (Action Request Oracle)) (u : UUID)
    (hfind : UpdatesFind (acts ++ later)) (hc : Confirmed (runFramework acts).history u) :
    Gone (runFramework (acts ++ later)).world.redis u := by
  have hr : Reachable UpdateFinds (runFramework (acts ++ later)).history :=
    (reach_run along_messageArrived hfind).2
  have hext : (runFramework acts).history.Extends (runFramework (acts ++ later)).history := by
    rw [runFramework, runFramework, run_append]
    exact extends_run _ later
  obtain ⟨i, t, hmem⟩ := hc
  obtain ⟨j, hdel⟩ := Confirmed.deleted hr ⟨i, t, hext.mem hmem⟩
  exact (gone_iff (redisInvariant hr)).mpr (absent_of_deleted hr hdel).2

/-! ## The race -/

/-- The agent `7` registers and sends a device list, whose handler gets as far as `get`; then the
agent deregisters. -/
def untilConfirmed : List (Action Request Oracle) :=
  [.arrive (.register ⟨"r1i0c", "IBswitch", "simulator", "", false⟩),
    .run 0 ⟨⟨7⟩, true⟩, .run 0 ⟨⟨7⟩, true⟩, .run 0 ⟨⟨7⟩, true⟩, .run 0 ⟨⟨7⟩, true⟩,
    .arrive (.devices ⟨⟨7⟩, [⟨none, "ib0", "ib0", "switch", "r1i0c", []⟩]⟩),
    .run 1 ⟨⟨8⟩, true⟩, .run 1 ⟨⟨8⟩, true⟩,
    .arrive (.deregister ⟨⟨7⟩⟩),
    .run 2 ⟨⟨9⟩, true⟩, .run 2 ⟨⟨9⟩, true⟩, .run 2 ⟨⟨9⟩, true⟩]

/-- The handler of the device list goes on, to `update`, with the agent that it had read before the
deletion. -/
def thenUpdate : List (Action Request Oracle) := [.run 1 ⟨⟨8⟩, true⟩]

/-- When the update has been made before the agent is fetched for deletion, all is well.  The two
handlers are the same as in `resurrection`, in another order. -/
theorem no_resurrection_in_order :
    Gone (runFramework ((untilConfirmed.take 8 ++ thenUpdate ++ untilConfirmed.drop 8)
      ++ thenUpdate)).world.redis ⟨7⟩ :=
  no_resurrection (untilConfirmed.take 8 ++ thenUpdate ++ untilConfirmed.drop 8) thenUpdate ⟨7⟩
    (by decide) ⟨2, getDeregistrationResponseTopic ⟨7⟩, by decide⟩

/-- The condition is needed: a device list that was handled half way when the agent deregistered
brings it back after the confirmation. -/
theorem resurrection : ¬ ∀ (acts later : List (Action Request Oracle)) (u : UUID),
    Confirmed (runFramework acts).history u → Gone (runFramework (acts ++ later)).world.redis u := by
  intro h
  have hgone := h untilConfirmed thenUpdate ⟨7⟩ ⟨2, getDeregistrationResponseTopic ⟨7⟩, by decide⟩
  exact absurd ((gone_iff (redisInvariant_run (untilConfirmed ++ thenUpdate))).mp hgone) (by decide)

end KrakenMare
