import KrakenMare.Framework.Alone
import KrakenMare.Framework.Executor

/-!
# What the Redis repository represents

Invariants of the Redis store under any number of handlers in any order.

**Stale copies.**  `get` hands out a copy, and a handler of a device list carries it from `get` to
`update`, while other handlers write.  An invariant about the store alone is therefore not kept by
`update`.  The one used here, `Represented`, speaks of every copy that was ever fetched as well as
of the store: all of them are agents as a registration created them (`Known`), up to their devices.

**Ids and uuids** are unique because the counter answers `1, 2, 3, …` (`ids_eq`) and because no
random UUID is drawn twice (`uuids_eq`); both are facts about the log, from which follows that two
threads cannot have been given the same (`id_unique`, `drawn_unique`).

* `redisInvariant` — what holds of the store in every reachable state: an agent is under the key of
  its uuid, its id is among those handed out, no two agents share an id, `get` finds what is stored
  under the uuid or throws, and `count` is the length of `getAll`.
* `redis_representation` — **the same for every run**, and besides: whenever a uuid is stored, now
  or later, it is stored with the same id, uid and name.

The devices of an agent are left out of the second because device lists change them; what becomes
of them is the matter of `Framework.DeviceLists` and `Framework.Listing`.
-/

namespace KrakenMare

open Lib Lib.Interleaving AgentRedisRepository MqttDeviceListListener Protocol

variable {G : World → Request → Call RedisCmd → Prop} {h h' : Past}

/-! ## What a call does -/

/-- What a call does to the agents: nothing, or it writes under one key, or it deletes one.  Every
invariant of the stored agents goes by these three cases. -/
theorem exec_agents {c : Call RedisCmd} {o : Oracle} {w w' : World} {r : Answer c}
    (he : exec c o w = some (r, w')) :
    w'.redis.myAgentsKey = w.redis.myAgentsKey ∨
    (∃ k v, c = .store (.hset k v) ∧ w'.redis.myAgentsKey = w.redis.myAgentsKey.set k v) ∨
    ∃ k, c = .store (.hdel k) ∧ w'.redis.myAgentsKey = w.redis.myAgentsKey.del k := by
  rcases exec_cases he with ⟨-, -, rfl⟩ | ⟨c', hc, rfl⟩ | ⟨-, rfl⟩
  · exact Or.inl rfl
  · obtain ⟨rfl, -⟩ := Sigma.mk.inj hc
    cases c' with
    | hset k v => exact Or.inr (Or.inl ⟨k, v, rfl, rfl⟩)
    | hdel k => exact Or.inr (Or.inr ⟨k, rfl, rfl⟩)
    | incr | hget | hlen | hgetAll => exact Or.inl rfl
  · exact Or.inl rfl

lemma exec_hget {k : String} {o : Oracle} {w w' : World} {a : Option Agent}
    (he : exec (.store (.hget k)) o w = some (a, w')) : a = w.redis.myAgentsKey.get? k :=
  (Prod.mk.inj (Option.some.inj he)).1.symm

/-! ## Every copy of an agent -/

/-- Thread `i` has registered and saved the agent `u`, with the id that it had been given before. -/
structure Created (h : Past) (i : ℕ) (m : RegisterRequest) (id : ℕ) (u : UUID) : Prop where
  message : h.messages[i]? = some (.register m)
  own : ∃ n, saved m id u n <+: h.own i

/-- `a` is the agent `u` as it was created, whatever its devices. -/
structure Known (h : Past) (u : UUID) (a : Agent) : Prop where
  uuid : a.uuid = some u
  created : ∃ i m id, Created h i m id u ∧ a.id = id ∧ a.uid = m.uid ∧ a.name = m.name

lemma Created.mono {i : ℕ} {m : RegisterRequest} {id : ℕ} {u : UUID} (hc : Created h i m id u)
    (he : h.Extends h') : Created h' i m id u := by
  obtain ⟨n, hn⟩ := hc.own
  exact ⟨he.message hc.message, n, hn.trans (he.own i)⟩

lemma Known.mono {u : UUID} {a : Agent} (hk : Known h u a) (he : h.Extends h') : Known h' u a := by
  obtain ⟨i, m, id, hc, ha⟩ := hk.created
  exact ⟨hk.uuid, i, m, id, hc.mono he, ha⟩

/-- The store holds known agents under their keys, and only such agents were ever fetched.  The
second part is what makes the first one last, since it is from a fetched copy that an update
writes. -/
structure Represented (h : Past) : Prop where
  stored : ∀ k a, h.world.redis.myAgentsKey.get? k = some a →
    ∃ u, k = agentKey (some u) ∧ Known h u a
  fetched : ∀ i k a, (i, (⟨.store (.hget k), some a⟩ : Answered Answer)) ∈ h.log →
    ∃ u, k = agentKey (some u) ∧ Known h u a

/-- What a handler writes under a key is from then on a known agent with that key. -/
lemma Represented.hset (hr : Represented h) {i : ℕ} {m : Request} {k : String} {v : Agent} {n : ℕ}
    {w : World} (hm : h.messages[i]? = some m) (hn : Next m (h.own i) (.store (.hset k v))) :
    ∃ u, k = agentKey (some u) ∧
      Known ⟨w, h.messages, h.log ++ [(i, ⟨.store (.hset k v), n⟩)]⟩ u v := by
  obtain ⟨req, id, u, rfl, hl, rfl, rfl⟩ | ⟨req, us, a, rfl, -, hl, rfl, rfl⟩ := hn.hset
  · refine ⟨u, rfl, rfl, i, req, id, ⟨hm, n, ?_⟩, rfl, rfl, rfl⟩
    rw [History.own_concat, if_pos rfl]
    exact hl ▸ List.prefix_refl _
  · -- the copy came from the store, and only its devices have changed
    have hmem : (i, (⟨.store (.hget (agentKey (some req.uuid))), some a⟩ : Answered Answer))
        ∈ h.log := History.mem_own.mp (by rw [hl]; simp [Protocol.fetched])
    obtain ⟨u, -, hk⟩ := hr.fetched i _ a hmem
    have hk' := hk.mono (History.Extends.call h w
      (i, ⟨.store (.hset (agentKey a.uuid) (updatedAgent req a us)), n⟩))
    exact ⟨u, by rw [hk.uuid], hk'.uuid, hk'.created⟩

/-- The invariant holds in every reachable state: a registration writes an agent that is known from
then on, and an update the copy that was fetched, with other devices. -/
theorem represented (hr : Reachable G h) : Represented h := by
  induction hr with
  | start => exact ⟨fun k a hka => absurd hka (by simp [World.reset, Redis.reset]), by simp⟩
  | @arrive h m hr ih =>
      have he := History.Extends.arrive h m
      refine ⟨fun k a hka => ?_, fun i k a hka => ?_⟩
      · obtain ⟨u, hk, hu⟩ := ih.stored k a hka
        exact ⟨u, hk, hu.mono he⟩
      · obtain ⟨u, hk, hu⟩ := ih.fetched i k a hka
        exact ⟨u, hk, hu.mono he⟩
  | @call h i m c r w o hr hm hn hG hexec ih =>
      have he := History.Extends.call h w (i, ⟨c, r⟩)
      have hold : ∀ k a, h.world.redis.myAgentsKey.get? k = some a →
          ∃ u, k = agentKey (some u) ∧ Known ⟨w, h.messages, h.log ++ [(i, ⟨c, r⟩)]⟩ u a := by
        intro k a hka
        obtain ⟨u, hk, hu⟩ := ih.stored k a hka
        exact ⟨u, hk, hu.mono he⟩
      refine ⟨fun k a hka => ?_, fun j k a hka => ?_⟩
      · rcases exec_agents hexec with hsame | ⟨k', v, rfl, hset⟩ | ⟨k', rfl, hdel⟩
        · exact hold k a (hsame ▸ hka)
        · simp only [hset, Dict.get?_set] at hka
          split_ifs at hka with hk
          · obtain rfl := Option.some.inj hka
            obtain ⟨u, hku, hu⟩ := ih.hset hm hn
            exact ⟨u, hk ▸ hku, hu⟩
          · exact hold k a hka
        · simp only [hdel, Dict.get?_del] at hka
          split_ifs at hka
          exact hold k a hka
      · rcases List.mem_append.mp hka with hka | hka
        · obtain ⟨u, hk, hu⟩ := ih.fetched j k a hka
          exact ⟨u, hk, hu.mono he⟩
        · obtain ⟨rfl, hcall⟩ := Prod.mk.inj (List.mem_singleton.mp hka)
          cases hcall
          exact hold k a (exec_hget hexec).symm

/-! ## Ids and UUIDs are handed out once -/

/-- The id that an entry of the log hands out, if it is an `INCR`. -/
def id? : ℕ × Answered Answer → Option ℕ
  | (_, ⟨.store .incr, id⟩) => some id
  | _ => none

/-- The UUID that an entry of the log draws, for a device as well as for an agent. -/
def uuid? : ℕ × Answered Answer → Option UUID
  | (_, ⟨.randomUUID, u⟩) => some u
  | _ => none

/-- What a call does to the counter: nothing, or it goes up by one and hands out its new value. -/
lemma exec_counter {c : Call RedisCmd} {o : Oracle} {w w' : World} {r : Answer c} (i : ℕ)
    (he : exec c o w = some (r, w')) :
    id? (i, ⟨c, r⟩) = none ∧ w'.redis.myCounterKey = w.redis.myCounterKey ∨
    id? (i, ⟨c, r⟩) = some (w.redis.myCounterKey + 1) ∧
      w'.redis.myCounterKey = w.redis.myCounterKey + 1 := by
  rcases exec_cases he with ⟨-, hc, rfl⟩ | ⟨c', hc, rfl⟩ | ⟨hc, rfl⟩
  · rw [hc]
    exact Or.inl ⟨rfl, rfl⟩
  · rw [hc]
    cases c' with
    | incr => exact Or.inr ⟨rfl, rfl⟩
    | hset | hget | hdel | hlen | hgetAll => exact Or.inl ⟨rfl, rfl⟩
  · rcases hc with ⟨topic, m, rfl⟩ | ⟨topic, key, m, rfl⟩
    · exact Or.inl ⟨rfl, rfl⟩
    · exact Or.inl ⟨rfl, rfl⟩

lemma exec_drawn {c : Call RedisCmd} {o : Oracle} {w w' : World} {r : Answer c} (i : ℕ)
    (he : exec c o w = some (r, w')) : uuid? (i, ⟨c, r⟩) = none ∧ w'.drawn = w.drawn ∨
    ∃ u ∉ w.drawn, uuid? (i, ⟨c, r⟩) = some u ∧ w'.drawn = w.drawn ++ [u] := by
  rcases exec_cases he with ⟨hnew, hc, rfl⟩ | ⟨c', hc, rfl⟩ | ⟨hc, rfl⟩
  · rw [hc]
    exact Or.inr ⟨o.uuid, hnew, rfl, rfl⟩
  · rw [hc]
    exact Or.inl ⟨rfl, rfl⟩
  · rcases hc with ⟨topic, m, rfl⟩ | ⟨topic, key, m, rfl⟩
    · exact Or.inl ⟨rfl, rfl⟩
    · exact Or.inl ⟨rfl, rfl⟩

/-- The ids handed out so far are `1`, `2`, … up to the counter, each once and in this order. -/
theorem ids_eq (hr : Reachable G h) :
    h.log.filterMap id? = List.range' 1 h.world.redis.myCounterKey := by
  induction hr with
  | start => rfl
  | arrive m hr ih => exact ih
  | @call h i m c r w o hr hm hn hG hexec ih =>
      rw [List.filterMap_append, ih]
      rcases exec_counter i hexec with ⟨hnone, hsame⟩ | ⟨hid, hnext⟩
      · simp [hnone, hsame]
      · simp [hid, hnext, List.range'_concat, Nat.add_comm 1]

/-- The UUIDs drawn by the threads are those the world has on record, no two of which are the
same. -/
theorem uuids_eq (hr : Reachable G h) :
    h.log.filterMap uuid? = h.world.drawn ∧ h.world.drawn.Nodup := by
  induction hr with
  | start => exact ⟨rfl, List.nodup_nil⟩
  | arrive m hr ih => exact ih
  | @call h i m c r w o hr hm hn hG hexec ih =>
      obtain ⟨heq, hnd⟩ := ih
      rw [List.filterMap_append, heq]
      rcases exec_drawn i hexec with ⟨hnone, hsame⟩ | ⟨u, hnew, hu, hnext⟩
      · exact ⟨by simp [hnone, hsame], hsame ▸ hnd⟩
      · refine ⟨by simp [hu, hnext], ?_⟩
        rw [hnext]
        exact List.concat_eq_append ▸ hnd.concat hnew

/-- The thread that drew a UUID is unique, since no UUID is drawn twice. -/
theorem drawn_unique (hr : Reachable G h) {i j : ℕ} {u : UUID}
    (hi : (i, (⟨.randomUUID, u⟩ : Answered Answer)) ∈ h.log)
    (hj : (j, (⟨.randomUUID, u⟩ : Answered Answer)) ∈ h.log) : i = j := by
  have hnd : (h.log.filterMap uuid?).Nodup := (uuids_eq hr).1 ▸ (uuids_eq hr).2
  exact (Prod.mk.inj (eq_of_nodup_filterMap hnd hi hj rfl rfl)).1

/-- The thread that was given an id is unique, since the counter only grows and no call resets
it. -/
theorem id_unique (hr : Reachable G h) {i j id : ℕ}
    (hi : (i, (⟨.store .incr, id⟩ : Answered Answer)) ∈ h.log)
    (hj : (j, (⟨.store .incr, id⟩ : Answered Answer)) ∈ h.log) : i = j := by
  have hnd : (h.log.filterMap id?).Nodup := ids_eq hr ▸ List.nodup_range'
  exact (Prod.mk.inj (eq_of_nodup_filterMap hnd hi hj rfl rfl)).1

namespace Created

variable {i j : ℕ} {m m' : RegisterRequest} {id id' : ℕ} {u u' : UUID}

lemma mem_incr (hc : Created h i m id u) :
    (i, (⟨.store .incr, id⟩ : Answered Answer)) ∈ h.log := by
  obtain ⟨n, hn⟩ := hc.own
  exact History.mem_own.mp (hn.mem (by simp [saved, identified]))

lemma mem_draw (hc : Created h i m id u) :
    (i, (⟨.randomUUID, u⟩ : Answered Answer)) ∈ h.log := by
  obtain ⟨n, hn⟩ := hc.own
  exact History.mem_own.mp (hn.mem (by simp [saved, identified]))

/-- A thread creates one agent. -/
lemma unique (hc : Created h i m id u) (hc' : Created h i m' id' u') :
    m = m' ∧ id = id' ∧ u = u' := by
  have hm := Option.some.inj (hc.message.symm.trans hc'.message)
  obtain ⟨n, l, hl⟩ := hc.own
  obtain ⟨n', l', hl'⟩ := hc'.own
  rw [saved, List.append_assoc] at hl hl'
  exact ⟨Request.register.inj hm, identified_inj (hl.trans hl'.symm)⟩

/-- A registration saves its agent once. -/
lemma not_identified (hr : Reachable G h) (hc : Created h i m id u) {j id' : ℕ} :
    h.own j ≠ identified id' u := by
  intro hown
  have hj : (j, (⟨.randomUUID, u⟩ : Answered Answer)) ∈ h.log :=
    History.mem_own.mp (by simp [hown, identified])
  obtain rfl := drawn_unique hr hc.mem_draw hj
  obtain ⟨n, hn⟩ := hc.own
  have hlen := hn.length_le
  simp [hown, saved, identified] at hlen

end Created

/-- **A uuid stands for one agent**: it is always seen with the same id, uid and name, by whichever
handler and however old the copy is. -/
theorem Known.unique (hr : Reachable G h) {u : UUID} {a a' : Agent} (hk : Known h u a)
    (hk' : Known h u a') : a.id = a'.id ∧ a.uid = a'.uid ∧ a.name = a'.name := by
  obtain ⟨i, m, id, hc, hid, huid, hname⟩ := hk.created
  obtain ⟨i', m', id', hc', hid', huid', hname'⟩ := hk'.created
  obtain rfl := drawn_unique hr hc.mem_draw hc'.mem_draw
  obtain ⟨rfl, rfl, -⟩ := hc.unique hc'
  exact ⟨hid.trans hid'.symm, huid.trans huid'.symm, hname.trans hname'.symm⟩

/-- Agents with one id are one agent, also when one of them is a copy that a handler still has. -/
theorem Known.uuid_eq (hr : Reachable G h) {u u' : UUID} {a a' : Agent} (hk : Known h u a)
    (hk' : Known h u' a') (hid : a.id = a'.id) : u = u' := by
  obtain ⟨i, m, id, hc, ha, -⟩ := hk.created
  obtain ⟨i', m', id', hc', ha', -⟩ := hk'.created
  obtain rfl : id = id' := by
    have := ha.symm.trans (hid.trans ha')
    exact Int.ofNat.inj this
  obtain rfl := id_unique hr hc.mem_incr hc'.mem_incr
  exact (hc.unique hc').2.2

/-- The id of a known agent is one that the counter has handed out, and so no later agent gets
it. -/
theorem Known.id_le (hr : Reachable G h) {u : UUID} {a : Agent} (hk : Known h u a) :
    1 ≤ a.id ∧ a.id ≤ h.world.redis.myCounterKey := by
  obtain ⟨i, m, id, hc, ha, -⟩ := hk.created
  have hmem : id ∈ h.log.filterMap id? := List.mem_filterMap.mpr ⟨_, hc.mem_incr, rfl⟩
  rw [ids_eq hr, List.mem_range'_1] at hmem
  omega

/-! ## The store in every reachable state -/

/-- What holds of the store between any two commands.  The last two fields are about `get`, `count`
and `getAll` run alone on the store, whatever the UUIDs and the MQTT client. -/
structure RedisInvariant (s : Redis) : Prop where
  fields : ∀ k a, s.myAgentsKey.get? k = some a → ∃ u, a.uuid = some u ∧ k = agentKey (some u)
  ids : ∀ k a, s.myAgentsKey.get? k = some a → 1 ≤ a.id ∧ a.id ≤ s.myCounterKey
  distinct : ∀ k k' a a', s.myAgentsKey.get? k = some a → s.myAgentsKey.get? k' = some a' →
    a.id = a'.id → k = k'
  get : ∀ E (w : Alone Redis) u, w.store = s →
    (runAlone E Redis.exec (AgentRedisRepository.get u) w).1 = .error (.entityNotFound u) ∨
    ∃ a, (runAlone E Redis.exec (AgentRedisRepository.get u) w).1 = .ok a ∧ a.uuid = some u
  count : ∀ E (w : Alone Redis), w.store = s →
    ∃ n all, (runAlone E Redis.exec AgentRedisRepository.count w).1 = .ok n ∧
      (runAlone E Redis.exec AgentRedisRepository.getAll w).1 = .ok all ∧ n = all.length

/-- `get` run alone answers from the field of the uuid. -/
lemma run_get (E : Environment) (w : Alone Redis) (u : UUID) :
    runAlone E Redis.exec (AgentRedisRepository.get u) w
      = ((w.store.myAgentsKey.get? (agentKey (some u))).elim
          (.error (.entityNotFound u)) .ok, w) := by
  rw [get_eq, runAlone_call]
  show runAlone E Redis.exec (Option.elim (w.store.myAgentsKey.get? (agentKey (some u))) _ _) w = _
  cases w.store.myAgentsKey.get? (agentKey (some u)) with
  | none => rfl
  | some a => rfl

/-- Every reachable store has the invariant, while any number of handlers are under way. -/
theorem redisInvariant (hr : Reachable G h) : RedisInvariant h.world.redis where
  fields k a hka := by
    obtain ⟨u, hk, hu⟩ := (represented hr).stored k a hka
    exact ⟨u, hu.uuid, hk⟩
  ids k a hka := by
    obtain ⟨u, -, hu⟩ := (represented hr).stored k a hka
    exact hu.id_le hr
  distinct k k' a a' hka hka' hid := by
    obtain ⟨u, rfl, hu⟩ := (represented hr).stored k a hka
    obtain ⟨u', rfl, hu'⟩ := (represented hr).stored k' a' hka'
    rw [hu.uuid_eq hr hu' hid]
  get E w u hw := by
    rw [run_get, hw]
    cases hget : h.world.redis.myAgentsKey.get? (agentKey (some u)) with
    | none => exact Or.inl rfl
    | some a =>
        obtain ⟨u', hk, hu'⟩ := (represented hr).stored _ a hget
        obtain rfl := agentKey_injective hk
        exact Or.inr ⟨a, rfl, hu'.uuid⟩
  count E w hw := ⟨_, _, rfl, rfl, (Dict.values_length _).symm⟩

lemma redisInvariant_run (acts : List (Action Request Oracle)) :
    RedisInvariant (runFramework acts).world.redis := redisInvariant (reachable_run acts)

/-- **The representation invariant.**  It holds in every state that handlers in any number and any
order can reach, and whenever a uuid is stored, now or later, it is stored with the same id, uid and
name. -/
theorem redis_representation (acts later : List (Action Request Oracle)) :
    RedisInvariant (runFramework acts).world.redis ∧
    ∀ k k' a a', (runFramework acts).world.redis.myAgentsKey.get? k = some a →
      (runFramework (acts ++ later)).world.redis.myAgentsKey.get? k' = some a' →
      a.uuid = a'.uuid → a.id = a'.id ∧ a.uid = a'.uid ∧ a.name = a'.name := by
  refine ⟨redisInvariant_run acts, fun k k' a a' hka hka' huuid => ?_⟩
  have hr := reachable_run (acts ++ later)
  have hext : (runFramework acts).history.Extends (runFramework (acts ++ later)).history := by
    rw [runFramework, runFramework, run_append]
    exact extends_run _ later
  obtain ⟨u, -, hu⟩ := (represented (reachable_run acts)).stored k a hka
  obtain ⟨u', -, hu'⟩ := (represented hr).stored k' a' hka'
  obtain rfl : u = u' := Option.some.inj (hu.uuid.symm.trans (huuid.trans hu'.uuid))
  exact (hu.mono hext).unique hr hu'

end KrakenMare
