import KrakenMare.Framework.Directory
import Mathlib.Data.List.Find

/-!
# The in-memory store stands for Redis

The framework runs over Redis, its tests over a list in memory, and the tests say something about
production only as far as the two do the same.  They are not alike: Redis keeps documents under
keys made from the uuid and hands out copies; the list hands out the objects themselves, finds them
by a walk through the list, and removes by comparing records.  Each is compared with `Directory`.

* `InRedis`, `InMemory` — the relation between a store and the directory that it stands for.
* `redis_handle`, `memory_handle` — **one request over the store is one request to the directory**:
  the same result, and related again.  This includes the requests that fail.
* `redis_serve`, `memory_serve` — any sequence of requests.
* `stores_agree` — **the two stores cannot be told apart** by the results of requests, by what is
  published and sent, or by `get`, `count` and `getAll` at any moment, but for the ids.

The ids differ by one because Redis' `INCR` answers 1 first and Java's `getAndIncrement` 0;
`Agent.shiftId` is that difference.  All of this needs the random UUIDs to be distinct: with a
repeated one the list would keep two agents where Redis overwrites one.
-/

namespace KrakenMare

open Lib MqttDeviceListListener AgentRedisRepository

/-- The agent as Redis numbers it: its counter gives out the number after the one the list would
give. -/
def Agent.shiftId (a : Agent) : Agent := { a with id := a.id + 1 }

/-- A Kafka record of an agent shows its id, and is the only output that does. -/
def Output.shiftId : Output → Output
  | .send topic key (.agent a) => .send topic key (.agent a.shiftId)
  | output => output

variable (E : Environment)

/-! ## Publishing on both sides -/

section
variable {S D : Type} {R : Alone S → Alone D → Prop} {α : Type}

/-- Two worlds that stay related when both publish the same response. -/
lemma publishing_rel {w : Alone S} {v : Alone D} {topic : String} {response : Message}
    {k : Alone S → Except ProcessException α × Alone S}
    {l : Alone D → Except ProcessException α × Alone D} (hp : w.published = v.published)
    (hR : ∀ accepted, R
      { w with published := w.published + 1,
               outputs := w.outputs ++ [.publish topic response accepted] }
      { v with published := v.published + 1,
               outputs := v.outputs ++ [.publish topic response accepted] })
    (hk : ∀ w v, R w v → (k w).1 = (l v).1 ∧ R (k w).2 (l v).2) :
    (publishing E topic response w k).1 = (publishing E topic response v l).1 ∧
      R (publishing E topic response w k).2 (publishing E topic response v l).2 := by
  simp only [publishing, hp]
  cases E.accepts v.published with
  | true => exact hk _ _ (hp ▸ hR true)
  | false => exact ⟨rfl, hp ▸ hR false⟩

end

/-! ## Redis -/

/-- The hash holds the agents of the directory, in its order, under their keys. -/
structure InRedis (w : Alone Redis) (v : Alone Directory) : Prop where
  counter : w.store.myCounterKey = v.store.index
  entries : w.store.myAgentsKey.entries
    = v.store.agents.map fun a => (agentKey a.uuid, a.shiftId)
  drawn : w.drawn = v.drawn
  published : w.published = v.published
  outputs : w.outputs = v.outputs.map Output.shiftId

namespace InRedis

variable {E} {w : Alone Redis} {v : Alone Directory}

lemma start : InRedis (Alone.start .reset) (Alone.start .empty) := ⟨rfl, rfl, rfl, rfl, rfl⟩

lemma publish (h : InRedis w v) (topic : String) (response : Message) (accepted : Bool) : InRedis
    { w with published := w.published + 1,
             outputs := w.outputs ++ [.publish topic response accepted] }
    { v with published := v.published + 1,
             outputs := v.outputs ++ [.publish topic response accepted] } :=
  ⟨h.counter, h.entries, h.drawn, congrArg (· + 1) h.published, by
    simp [h.outputs, Output.shiftId]⟩

lemma send (h : InRedis w v) (output : Output) : InRedis
    { w with outputs := w.outputs ++ [output.shiftId] }
    { v with outputs := v.outputs ++ [output] } :=
  ⟨h.counter, h.entries, h.drawn, h.published, by simp [h.outputs]⟩

lemma key_eq_iff (hv : Directory.WellFormed E v) {a : Agent} (ha : a ∈ v.store.agents)
    {u : UUID} : agentKey a.uuid = agentKey (some u) ↔ a.uuid = some u := by
  obtain ⟨x, -, hx⟩ := hv.drawn a ha
  rw [hx, agentKey_inj, Option.some.injEq]

/-- A lookup by key is a lookup by uuid. -/
lemma get? (h : InRedis w v) (hv : Directory.WellFormed E v) (u : UUID) :
    w.store.myAgentsKey.get? (agentKey (some u)) = (v.store.find u).map Agent.shiftId := by
  rw [Dict.get?, h.entries, List.find?_map, Option.map_map, Directory.find]
  have hp : ∀ a ∈ v.store.agents, ((fun e : String × Agent => decide (e.1 = agentKey (some u)))
      ∘ fun a => (agentKey a.uuid, a.shiftId)) a = decide (a.uuid = some u) := fun a ha =>
    decide_eq_decide.mpr (key_eq_iff hv ha)
  rw [List.find?_congr hp]
  rfl

/-- Registration over Redis: the new agent is under a key of its own, as its UUID has just been
drawn. -/
lemma register (h : InRedis w v) (hv : Directory.WellFormed E v)
    (hd : E.Distinct (v.drawn + 1)) (m : RegisterRequest) : InRedis
      { w with store := ⟨w.store.myCounterKey + 1, w.store.myAgentsKey.set
                  (agentKey (some (E.uuids w.drawn)))
                  ⟨(w.store.myCounterKey + 1 : ℕ), m.uid, some (E.uuids w.drawn), m.name, []⟩⟩,
               drawn := w.drawn + 1 }
      { v with store := v.store.register m (E.uuids v.drawn), drawn := v.drawn + 1 } := by
  have hnone : w.store.myAgentsKey.get? (agentKey (some (E.uuids w.drawn))) = none := by
    rw [h.get? hv, h.drawn, Option.map_eq_none_iff, Directory.find, List.find?_eq_none]
    exact fun a ha => by simpa using hv.fresh hd a ha
  refine ⟨congrArg (· + 1) h.counter, ?_, congrArg (· + 1) h.drawn, h.published, h.outputs⟩
  rw [Dict.entries_set_of_get?_none hnone, h.entries, Directory.register, List.map_append, h.counter,
    h.drawn]
  rfl

/-- A device list over Redis: the copy that is written back replaces the agent under its key. -/
lemma setDevices (h : InRedis w v) (hv : Directory.WellFormed E v) {u : UUID} {a : Agent}
    (ha : v.store.find u = some a) (ds : List Device) (n : ℕ) : InRedis
      { w with store := ⟨w.store.myCounterKey, w.store.myAgentsKey.set (agentKey a.uuid)
                  { a.shiftId with devices := ds }⟩,
               drawn := w.drawn + n }
      { v with store := v.store.setDevices u ds, drawn := v.drawn + n } := by
  obtain ⟨hmem, hau⟩ := Directory.find_eq_some ha
  have hget := h.get? hv u
  rw [ha, ← hau] at hget
  refine ⟨h.counter, ?_, congrArg (· + n) h.drawn, h.published, h.outputs⟩
  simp only [Dict.entries_set_of_get?_some hget, h.entries, Directory.setDevices, List.map_map]
  refine List.map_congr_left fun b hb => ?_
  simp only [Function.comp_apply, hau, key_eq_iff hv hb]
  split_ifs with hbu
  · obtain rfl := hv.unique hmem hb (hau.trans hbu.symm)
    exact Prod.ext (congrArg agentKey hau.symm) rfl
  · rfl

lemma delete (h : InRedis w v) (hv : Directory.WellFormed E v) (u : UUID) : InRedis
      { w with
        store := ⟨w.store.myCounterKey, w.store.myAgentsKey.del (agentKey (some u))⟩ }
      { v with store := v.store.delete u } := by
  refine ⟨h.counter, ?_, h.drawn, h.published, h.outputs⟩
  simp only [Dict.del, h.entries, Directory.delete, List.filter_map]
  congr 1
  refine List.filter_congr fun a ha => ?_
  simp [key_eq_iff hv ha]

end InRedis

/-- **One request over Redis** is one request to the directory: it has the same answer or exception,
and the stores still correspond. -/
theorem redis_handle {w : Alone Redis} {v : Alone Directory} (h : InRedis w v)
    (hv : Directory.WellFormed E v) {m : Request} (hd : E.Distinct (v.drawn + m.draws)) :
    (runAlone E Redis.exec (messageArrived agentRedisRepository m) w).1
      = (Directory.handle E m v).1 ∧
    InRedis (runAlone E Redis.exec (messageArrived agentRedisRepository m) w).2
      (Directory.handle E m v).2 := by
  cases m with
  | register m =>
      simp only [messageArrived, MqttRegistrationListener.process,
        MqttRegistrationListener.registerNewAgent, agentRedisRepository, Prog.bind_assoc,
        Prog.pure_eq, Prog.ret_bind, AgentRedisRepository.runAlone_create,
        AgentRedisRepository.runAlone_save, runAlone_sendMqttResponse, runAlone_ret,
        Directory.handle, Option.getD_some]
      have hreg := h.register hv hd m
      rw [h.drawn] at hreg ⊢
      exact publishing_rel E h.published (fun accepted => hreg.publish _ _ accepted)
        fun w v hwv => ⟨rfl, hwv⟩
  | devices m =>
      simp only [messageArrived, MqttDeviceListListener.process, agentRedisRepository,
        Prog.bind_assoc, runAlone_assignUuids, AgentRedisRepository.runAlone_get, Prog.pure_eq,
        Prog.ret_bind, AgentRedisRepository.runAlone_update, runAlone_sendMqttResponse,
        runAlone_sendKafkaMessage, runAlone_ret, Directory.handle]
      rw [h.get? hv, h.drawn]
      cases hfind : v.store.find m.uuid with
      | none =>
          exact ⟨rfl, h.counter, h.entries, rfl, h.published, h.outputs⟩
      | some a =>
          have hset := h.setDevices hv hfind
            (assignDevices m.devices (E.next v.drawn (slots m.devices))) (slots m.devices)
          rw [h.drawn] at hset
          rw [Option.map_some]
          refine publishing_rel E h.published (fun accepted => hset.publish _ _ accepted) ?_
          intro w v hwv
          exact ⟨rfl, hwv.send (.send DEVICE_REGISTRATION_TOPIC (some m.uuid.toString) (.agent
            { a with devices := assignDevices m.devices (E.next _ (slots m.devices)) }))⟩
  | deregister m =>
      simp only [messageArrived, MqttDeregistrationListener.process,
        MqttDeregistrationListener.deregisterAgent, agentRedisRepository, Prog.bind_assoc,
        AgentRedisRepository.runAlone_get, AgentRedisRepository.runAlone_delete, Prog.pure_eq,
        Prog.ret_bind, runAlone_sendMqttResponse, runAlone_sendKafkaMessage, runAlone_ret,
        Directory.handle]
      rw [h.get? hv]
      cases hfind : v.store.find m.uuid with
      | none => exact ⟨rfl, h⟩
      | some a =>
          have hau : a.shiftId.uuid = some m.uuid := (Directory.find_eq_some hfind).2
          have hget := h.get? hv m.uuid
          simp only [Option.map_some, hau, hget, hfind, Option.isSome_some, if_true]
          refine publishing_rel E h.published
            (fun accepted => (h.delete hv m.uuid).publish _ _ accepted) ?_
          intro w v hwv
          exact ⟨rfl, hwv.send (.send AGENT_DEREGISTRATION_TOPIC (some m.uuid.toString)
            (.deregisterResponse ⟨m.uuid, true⟩))⟩

/-! ## The in-memory list -/

/-- Removing the first of its kind removes the only one. -/
lemma eraseP_eq_filter {α : Type} {p : α → Bool} {a : α} : ∀ {l : List α}, l.Nodup →
    (∀ x ∈ l, p x = true ↔ x = a) → l.eraseP p = l.filter fun x => !p x
  | [], _, _ => rfl
  | x :: l, hnd, h => by
      rw [List.nodup_cons] at hnd
      have htail := fun y hy => h y (List.mem_cons_of_mem x hy)
      cases hx : p x with
      | true =>
          have hrest : ∀ y ∈ l, (!p y) = true := fun y hy => by
            rw [Bool.not_eq_true', ← Bool.not_eq_true]
            intro hpy
            have hxa := (h x List.mem_cons_self).mp hx
            exact hnd.1 (hxa.trans ((htail y hy).mp hpy).symm ▸ hy)
          rw [List.eraseP_cons_of_pos hx, List.filter_cons_of_neg (by simp [hx]),
            List.filter_eq_self.mpr hrest]
      | false =>
          rw [List.eraseP_cons_of_neg (by simp [hx]), List.filter_cons_of_pos (by simp [hx]),
            eraseP_eq_filter hnd.2 htail]

/-- The list refers to the agents of the directory, in its order. -/
structure InMemory (w : Alone Memory) (v : Alone Directory) : Prop where
  index : w.store.index = v.store.index
  agents : v.store.agents = w.store.agents.map w.store.objects
  nodup : w.store.agents.Nodup
  below : ∀ r ∈ w.store.agents, r < w.store.next
  drawn : w.drawn = v.drawn
  published : w.published = v.published
  outputs : w.outputs = v.outputs

namespace InMemory

variable {E} {w : Alone Memory} {v : Alone Directory}

lemma start : InMemory (Alone.start .init) (Alone.start .empty) :=
  ⟨rfl, rfl, List.nodup_nil, fun _ hr => absurd hr List.not_mem_nil, rfl, rfl, rfl⟩

lemma publish (h : InMemory w v) (topic : String) (response : Message) (accepted : Bool) : InMemory
    { w with published := w.published + 1,
             outputs := w.outputs ++ [.publish topic response accepted] }
    { v with published := v.published + 1,
             outputs := v.outputs ++ [.publish topic response accepted] } :=
  ⟨h.index, h.agents, h.nodup, h.below, h.drawn, congrArg (· + 1) h.published, by simp [h.outputs]⟩

lemma send (h : InMemory w v) (output : Output) : InMemory
    { w with outputs := w.outputs ++ [output] } { v with outputs := v.outputs ++ [output] } :=
  ⟨h.index, h.agents, h.nodup, h.below, h.drawn, h.published, by simp [h.outputs]⟩

lemma mem (h : InMemory w v) {r : ℕ} (hr : r ∈ w.store.agents) :
    w.store.objects r ∈ v.store.agents :=
  h.agents ▸ List.mem_map_of_mem hr

/-- Two listed references to agents with one uuid are one reference. -/
lemma unique (h : InMemory w v) (hv : Directory.WellFormed E v) {r s : ℕ}
    (hr : r ∈ w.store.agents) (hs : s ∈ w.store.agents)
    (heq : (w.store.objects r).uuid = (w.store.objects s).uuid) : r = s := by
  have hnd := hv.nodup
  rw [h.agents, List.map_map] at hnd
  exact List.inj_on_of_nodup_map hnd hr hs heq

lemma find (h : InMemory w v) (u : UUID) : v.store.find u
    = (w.store.agents.find? fun r => (w.store.objects r).uuid = some u).map w.store.objects := by
  rw [Directory.find, h.agents, List.find?_map]
  rfl

variable (E) in
/-- Registration over the in-memory list: a new object, whose reference comes last. -/
lemma register (h : InMemory w v) (m : RegisterRequest) : InMemory
    { w with
      store := ⟨w.store.index + 1, w.store.agents ++ [w.store.next],
        fun r => if r = w.store.next then
            ⟨w.store.index, m.uid, some (E.uuids w.drawn), m.name, []⟩
          else w.store.objects r, w.store.next + 1⟩
      drawn := w.drawn + 1 }
    { v with store := v.store.register m (E.uuids v.drawn), drawn := v.drawn + 1 } := by
  have hold : w.store.agents.map (fun r => if r = w.store.next then
      ⟨w.store.index, m.uid, some (E.uuids w.drawn), m.name, []⟩ else w.store.objects r)
      = w.store.agents.map w.store.objects :=
    List.map_congr_left fun r hr => if_neg (Nat.ne_of_lt (h.below r hr))
  refine ⟨congrArg (· + 1) h.index, ?_, ?_, ?_, congrArg (· + 1) h.drawn, h.published, h.outputs⟩
  · rw [List.map_append, hold, ← h.agents]
    simp only [List.map_singleton, if_true, h.index, h.drawn]
    rfl
  · refine List.nodup_append.mpr ⟨h.nodup, by simp, ?_⟩
    rintro r hr s hs rfl
    exact absurd (h.below r hr) (by simp [List.mem_singleton.mp hs])
  · intro r hr
    rcases List.mem_append.mp hr with hr | hr
    · exact Nat.lt_succ_of_lt (h.below r hr)
    · rw [List.mem_singleton.mp hr]
      exact Nat.lt_succ_self _

/-- A device list over the in-memory list: the object changes, and the list of references does
not. -/
lemma setDevices (h : InMemory w v) (hv : Directory.WellFormed E v) {u : UUID} {ref : ℕ}
    (href : (w.store.agents.find? fun r => (w.store.objects r).uuid = some u) = some ref)
    (ds : List Device) (n : ℕ) : InMemory
    { w with
      store := { w.store with objects := fun r =>
        if r = ref then { w.store.objects r with devices := ds } else w.store.objects r }
      drawn := w.drawn + n }
    { v with store := v.store.setDevices u ds, drawn := v.drawn + n } := by
  have hmem := List.mem_of_find?_eq_some href
  have hu : (w.store.objects ref).uuid = some u := by simpa using List.find?_some href
  refine ⟨h.index, ?_, h.nodup, h.below, congrArg (· + n) h.drawn, h.published, h.outputs⟩
  simp only [Directory.setDevices, h.agents, List.map_map]
  refine List.map_congr_left fun r hr => ?_
  have hiff : (w.store.objects r).uuid = some u ↔ r = ref :=
    ⟨fun hru => h.unique hv hr hmem (hru.trans hu.symm), fun hr => hr ▸ hu⟩
  simp only [Function.comp_apply, hiff]

/-- The first equal element is the one with the uuid. -/
lemma delete (h : InMemory w v) (hv : Directory.WellFormed E v) {u : UUID} {ref : ℕ}
    (href : (w.store.agents.find? fun r => (w.store.objects r).uuid = some u) = some ref) :
    InMemory
      { w with store := { w.store with
          agents := w.store.agents.eraseP fun r => w.store.objects r = w.store.objects ref } }
      { v with store := v.store.delete u } := by
  have hmem := List.mem_of_find?_eq_some href
  have hu : (w.store.objects ref).uuid = some u := by simpa using List.find?_some href
  have hsame : ∀ r ∈ w.store.agents, w.store.objects r = w.store.objects ref ↔ r = ref :=
    fun r hr => ⟨fun heq => h.unique hv hr hmem (heq ▸ rfl), fun hr => hr ▸ rfl⟩
  have huuid : ∀ r ∈ w.store.agents, (w.store.objects r).uuid = some u ↔ r = ref :=
    fun r hr => ⟨fun hru => h.unique hv hr hmem (hru.trans hu.symm), fun hr => hr ▸ hu⟩
  have herase : (w.store.agents.eraseP fun r => w.store.objects r = w.store.objects ref)
      = w.store.agents.filter fun r => (w.store.objects r).uuid ≠ some u := by
    rw [eraseP_eq_filter h.nodup fun r hr => by simpa using hsame r hr]
    exact List.filter_congr fun r hr => by simp [hsame r hr, huuid r hr]
  refine ⟨h.index, ?_, ?_, ?_, h.drawn, h.published, h.outputs⟩
  · simp only [Directory.delete, h.agents, List.filter_map, herase]
    rfl
  · exact h.nodup.sublist List.eraseP_sublist
  · exact fun r hr => h.below r (List.mem_of_mem_eraseP hr)

end InMemory

/-- **One request over the in-memory list** is one request to the directory.  The list holds
references, so that an agent whose devices have been set is up to date, and `update` has nothing to
do. -/
theorem memory_handle {w : Alone Memory} {v : Alone Directory} (h : InMemory w v)
    (hv : Directory.WellFormed E v) (m : Request) :
    (runAlone E Memory.exec (messageArrived agentMemoryRepository m) w).1
      = (Directory.handle E m v).1 ∧
    InMemory (runAlone E Memory.exec (messageArrived agentMemoryRepository m) w).2
      (Directory.handle E m v).2 := by
  cases m with
  | register m =>
      simp only [messageArrived, MqttRegistrationListener.process,
        MqttRegistrationListener.registerNewAgent, agentMemoryRepository, Prog.bind_assoc,
        Prog.pure_eq, Prog.ret_bind, AgentMemoryRepository.runAlone_create,
        AgentMemoryRepository.runAlone_save, AgentMemoryRepository.heap, Prog.perform,
        Prog.call_bind, runAlone_call, execAlone_store, Memory.exec, if_true,
        runAlone_sendMqttResponse, runAlone_ret, Directory.handle, Option.getD_some]
      have hreg := h.register E m
      rw [h.drawn] at hreg ⊢
      exact publishing_rel E h.published (fun accepted => hreg.publish _ _ accepted)
        fun w v hwv => ⟨rfl, hwv⟩
  | devices m =>
      simp only [messageArrived, MqttDeviceListListener.process, agentMemoryRepository,
        Prog.bind_assoc, runAlone_assignUuids, AgentMemoryRepository.runAlone_get, Prog.pure_eq,
        Prog.ret_bind, AgentMemoryRepository.update, AgentMemoryRepository.heap, Prog.perform,
        Prog.call_bind, runAlone_call, execAlone_store, Memory.exec, runAlone_sendMqttResponse,
        runAlone_sendKafkaMessage, runAlone_ret, Directory.handle]
      rw [h.find, h.drawn]
      cases href : w.store.agents.find? fun r => (w.store.objects r).uuid = some m.uuid with
      | none => exact ⟨rfl, h.index, h.agents, h.nodup, h.below, rfl, h.published, h.outputs⟩
      | some ref =>
          have hset := h.setDevices hv href
            (assignDevices m.devices (E.next v.drawn (slots m.devices))) (slots m.devices)
          rw [h.drawn] at hset
          rw [Option.map_some]
          -- the object sent to Kafka is the listed one, as it was changed
          refine And.imp_right And.left (publishing_rel E (R := fun w' v' => InMemory w' v' ∧
            w'.store.objects ref = { w.store.objects ref with
              devices := assignDevices m.devices (E.next v.drawn (slots m.devices)) })
            h.published (fun accepted => ⟨hset.publish _ _ accepted, if_pos rfl⟩) ?_)
          rintro w' v' ⟨hwv, hobj⟩
          refine ⟨rfl, ?_, hobj⟩
          rw [hobj]
          exact hwv.send (.send DEVICE_REGISTRATION_TOPIC (some m.uuid.toString) (.agent
            { w.store.objects ref with
              devices := assignDevices m.devices (E.next v.drawn (slots m.devices)) }))
  | deregister m =>
      simp only [messageArrived, MqttDeregistrationListener.process,
        MqttDeregistrationListener.deregisterAgent, agentMemoryRepository, Prog.bind_assoc,
        AgentMemoryRepository.runAlone_get, AgentMemoryRepository.runAlone_delete, Prog.pure_eq,
        Prog.ret_bind, runAlone_sendMqttResponse, runAlone_sendKafkaMessage, runAlone_ret,
        Directory.handle]
      rw [h.find]
      cases href : w.store.agents.find? fun r => (w.store.objects r).uuid = some m.uuid with
      | none => exact ⟨rfl, h⟩
      | some ref =>
          have hany : (w.store.agents.any fun r => w.store.objects r = w.store.objects ref)
              = true := List.any_eq_true.mpr ⟨ref, List.mem_of_find?_eq_some href, by simp⟩
          simp only [Option.map_some, hany]
          refine publishing_rel E h.published
            (fun accepted => (h.delete hv href).publish _ _ accepted) ?_
          intro w v hwv
          exact ⟨rfl, hwv.send (.send AGENT_DEREGISTRATION_TOPIC (some m.uuid.toString)
            (.deregisterResponse ⟨m.uuid, true⟩))⟩

/-! ## Any sequence of requests -/

/-- Any sequence of requests over Redis gives the results that the directory gives, and what Redis
holds in the end is the directory's. -/
theorem redis_serve : ∀ (requests : List Request) {w : Alone Redis} {v : Alone Directory},
    InRedis w v → Directory.WellFormed E v → E.Distinct (v.drawn + totalDraws requests) →
    (serve E Redis.exec agentRedisRepository requests w).1 = (Directory.serve E requests v).1 ∧
    InRedis (serve E Redis.exec agentRedisRepository requests w).2
      (Directory.serve E requests v).2 ∧
    Directory.WellFormed E (Directory.serve E requests v).2
  | [], _, _, h, hv, _ => ⟨rfl, h, hv⟩
  | m :: requests, w, v, h, hv, hd => by
      rw [totalDraws, List.map_cons, List.sum_cons, ← Nat.add_assoc] at hd
      have hdm : E.Distinct (v.drawn + m.draws) := hd.mono (Nat.le_add_right _ _)
      obtain ⟨hresult, hrel⟩ := redis_handle E h hv hdm
      obtain ⟨hresults, hrest⟩ := redis_serve requests hrel (hv.handle hdm) (by
        rw [(Directory.handle_after E m v).2]
        exact hd)
      exact ⟨by simp only [serve, Directory.serve, hresult, hresults], hrest⟩

/-- Any sequence of requests over the in-memory list gives the results that the directory gives, and
what the list refers to in the end is the directory's. -/
theorem memory_serve : ∀ (requests : List Request) {w : Alone Memory} {v : Alone Directory},
    InMemory w v → Directory.WellFormed E v → E.Distinct (v.drawn + totalDraws requests) →
    (serve E Memory.exec agentMemoryRepository requests w).1 = (Directory.serve E requests v).1 ∧
    InMemory (serve E Memory.exec agentMemoryRepository requests w).2
      (Directory.serve E requests v).2
  | [], _, _, h, _, _ => ⟨rfl, h⟩
  | m :: requests, w, v, h, hv, hd => by
      rw [totalDraws, List.map_cons, List.sum_cons, ← Nat.add_assoc] at hd
      have hdm : E.Distinct (v.drawn + m.draws) := hd.mono (Nat.le_add_right _ _)
      obtain ⟨hresult, hrel⟩ := memory_handle E h hv m
      obtain ⟨hresults, hrest⟩ := memory_serve requests hrel (hv.handle hdm) (by
        rw [(Directory.handle_after E m v).2]
        exact hd)
      exact ⟨by simp only [serve, Directory.serve, hresult, hresults], hrest⟩

/-- The copy from Redis is the object in memory, up to its id. -/
lemma get_agree {w : Alone Redis} {w' : Alone Memory} {v : Alone Directory} (hr : InRedis w v)
    (hm : InMemory w' v) (hv : Directory.WellFormed E v) (u : UUID) :
    (runAlone E Redis.exec (agentRedisRepository.get u >>= agentRedisRepository.fields) w).1
      = (runAlone E Memory.exec
          (agentMemoryRepository.get u >>= agentMemoryRepository.fields) w').1.map
          Agent.shiftId := by
  have hget := hr.get? hv u
  rw [hm.find] at hget
  simp only [agentRedisRepository, agentMemoryRepository, AgentRedisRepository.runAlone_get,
    AgentMemoryRepository.runAlone_get, hget]
  cases w'.store.agents.find? fun r => (w'.store.objects r).uuid = some u with
  | none => rfl
  | some ref => rfl

/-- The framework over a Redis that has just been reset, each request being handled to its end
before the next. -/
def overRedis (requests : List Request) : List (Except ProcessException Message) × Alone Redis :=
  serve E Redis.exec agentRedisRepository requests (Alone.start .reset)

/-- The framework over a new in-memory repository, for the same sequence of requests. -/
def overMemory (requests : List Request) : List (Except ProcessException Message) × Alone Memory :=
  serve E Memory.exec agentMemoryRepository requests (Alone.start .init)

/-- What a client sees of the two stores after some requests, the ids being shifted by one. -/
structure SameOutcome (redis : List (Except ProcessException Message) × Alone Redis)
    (memory : List (Except ProcessException Message) × Alone Memory) : Prop where
  results : redis.1 = memory.1
  outputs : redis.2.outputs = memory.2.outputs.map Output.shiftId
  get : ∀ u, (runAlone E Redis.exec
      (agentRedisRepository.get u >>= agentRedisRepository.fields) redis.2).1
    = (runAlone E Memory.exec
      (agentMemoryRepository.get u >>= agentMemoryRepository.fields) memory.2).1.map Agent.shiftId
  count : (runAlone E Redis.exec agentRedisRepository.count redis.2).1
    = (runAlone E Memory.exec agentMemoryRepository.count memory.2).1
  getAll : ∃ all all', (runAlone E Redis.exec agentRedisRepository.getAll redis.2).1 = .ok all ∧
    (runAlone E Memory.exec agentMemoryRepository.getAll memory.2).1 = .ok all' ∧
    all.Perm (all'.map Agent.shiftId)

/-- **The store of the tests stands for the store of production.**  Whatever the requests, as long
as the random UUIDs they draw are distinct, at every step the results, the MQTT responses and Kafka
records, `get`, `count` and `getAll` are the same over both. -/
theorem stores_agree (requests done : List Request) (hd : E.Distinct (totalDraws requests))
    (hdone : done <+: requests) : SameOutcome E (overRedis E done) (overMemory E done) := by
  obtain ⟨rest, rfl⟩ := hdone
  have hdistinct : E.Distinct (0 + totalDraws done) := hd.mono (by simp [totalDraws])
  have hstart := Directory.WellFormed.start E
  obtain ⟨hresults, hr, hv⟩ := redis_serve E done InRedis.start hstart hdistinct
  obtain ⟨hresults', hm⟩ := memory_serve E done InMemory.start hstart hdistinct
  have hvalues : (overRedis E done).2.store.myAgentsKey.values
      = ((overMemory E done).2.store.agents.map (overMemory E done).2.store.objects).map
          Agent.shiftId := by
    show ((serve E Redis.exec _ done _).2.store.myAgentsKey.entries.map Prod.snd) = _
    rw [hr.entries, hm.agents, List.map_map]
    rfl
  refine ⟨hresults.trans hresults'.symm, ?_, fun u => ?_, ?_, _, _, rfl, rfl, ?_⟩
  · show (serve E Redis.exec _ done _).2.outputs = _
    rw [hr.outputs, ← hm.outputs]
    rfl
  · exact get_agree E hr hm hv u
  · have hlength := congrArg List.length hvalues
    rw [Dict.values_length, List.length_map] at hlength
    exact congrArg Except.ok hlength
  · exact List.Perm.of_eq hvalues

/-- A stream of UUIDs, all accepted: the numbers from 0 on, which are distinct for long enough. -/
def counting : Environment := ⟨fun n => ⟨Fin.ofNat _ n⟩, fun _ => true⟩

/-- A life cycle, and a device list that comes too late: the agent has deregistered by then. -/
def lifeCycle : List Request :=
  [.register ⟨"r1i0c", "IBswitch", "simulator", "", false⟩,
    .devices ⟨⟨0⟩, [⟨none, "ib0", "ib0", "switch", "r1i0c", []⟩]⟩,
    .deregister ⟨⟨0⟩⟩,
    .devices ⟨⟨0⟩, [⟨none, "ib0", "ib0", "switch", "r1i0c", []⟩]⟩]

/-- An agent comes and goes, and sends a device list after it has gone, which fails over both
stores. -/
theorem stores_agree_life_cycle :
    SameOutcome counting (overRedis counting lifeCycle) (overMemory counting lifeCycle) :=
  stores_agree counting lifeCycle lifeCycle (by decide) (List.prefix_refl _)

end KrakenMare
