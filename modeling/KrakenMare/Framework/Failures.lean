import KrakenMare.Framework.TwoStores

/-!
# Requests that fail

Every handler changes the store first and tells others afterwards, and nothing takes the change
back.  Here any call of a handler may throw: a Redis command, the serialization of a message before
it is published or sent, `mqtt.publish` (the `Environment` says so) and `kafkaProducer.send`.

A failure is therefore one of two kinds, and `Failure.early` tells them apart by what threw.

* **Early**: the agent is not there, or a command of the store throws.  The agents are the same as
  before, and nothing was published or sent.
* **Late**: the answer or the Kafka record fails.  The change is made and stays; what was to be
  told after the failing call is not told.

`Carried` is what a request is to do, and `Outcome` what it has done when it ends, whichever call
threw.

* `failed_requests` — **over both stores every request ends with such an outcome**, whatever calls
  throw: a request that fails before its change leaves the repository as it was, one that fails
  afterwards leaves it changed, and one that succeeds has told everybody.
* `failed_requests_refused_devices` — a registered agent sends its device list and the MQTT client
  refuses the answer: it keeps devices whose UUIDs nobody was told.
* `refused_agent_stays` — an agent whose registration is not answered stays registered.

The store is one that the abstract repository describes; by `Framework.TwoStores` each store that
requests have led to is.
-/

namespace KrakenMare

open Lib MqttDeviceListListener AgentRedisRepository

/-! ## Calls that throw -/

/-- Which calls throw.  A publish or a send throws where its message is serialized or handed
over. -/
structure Faults (Cmd : Type) where
  store : Cmd → Bool
  publish : String → Message → Bool
  send : String → Option String → Message → Bool

/-- Whether a call throws.  Drawing a UUID never does; the rest is as the faults say. -/
def Faults.throws {Cmd : Type} (F : Faults Cmd) : Call Cmd → Bool
  | .randomUUID => false
  | .store c => F.store c
  | .publish topic message => F.publish topic message
  | .send topic key value => F.send topic key value

/-- What ended a request: an exception of `process` itself, or a call that threw. -/
abbrev Failure (Cmd : Type) := ProcessException ⊕ Call Cmd

/-- The failures of the repository: an agent that is not there, or a command that throws. -/
def Failure.early {Cmd : Type} : Failure Cmd → Bool
  | .inl (.entityNotFound _) => true
  | .inr (.store _) => true
  | _ => false

/-- The topic on which a request is answered, made from what the request itself carries. -/
def Request.responseTopic : Request → String
  | .register m => getRegistrationResponseTopic m.uid
  | .devices m => getSensorListResponseTopic m.uuid
  | .deregister m => getDeregistrationResponseTopic m.uuid

/-- What has been published when the request failed after its change. -/
def Failure.published {Cmd : Type} (m : Request) (response : Message) : Failure Cmd → List Output
  | .inr (.send _ _ _) => [.publish m.responseTopic response true]
  | .inl .mqtt => [.publish m.responseTopic response false]
  | _ => []

/-! ## What a request is to do -/

/-- The agents before and after a request, its response and its Kafka records. -/
inductive Carried : Request → List Agent → List Agent → Message → List Output → Prop
  | register {m : RegisterRequest} {held : List Agent} (a : Agent) (u : UUID)
      (ha : a = ⟨a.id, m.uid, some u, m.name, []⟩) :
      Carried (.register m) held (held ++ [a])
        (.registerResponse ⟨m.uid, true, "Registration succeed", u, ∅⟩) []
  | devices {m : DeviceList} {held : List Agent} (a : Agent) (us : List UUID)
      (ha : a ∈ held ∧ a.uuid = some m.uuid) (hus : us.length = slots m.devices) :
      Carried (.devices m) held
        (held.map fun b =>
          if b.uuid = some m.uuid then { b with devices := assignDevices m.devices us } else b)
        (.deviceListResponse ⟨m.uuid, deviceUuids (assignDevices m.devices us)⟩)
        [.send DEVICE_REGISTRATION_TOPIC (some m.uuid.toString)
          (.agent { a with devices := assignDevices m.devices us })]
  | deregister {m : DeregisterRequest} {held : List Agent} (a : Agent)
      (ha : a ∈ held ∧ a.uuid = some m.uuid) :
      Carried (.deregister m) held (held.filter fun b => b.uuid ≠ some m.uuid)
        (.deregisterResponse ⟨m.uuid, true⟩)
        [.send AGENT_DEREGISTRATION_TOPIC (some m.uuid.toString)
          (.deregisterResponse ⟨m.uuid, true⟩)]

/-- A request has ended, `held` being the agents of a store.  A failure of the repository leaves
everything as it was; any later failure leaves the change made and the rest not done. -/
structure Outcome {Cmd S : Type} (held : S → List Agent) (m : Request) (w : Alone S)
    (out : Except (Failure Cmd) Message × Alone S) : Prop where
  early : ∀ e, out.1 = .error e → e.early = true →
    held out.2.store = held w.store ∧ out.2.outputs = w.outputs
  late : ∀ e, out.1 = .error e → e.early = false → ∃ response records,
    Carried m (held w.store) (held out.2.store) response records ∧
      out.2.outputs = w.outputs ++ e.published m response
  done : ∀ response, out.1 = .ok response → ∃ records,
    Carried m (held w.store) (held out.2.store) response records ∧
      out.2.outputs = w.outputs ++ .publish m.responseTopic response true :: records

/-! ## The parts of a handler -/

variable {Cmd : Type} {Ans : Cmd → Type} {S : Type} (E : Environment)
  (exec : (c : Cmd) → S → Ans c × S) (F : Faults Cmd)

/-- A program run up to the first call that throws.  What was done before it stays done. -/
def attemptAlone {α : Type} (p : Process Ans α) (w : Alone S) :
    Except (Failure Cmd) α × Alone S :=
  p.attempt (execAlone E exec) F.throws w

section
variable {α : Type} (w : Alone S)

@[simp] lemma attemptAlone_ret (a : α) : attemptAlone E exec F (.ret a) w = (.ok a, w) := rfl

@[simp] lemma attemptAlone_throw (e : ProcessException) :
    attemptAlone E exec F (.throw e : Process Ans α) w = (.error (.inl e), w) := rfl

@[simp] lemma attemptAlone_store (c : Cmd) (k : Ans c → Process Ans α) :
    attemptAlone E exec F (.call (.store c) k) w = if F.store c then (.error (.inr (.store c)), w)
      else attemptAlone E exec F (k (exec c w.store).1) { w with store := (exec c w.store).2 } := rfl

@[simp] lemma attemptAlone_randomUUID (k : UUID → Process Ans α) :
    attemptAlone E exec F (.call .randomUUID k) w
      = attemptAlone E exec F (k (E.uuids w.drawn)) { w with drawn := w.drawn + 1 } := rfl

/-- The loops of a device list make no call that throws. -/
lemma attemptAlone_assignUuids (ds : List Device) (k : List Device → Process Ans α) :
    attemptAlone E exec F (assignUuids ds >>= k) w
      = attemptAlone E exec F (k (assignDevices ds (E.next w.drawn (slots ds))))
          { w with drawn := w.drawn + slots ds } := by
  have halong : Prog.Along (fun _ c => F.throws c = false) _ (assignUuids ds : Process Ans _) _ :=
    along_assignUuids ds [] fun us _ => rfl
  exact Prog.attempt_bind_ok _ _ (Prog.attempt_of_along halong (run_assignUuids E exec ds w))

end

/-! ## Telling others -/

section
variable {held : S → List Agent} {m : Request} {w v : Alone S} {response : Message}
  {records : List Output} {E exec F}

lemma Outcome.fail {e : Failure Cmd} (he : e.early = true) (hheld : held v.store = held w.store)
    (houtputs : v.outputs = w.outputs) : Outcome held m w (.error e, v) where
  early _ _ _ := ⟨hheld, houtputs⟩
  late e' he' hlate := by
    obtain rfl := Except.error.inj he'
    rw [he] at hlate
    exact absurd hlate (by simp)
  done _ h := absurd h (by simp)

lemma Outcome.failLate {e : Failure Cmd} (he : e.early = false)
    (h : Carried m (held w.store) (held v.store) response records)
    (houtputs : v.outputs = w.outputs ++ e.published m response) :
    Outcome held m w (.error e, v) where
  early e' he' hearly := by
    obtain rfl := Except.error.inj he'
    rw [he] at hearly
    exact absurd hearly (by simp)
  late e' he' _ := by
    obtain rfl := Except.error.inj he'
    exact ⟨response, records, h, houtputs⟩
  done _ h := absurd h (by simp)

lemma Outcome.succeed (h : Carried m (held w.store) (held v.store) response records)
    (houtputs : v.outputs = w.outputs ++ .publish m.responseTopic response true :: records) :
    Outcome held m w ((.ok response, v) : Except (Failure Cmd) Message × Alone S) where
  early _ h' := absurd h' (by simp)
  late _ h' := absurd h' (by simp)
  done response' h' := by
    obtain rfl := Except.ok.inj h'
    exact ⟨records, h, houtputs⟩

/-- **The response.**  The change being made, whatever becomes of the response it stays: if the
publication throws or is refused, the handler is over, and otherwise it goes on. -/
theorem Outcome.respond {k : Unit → Process Ans Message}
    (h : Carried m (held w.store) (held v.store) response records) (houtputs : v.outputs = w.outputs)
    (hk : ∀ v', v'.store = v.store →
      v'.outputs = w.outputs ++ [.publish m.responseTopic response true] →
      Outcome held m w (attemptAlone E exec F (k ()) v')) :
    Outcome held m w
      (attemptAlone E exec F (sendMqttResponse m.responseTopic response >>= k) v) := by
  have hsend : attemptAlone E exec F (sendMqttResponse m.responseTopic response >>= k) v
      = if F.publish m.responseTopic response then
          (.error (.inr (.publish m.responseTopic response)), v)
        else attemptAlone E exec F ((if E.accepts v.published then pure () else .throw .mqtt) >>= k)
          { v with published := v.published + 1, outputs := v.outputs ++
              [.publish m.responseTopic response (E.accepts v.published)] } := rfl
  rw [hsend]
  split_ifs with hthrows haccepts
  · exact Outcome.failLate rfl h (by simp [houtputs, Failure.published])
  · exact hk _ rfl (by simp [houtputs, haccepts])
  · exact Outcome.failLate rfl h (by simp [houtputs, Failure.published, haccepts])

/-- **The record.**  It is the last thing a handler does, so that a record which cannot be sent
changes neither the store nor the response. -/
theorem Outcome.record {topic : String} {u : UUID} {value : Message}
    (h : Carried m (held w.store) (held v.store) response
      [.send topic (some u.toString) value])
    (houtputs : v.outputs = w.outputs ++ [.publish m.responseTopic response true]) :
    Outcome held m w (attemptAlone E exec F
      (sendKafkaMessage topic (some u) value >>= fun _ => Prog.ret response) v) := by
  have hsend : attemptAlone E exec F
      (sendKafkaMessage topic (some u) value >>= fun _ => Prog.ret response) v
      = if F.send topic (some u.toString) value then
          (.error (.inr (.send topic (some u.toString) value)), v)
        else (.ok response,
          { v with outputs := v.outputs ++ [.send topic (some u.toString) value] }) := rfl
  rw [hsend]
  split_ifs with hthrows
  · exact Outcome.failLate rfl h houtputs
  · exact Outcome.succeed h (by simp [houtputs])

end

/-! ## Over Redis -/

/-- The agents that Redis holds, without their keys, which say nothing more. -/
def Redis.held (s : Redis) : List Agent := s.myAgentsKey.values

/-- The agents that the in-memory list refers to, as they are now. -/
def Memory.held (s : Memory) : List Agent := s.agents.map s.objects

section
variable {E F} {w : Alone Redis} {v : Alone Directory}

lemma InRedis.held (h : InRedis w v) : w.store.held = v.store.agents.map Agent.shiftId := by
  rw [Redis.held, Dict.values, h.entries, List.map_map]
  rfl

lemma map_shiftId_setDevices (D : Directory) (u : UUID) (ds : List Device) :
    (D.setDevices u ds).agents.map Agent.shiftId = (D.agents.map Agent.shiftId).map
      fun b => if b.uuid = some u then { b with devices := ds } else b := by
  rw [Directory.setDevices, List.map_map, List.map_map]
  refine List.map_congr_left fun a _ => ?_
  by_cases hau : a.uuid = some u
  · simp [Agent.shiftId, hau]
  · simp [Agent.shiftId, hau]

lemma map_shiftId_delete (D : Directory) (u : UUID) : (D.delete u).agents.map Agent.shiftId
    = (D.agents.map Agent.shiftId).filter fun b => b.uuid ≠ some u := by
  rw [List.filter_map]
  rfl

lemma attemptAlone_redisGet {α : Type} (E : Environment) (F : Faults RedisCmd) (w : Alone Redis)
    (u : UUID) (k : Agent → Process RedisCmd.Answer α) :
    attemptAlone E Redis.exec F (AgentRedisRepository.get u >>= k) w
      = if F.store (.hget (agentKey (some u))) then
          (.error (.inr (.store (.hget (agentKey (some u))))), w)
        else match w.store.myAgentsKey.get? (agentKey (some u)) with
          | none => (.error (.inl (.entityNotFound u)), w)
          | some a => attemptAlone E Redis.exec F (k a) w := by
  rw [AgentRedisRepository.get_bind, attemptAlone_store]
  show (if _ then _ else attemptAlone E Redis.exec F
    (Option.elim (w.store.myAgentsKey.get? (agentKey (some u))) _ k) w) = _
  cases w.store.myAgentsKey.get? (agentKey (some u)) with
  | none => rfl
  | some a => rfl

/-- **One request over Redis**, any call of which may throw: whichever it is, what is left behind is
an `Outcome`. -/
theorem redis_outcome (F : Faults RedisCmd) (h : InRedis w v) (hv : Directory.WellFormed E v)
    (m : Request) (hd : E.Distinct (v.drawn + m.draws)) : Outcome Redis.held m w
      (attemptAlone E Redis.exec F (messageArrived agentRedisRepository m) w) := by
  cases m with
  | register m =>
      have hreg := (h.register hv hd m).held
      simp only [Directory.register, List.map_append, List.map_singleton, ← h.held, ← h.drawn]
        at hreg
      have hcarried : Carried (.register m) w.store.held _ _ _ :=
        .register (v.store.created m (E.uuids w.drawn)).shiftId (E.uuids w.drawn) rfl
      rw [← hreg] at hcarried
      simp only [messageArrived, MqttRegistrationListener.process,
        MqttRegistrationListener.registerNewAgent, agentRedisRepository, create, save, jedis,
        randomUUID, Prog.perform, Prog.bind_assoc, Prog.call_bind, Prog.pure_eq, Prog.ret_bind,
        attemptAlone_store, attemptAlone_randomUUID, Option.getD_some]
      split_ifs
      · exact Outcome.fail rfl rfl rfl
      · exact Outcome.fail rfl rfl rfl
      · refine Outcome.respond hcarried rfl fun v' hstore houtputs => ?_
        exact Outcome.succeed (hstore ▸ hcarried) houtputs
  | devices m =>
      simp only [messageArrived, MqttDeviceListListener.process, agentRedisRepository,
        Prog.bind_assoc, attemptAlone_assignUuids, attemptAlone_redisGet, update, save, jedis,
        Prog.perform, Prog.call_bind, Prog.pure_eq, Prog.ret_bind, attemptAlone_store]
      rw [h.get? hv]
      split_ifs
      · exact Outcome.fail rfl rfl rfl
      · cases hfind : v.store.find m.uuid with
        | none => exact Outcome.fail rfl rfl rfl
        | some a =>
            rw [Option.map_some]
            simp only
            split_ifs
            · exact Outcome.fail rfl rfl rfl
            · have hset := (h.setDevices hv hfind
                (assignDevices m.devices (E.next w.drawn (slots m.devices))) (slots m.devices)).held
              rw [map_shiftId_setDevices, ← h.held] at hset
              have ha : a.shiftId ∈ w.store.held ∧ a.shiftId.uuid = some m.uuid := by
                rw [h.held]
                exact (Directory.find_eq_some hfind).imp List.mem_map_of_mem id
              have hcarried := Carried.devices (m := m) a.shiftId _ ha
                (Environment.length_next E w.drawn (slots m.devices))
              rw [← hset] at hcarried
              refine Outcome.respond hcarried rfl fun v' hstore houtputs => ?_
              exact Outcome.record (hstore ▸ hcarried) houtputs
  | deregister m =>
      simp only [messageArrived, MqttDeregistrationListener.process,
        MqttDeregistrationListener.deregisterAgent, agentRedisRepository, delete, jedis,
        attemptAlone_redisGet, Prog.perform, Prog.bind_assoc, Prog.call_bind, Prog.pure_eq,
        Prog.ret_bind, attemptAlone_store]
      have hget := h.get? hv m.uuid
      rw [hget]
      split_ifs
      · exact Outcome.fail rfl rfl rfl
      · cases hfind : v.store.find m.uuid with
        | none => exact Outcome.fail rfl rfl rfl
        | some a =>
            have ha : a.shiftId ∈ w.store.held ∧ a.shiftId.uuid = some m.uuid := by
              rw [h.held]
              exact (Directory.find_eq_some hfind).imp List.mem_map_of_mem id
            have hdel := (h.delete hv m.uuid).held
            rw [map_shiftId_delete, ← h.held] at hdel
            have hcarried := Carried.deregister a.shiftId ha
            rw [← hdel] at hcarried
            rw [hfind, Option.map_some] at hget
            simp only [Option.map_some, ha.2, Redis.exec, hget, Option.isSome_some, if_true]
            split_ifs
            · exact Outcome.fail rfl rfl rfl
            · refine Outcome.respond hcarried rfl fun v' hstore houtputs => ?_
              exact Outcome.record (hstore ▸ hcarried) houtputs

end

/-! ## Over the in-memory list -/

/-- No method of a Java list throws; the rest may, as it does over Redis. -/
def Faults.onHeap {Cmd : Type} (F : Faults Cmd) : Faults MemoryCmd :=
  ⟨fun _ => false, F.publish, F.send⟩

section
variable {E} {w : Alone Memory} {v : Alone Directory}

lemma attemptAlone_memoryGet {α : Type} (E : Environment) (F : Faults Cmd) (w : Alone Memory)
    (u : UUID) (k : ℕ → Process MemoryCmd.Answer α) :
    attemptAlone E Memory.exec F.onHeap (AgentMemoryRepository.get u >>= k) w
      = match w.store.agents.find? fun r => (w.store.objects r).uuid = some u with
        | none => (.error (.inl (.entityNotFound u)), w)
        | some r => attemptAlone E Memory.exec F.onHeap (k r) w := by
  rw [AgentMemoryRepository.get_bind, attemptAlone_store]
  show attemptAlone E Memory.exec F.onHeap (Option.elim
    (w.store.agents.find? fun r => (w.store.objects r).uuid = some u) _ k) w = _
  cases w.store.agents.find? fun r => (w.store.objects r).uuid = some u with
  | none => rfl
  | some r => rfl

lemma attemptAlone_heap {α : Type} (F : Faults Cmd) (w : Alone Memory) (c : MemoryCmd)
    (k : c.Answer → Process MemoryCmd.Answer α) :
    attemptAlone E Memory.exec F.onHeap (.call (.store c) k) w
      = attemptAlone E Memory.exec F.onHeap (k (Memory.exec c w.store).1)
          { w with store := (Memory.exec c w.store).2 } := rfl

/-- **One request over the in-memory list**, whose own methods do not throw; serialization, MQTT and
Kafka may. -/
theorem memory_outcome (F : Faults Cmd) (h : InMemory w v) (hv : Directory.WellFormed E v)
    (m : Request) : Outcome Memory.held m w
      (attemptAlone E Memory.exec F.onHeap (messageArrived agentMemoryRepository m) w) := by
  have hheld : w.store.held = v.store.agents := h.agents.symm
  cases m with
  | register m =>
      have hreg : _ = Memory.held _ := (h.register E m).agents
      simp only [Directory.register, ← hheld, ← h.drawn] at hreg
      have hcarried : Carried (.register m) w.store.held _ _ _ :=
        .register (v.store.created m (E.uuids w.drawn)) (E.uuids w.drawn) rfl
      rw [hreg] at hcarried
      simp only [messageArrived, MqttRegistrationListener.process,
        MqttRegistrationListener.registerNewAgent, agentMemoryRepository,
        AgentMemoryRepository.create, AgentMemoryRepository.save, AgentMemoryRepository.heap,
        randomUUID, Prog.perform, Prog.bind_assoc, Prog.call_bind, Prog.pure_eq, Prog.ret_bind,
        attemptAlone_heap, attemptAlone_randomUUID, Memory.exec, if_true, Option.getD_some]
      refine Outcome.respond hcarried rfl fun v' hstore houtputs => ?_
      exact Outcome.succeed (hstore ▸ hcarried) houtputs
  | devices m =>
      simp only [messageArrived, MqttDeviceListListener.process, agentMemoryRepository,
        Prog.bind_assoc, attemptAlone_assignUuids, attemptAlone_memoryGet,
        AgentMemoryRepository.update, AgentMemoryRepository.heap, Prog.perform, Prog.call_bind,
        Prog.pure_eq, Prog.ret_bind, attemptAlone_heap]
      cases href : w.store.agents.find? fun r => (w.store.objects r).uuid = some m.uuid with
      | none => exact Outcome.fail rfl rfl rfl
      | some ref =>
          have hset : _ = Memory.held _ := (h.setDevices hv href
            (assignDevices m.devices (E.next w.drawn (slots m.devices))) (slots m.devices)).agents
          simp only [Directory.setDevices, ← hheld] at hset
          have ha : w.store.objects ref ∈ w.store.held ∧
              (w.store.objects ref).uuid = some m.uuid :=
            ⟨List.mem_map_of_mem (List.mem_of_find?_eq_some href),
              by simpa using List.find?_some href⟩
          have hcarried := Carried.devices (m := m) (w.store.objects ref) _ ha
            (Environment.length_next E w.drawn (slots m.devices))
          rw [hset] at hcarried
          refine Outcome.respond hcarried rfl fun v' hstore houtputs => ?_
          -- the object sent to Kafka is the listed one, as it was changed
          have hread : (Memory.exec (.read ref) v'.store).1 = { w.store.objects ref with
              devices := assignDevices m.devices (E.next w.drawn (slots m.devices)) } := by
            rw [hstore]
            exact if_pos rfl
          rw [attemptAlone_heap, hread]
          exact Outcome.record (hstore ▸ hcarried) houtputs
  | deregister m =>
      simp only [messageArrived, MqttDeregistrationListener.process,
        MqttDeregistrationListener.deregisterAgent, agentMemoryRepository,
        AgentMemoryRepository.delete, attemptAlone_memoryGet, AgentMemoryRepository.heap,
        Prog.perform, Prog.bind_assoc, Prog.call_bind, Prog.pure_eq, Prog.ret_bind,
        attemptAlone_heap]
      cases href : w.store.agents.find? fun r => (w.store.objects r).uuid = some m.uuid with
      | none => exact Outcome.fail rfl rfl rfl
      | some ref =>
          have ha : w.store.objects ref ∈ w.store.held ∧
              (w.store.objects ref).uuid = some m.uuid :=
            ⟨List.mem_map_of_mem (List.mem_of_find?_eq_some href),
              by simpa using List.find?_some href⟩
          have hdel : _ = Memory.held _ := (h.delete hv href).agents
          simp only [Directory.delete, ← hheld] at hdel
          have hcarried := Carried.deregister _ ha
          rw [hdel] at hcarried
          have hany : (w.store.agents.any fun r => w.store.objects r = w.store.objects ref)
              = true := List.any_eq_true.mpr ⟨ref, List.mem_of_find?_eq_some href, by simp⟩
          simp only [Memory.exec, hany]
          refine Outcome.respond hcarried rfl fun v' hstore houtputs => ?_
          exact Outcome.record (hstore ▸ hcarried) houtputs

end

/-! ## Over both stores -/

/-- **A request that fails leaves the repository as it was only if the repository made it fail.**
Once the change is made it stays, whatever becomes of the response and of the Kafka record; and a
request that succeeds has made its change and told everybody. -/
theorem failed_requests (E : Environment) (F : Faults RedisCmd) (m : Request) {v : Alone Directory}
    (hv : Directory.WellFormed E v) (hd : E.Distinct (v.drawn + m.draws)) :
    (∀ w, InRedis w v → Outcome Redis.held m w
      (attemptAlone E Redis.exec F (messageArrived agentRedisRepository m) w)) ∧
    (∀ w, InMemory w v → Outcome Memory.held m w
      (attemptAlone E Memory.exec F.onHeap (messageArrived agentMemoryRepository m) w)) :=
  ⟨fun _ h => redis_outcome F h hv m hd, fun _ h => memory_outcome F h hv m⟩

/-- No call throws, apart from what the `Environment` refuses. -/
def noFaults : Faults RedisCmd := ⟨fun _ => false, fun _ _ => false, fun _ _ _ => false⟩

/-- The MQTT client accepts the response to the registration and refuses the next message, as it
does with too many in flight. -/
def refusingSecond : Environment := ⟨counting.uuids, fun n => n == 0⟩

/-- One agent has registered, and got the uuid 0; it has no devices yet. -/
def oneAgent : List Request := [.register ⟨"r1i0c", "IBswitch", "simulator", "", false⟩]

/-- The device list of that agent: a switch with two sensors. -/
def refusedDevices : Request :=
  .devices ⟨⟨0⟩, [⟨none, "ib0", "ib0", "switch", "r1i0c",
    [plainSensor "PortRcvData", plainSensor "PortXmitData"]⟩]⟩

/-- **A response refused with an agent stored.**  The device list of a registered agent fails over
both stores because the MQTT client refuses its response, and the outcome is the one of a late
failure: the agent keeps the devices with their new uuids, and the Kafka record is missing. -/
theorem failed_requests_refused_devices :
    (attemptAlone refusingSecond Redis.exec noFaults (messageArrived agentRedisRepository
      refusedDevices) (overRedis refusingSecond oneAgent).2).1 = .error (.inl .mqtt) ∧
    Outcome Redis.held refusedDevices (overRedis refusingSecond oneAgent).2
      (attemptAlone refusingSecond Redis.exec noFaults (messageArrived agentRedisRepository
        refusedDevices) (overRedis refusingSecond oneAgent).2) ∧
    (attemptAlone refusingSecond Memory.exec noFaults.onHeap (messageArrived agentMemoryRepository
      refusedDevices) (overMemory refusingSecond oneAgent).2).1 = .error (.inl .mqtt) ∧
    Outcome Memory.held refusedDevices (overMemory refusingSecond oneAgent).2
      (attemptAlone refusingSecond Memory.exec noFaults.onHeap (messageArrived agentMemoryRepository
        refusedDevices) (overMemory refusingSecond oneAgent).2) := by
  have hstart := Directory.WellFormed.start refusingSecond
  have hd : refusingSecond.Distinct (0 + totalDraws oneAgent) := by decide
  obtain ⟨-, hr, hv⟩ := redis_serve refusingSecond oneAgent InRedis.start hstart hd
  obtain ⟨-, hm⟩ := memory_serve refusingSecond oneAgent InMemory.start hstart hd
  obtain ⟨hredis, hmemory⟩ := failed_requests refusingSecond noFaults refusedDevices hv (by decide)
  exact ⟨by decide, hredis _ hr, by decide, hmemory _ hm⟩

/-- The MQTT client refuses every message, as it does with too many in flight. -/
def refusing : Environment := ⟨counting.uuids, fun _ => false⟩

/-- An agent whose response is refused stays registered: the handler ends with an MQTT exception,
and the store is not the one before the request. -/
theorem refused_agent_stays :
    (attemptAlone refusing Redis.exec noFaults (messageArrived agentRedisRepository
      (.register ⟨"r1i0c", "IBswitch", "simulator", "", false⟩)) (Alone.start .reset)).1
        = .error (.inl .mqtt) ∧
    (attemptAlone refusing Redis.exec noFaults (messageArrived agentRedisRepository
      (.register ⟨"r1i0c", "IBswitch", "simulator", "", false⟩)) (Alone.start .reset)).2.store.held
        ≠ Redis.reset.held := by
  decide

end KrakenMare
