import KrakenMare.Framework.Listeners
import KrakenMare.Lib.Interleaving

/-!
# The listeners on the executor

`FrameworkMqttListener.messageArrived` hands every message to a pool of threads, so any number of
handlers are under way at a time and their calls come in any order.  Here the store is Redis, which
runs one command at a time, and a state of the framework is the pool of `Lib.Interleaving` over the
world that the handlers share.

The random UUIDs are assumed never to repeat: `exec` refuses an oracle that offers one that has
been drawn before.  A thread that is never scheduled again is one that waits, or that died in a
call.

**The protocol.**  Proofs about all interleavings should not look into the listeners' programs
again and again, so what a handler can do is said once.

* `Next request l c` — after the calls and answers `l`, the handler's next call is `c`.
* `Final request l r` — after `l` the handler ends with the result `r`.
* `along_messageArrived` — the listeners follow the protocol.  **No other module looks into them.**

Because `l` holds the answers too, the protocol says what a call is made of: the agent that a
device list writes back is the very agent that its `HGET` answered, with the UUIDs drawn before.

**Histories.**  A run of the framework has a history, that is, the calls made so far with the
thread that made them and the world after each.  `reachable_run` says that it is one of the
histories the protocol allows, and everything about runs is proved by induction over these.
-/

namespace KrakenMare

open Lib Lib.Interleaving AgentRedisRepository MqttDeviceListListener

/-- What the handlers share: the store, and the UUIDs that have been drawn, none of which is drawn
again. -/
structure World where
  redis : Redis
  /-- the random UUIDs drawn so far -/
  drawn : List UUID
deriving DecidableEq

/-- The world of a framework that has just been started on a store that was reset. -/
def World.reset : World := ⟨.reset, []⟩

/-- What the model leaves open in a step: the UUID drawn, and whether the MQTT client takes the
message. -/
structure Oracle where
  uuid : UUID
  accepted : Bool
deriving DecidableEq

/-- A call of a handler, and its answer, which for a command of Redis is the answer of that
command. -/
abbrev Answer : Call RedisCmd → Type := Call.Answer RedisCmd.Answer

instance : ∀ c, DecidableEq (Answer c)
  | .randomUUID => inferInstanceAs (DecidableEq UUID)
  | .publish _ _ => inferInstanceAs (DecidableEq Bool)
  | .send _ _ _ => inferInstanceAs (DecidableEq Unit)
  | .store .incr | .store (.hset _ _) | .store (.hdel _) | .store .hlen =>
      inferInstanceAs (DecidableEq ℕ)
  | .store (.hget _) => inferInstanceAs (DecidableEq (Option Agent))
  | .store .hgetAll => inferInstanceAs (DecidableEq (Dict String Agent))

/-- One call on the shared world.  Publishing and sending leave it as it is; a UUID that was drawn
before is refused, so no run contains one. -/
def exec : (c : Call RedisCmd) → Oracle → World → Option (Answer c × World)
  | .randomUUID, o, w =>
      if o.uuid ∈ w.drawn then none else some (o.uuid, { w with drawn := w.drawn ++ [o.uuid] })
  | .publish _ _, o, w => some (o.accepted, w)
  | .send _ _ _, _, w => some ((), w)
  | .store c, _, w => some ((w.redis.exec c).1, { w with redis := (w.redis.exec c).2 })

/-- What a call does: it draws a UUID, it runs a command of the store, or it sends a message, which
leaves the world as it is. -/
theorem exec_cases {c : Call RedisCmd} {o : Oracle} {w w' : World} {r : Answer c}
    (he : exec c o w = some (r, w')) :
    (o.uuid ∉ w.drawn ∧ (⟨c, r⟩ : Answered Answer) = ⟨.randomUUID, o.uuid⟩ ∧
      w' = { w with drawn := w.drawn ++ [o.uuid] }) ∨
    (∃ c', (⟨c, r⟩ : Answered Answer) = ⟨.store c', (w.redis.exec c').1⟩ ∧
      w' = { w with redis := (w.redis.exec c').2 }) ∨
    ((∃ topic m, c = .publish topic m) ∨ ∃ topic key m, c = .send topic key m) ∧ w' = w := by
  cases c with
  | randomUUID =>
      simp only [exec] at he
      split_ifs at he with hnew
      obtain ⟨rfl, rfl⟩ := Prod.mk.inj (Option.some.inj he)
      exact Or.inl ⟨hnew, rfl, rfl⟩
  | store c' =>
      obtain ⟨rfl, rfl⟩ := Prod.mk.inj (Option.some.inj he)
      exact Or.inr (Or.inl ⟨c', rfl, rfl⟩)
  | publish topic m =>
      exact Or.inr (Or.inr ⟨Or.inl ⟨topic, m, rfl⟩, (Prod.mk.inj (Option.some.inj he)).2.symm⟩)
  | send topic key m =>
      exact Or.inr (Or.inr ⟨Or.inr ⟨topic, key, m, rfl⟩, (Prod.mk.inj (Option.some.inj he)).2.symm⟩)

/-- The framework running on a Redis store that has been reset. -/
def runFramework (acts : List (Action Request Oracle)) :
    Pool (Call RedisCmd) Answer ProcessException Message Request World :=
  run (messageArrived agentRedisRepository) exec (Pool.start World.reset) acts

/-! ## The protocol -/

namespace Protocol

/-- The agent that registration saves, with the id and the UUID it was given and no devices. -/
def newAgent (m : RegisterRequest) (id : ℕ) (uuid : UUID) : Agent :=
  ⟨id, m.uid, some uuid, m.name, []⟩

/-- The answer to a registration.  Its text has no other form, since only success is answered. -/
def registerResponse (m : RegisterRequest) (uuid : UUID) : RegisterResponse :=
  ⟨m.uid, true, "Registration succeed", uuid, ∅⟩

/-- The agent that a device list leaves: the one that was read, with the devices of the list and
their UUIDs. -/
def updatedAgent (m : DeviceList) (a : Agent) (us : List UUID) : Agent :=
  { a with devices := assignDevices m.devices us }

/-- The answer to a device list for which the UUIDs `us` were drawn. -/
def deviceListResponse (m : DeviceList) (us : List UUID) : DeviceListResponse :=
  ⟨m.uuid, deviceUuids (assignDevices m.devices us)⟩

section
variable (m : RegisterRequest) (id : ℕ) (u : UUID) (n : ℕ)

/-- The log of a registration whose agent has its id and its UUID. -/
def identified : List (Answered Answer) := [⟨.store .incr, id⟩, ⟨.randomUUID, u⟩]

/-- The log of a registration whose agent is in the store: an id, a UUID, and the write with its
answer. -/
def saved : List (Answered Answer) :=
  identified id u ++ [⟨.store (.hset (agentKey (some u)) (newAgent m id u)), n⟩]

/-- The publication of the answer to a registration, its last call. -/
def welcome : Call RedisCmd :=
  .publish (getRegistrationResponseTopic m.uid) (.registerResponse (registerResponse m u))

end

section
variable (m : DeviceList) (us : List UUID) (a : Agent) (n : ℕ)

/-- The log of a device list that has drawn its UUIDs and read its agent. -/
def fetched : List (Answered Answer) :=
  draws us ++ [⟨.store (.hget (agentKey (some m.uuid))), some a⟩]

/-- The log of a device list that has written its agent back. -/
def updated : List (Answered Answer) :=
  fetched m us a ++ [⟨.store (.hset (agentKey a.uuid) (updatedAgent m a us)), n⟩]

/-- The publication of the answer to a device list, on the topic of the agent that sent it. -/
def respond : Call RedisCmd :=
  .publish (getSensorListResponseTopic m.uuid) (.deviceListResponse (deviceListResponse m us))

/-- The agent record that a device list sends to Kafka, its last call. -/
def record : Call RedisCmd :=
  .send DEVICE_REGISTRATION_TOPIC (some m.uuid.toString) (.agent (updatedAgent m a us))

end

section
variable (m : DeregisterRequest) (a : Agent) (n : ℕ)

/-- The log of a deregistration that has read its agent, and so goes on to delete it. -/
def found : List (Answered Answer) := [⟨.store (.hget (agentKey (some m.uuid))), some a⟩]

/-- The log of a deregistration that has deleted its agent, or found no field to delete. -/
def deleted : List (Answered Answer) :=
  found m a ++ [⟨.store (.hdel (agentKey a.uuid)), n⟩]

/-- The publication of the answer to a deregistration, which says whether the delete has deleted
anything. -/
def goodbye : Call RedisCmd :=
  .publish (getDeregistrationResponseTopic m.uuid) (.deregisterResponse ⟨m.uuid, n == 1⟩)

end

/-- `Next request l c`: after the calls and answers `l` the handler of the request may call `c`. -/
inductive Next : Request → List (Answered Answer) → Call RedisCmd → Prop
  | incr (m) : Next (.register m) [] (.store .incr)
  | identity (m) (id : ℕ) : Next (.register m) [⟨.store .incr, id⟩] .randomUUID
  | save (m id u) : Next (.register m) (identified id u)
      (.store (.hset (agentKey (some u)) (newAgent m id u)))
  | welcome (m id u n) : Next (.register m) (saved m id u n) (welcome m u)
  | draw (m us) (h : us.length < slots m.devices) : Next (.devices m) (draws us) .randomUUID
  | fetch (m us) (h : us.length = slots m.devices) :
      Next (.devices m) (draws us) (.store (.hget (agentKey (some m.uuid))))
  | update (m us a) (h : us.length = slots m.devices) : Next (.devices m) (fetched m us a)
      (.store (.hset (agentKey a.uuid) (updatedAgent m a us)))
  | respond (m us a n) (h : us.length = slots m.devices) :
      Next (.devices m) (updated m us a n) (respond m us)
  | record (m us a n) (h : us.length = slots m.devices) :
      Next (.devices m) (updated m us a n ++ [⟨respond m us, true⟩]) (record m us a)
  | find (m) : Next (.deregister m) [] (.store (.hget (agentKey (some m.uuid))))
  | delete (m a) : Next (.deregister m) (found m a) (.store (.hdel (agentKey a.uuid)))
  | goodbye (m a n) : Next (.deregister m) (deleted m a n) (goodbye m n)
  | report (m a n) : Next (.deregister m) (deleted m a n ++ [⟨goodbye m n, true⟩])
      (.send AGENT_DEREGISTRATION_TOPIC (some m.uuid.toString)
        (.deregisterResponse ⟨m.uuid, n == 1⟩))

/-- How a handler ends: by returning its answer after its last call, or by an exception of the call
that threw it. -/
inductive Final : Request → List (Answered Answer) → Except ProcessException Message → Prop
  | registered (m id u n) : Final (.register m) (saved m id u n ++ [⟨welcome m u, true⟩])
      (.ok (.registerResponse (registerResponse m u)))
  | unwelcome (m id u n) : Final (.register m) (saved m id u n ++ [⟨welcome m u, false⟩])
      (.error .mqtt)
  | unknown (m us) (h : us.length = slots m.devices) : Final (.devices m)
      (draws us ++ [⟨.store (.hget (agentKey (some m.uuid))), none⟩])
      (.error (.entityNotFound m.uuid))
  | unanswered (m us a n) (h : us.length = slots m.devices) : Final (.devices m)
      (updated m us a n ++ [⟨respond m us, false⟩]) (.error .mqtt)
  | assigned (m us a n) (h : us.length = slots m.devices) : Final (.devices m)
      (updated m us a n ++ [⟨respond m us, true⟩] ++ [⟨record m us a, ()⟩])
      (.ok (.deviceListResponse (deviceListResponse m us)))
  | stranger (m) : Final (.deregister m) [⟨.store (.hget (agentKey (some m.uuid))), none⟩]
      (.error (.entityNotFound m.uuid))
  | unheard (m a n) : Final (.deregister m) (deleted m a n ++ [⟨goodbye m n, false⟩])
      (.error .mqtt)
  | deregistered (m a n) : Final (.deregister m)
      (deleted m a n ++ [⟨goodbye m n, true⟩] ++
        [⟨.send AGENT_DEREGISTRATION_TOPIC (some m.uuid.toString)
          (.deregisterResponse ⟨m.uuid, n == 1⟩), ()⟩])
      (.ok (.deregisterResponse ⟨m.uuid, n == 1⟩))

/-- The first answers of a registration are its id and its UUID. -/
lemma identified_inj {id id' : ℕ} {u u' : UUID} {l l' : List (Answered Answer)}
    (h : identified id u ++ l = identified id' u' ++ l') : id = id' ∧ u = u' := by
  obtain ⟨hid, h⟩ := List.cons.inj h
  obtain ⟨hu, -⟩ := List.cons.inj h
  exact ⟨eq_of_heq (Sigma.mk.inj hid).2, eq_of_heq (Sigma.mk.inj hu).2⟩

/-! ### Where a handler stands when it makes a call -/

section
variable {m : Request} {l : List (Answered Answer)} {t k : String}

/-- Agents are written by a registration and by a device list, and by nothing else.  The one writes
the agent it has made, the other the agent it has read with other devices. -/
theorem Next.hset {v : Agent} (hn : Next m l (.store (.hset k v))) :
    (∃ req id u, m = .register req ∧ l = identified id u ∧ k = agentKey (some u) ∧
      v = newAgent req id u) ∨
    ∃ req us a, m = .devices req ∧ us.length = slots req.devices ∧ l = fetched req us a ∧
      k = agentKey a.uuid ∧ v = updatedAgent req a us := by
  cases hn with
  | save req id u => exact Or.inl ⟨req, id, u, rfl, rfl, rfl, rfl⟩
  | update req us a hus => exact Or.inr ⟨req, us, a, rfl, hus, rfl, rfl, rfl⟩

/-- Agents are deleted by a deregistration, under the key of the agent that it has read. -/
theorem Next.hdel (hn : Next m l (.store (.hdel k))) :
    ∃ req a, m = .deregister req ∧ l = found req a ∧ k = agentKey a.uuid := by
  cases hn with
  | delete req a => exact ⟨req, a, rfl, rfl, rfl⟩

/-- A registration answers only after it has saved the agent, with the UUID it has drawn.  So no
agent hears of a UUID that was never stored. -/
theorem Next.registerResponse {response : RegisterResponse}
    (hn : Next m l (.publish t (.registerResponse response))) :
    ∃ req id u n, m = .register req ∧ l = saved req id u n ∧
      response = Protocol.registerResponse req u := by
  cases hn with
  | welcome req id u n => exact ⟨req, id, u, n, rfl, rfl, rfl⟩

/-- A device list answers only after it has written the agent back, and the answer shows the UUIDs
that were written. -/
theorem Next.deviceListResponse {response : DeviceListResponse}
    (hn : Next m l (.publish t (.deviceListResponse response))) :
    ∃ req us a n, m = .devices req ∧ us.length = slots req.devices ∧ l = updated req us a n ∧
      response = Protocol.deviceListResponse req us := by
  cases hn with
  | respond req us a n hus => exact ⟨req, us, a, n, rfl, hus, rfl, rfl⟩

/-- A device list sends the agent record after its answer was taken, and the record is the agent
that was written. -/
theorem Next.agentRecord {key : Option String} {v : Agent}
    (hn : Next m l (.send t key (.agent v))) :
    ∃ req us a n, m = .devices req ∧ us.length = slots req.devices ∧
      l = updated req us a n ++ [⟨Protocol.respond req us, true⟩] ∧
      key = some req.uuid.toString ∧ v = updatedAgent req a us := by
  cases hn with
  | record req us a n hus => exact ⟨req, us, a, n, rfl, hus, rfl, rfl, rfl⟩

/-- A deregistration answers only after the delete, with what the delete answered: `true` if a field
was there, and `false` if another deregistration had been faster. -/
theorem Next.deregisterResponse {response : DeregisterResponse}
    (hn : Next m l (.publish t (.deregisterResponse response))) :
    ∃ req a n, m = .deregister req ∧ l = deleted req a n ∧ response = ⟨req.uuid, n == 1⟩ := by
  cases hn with
  | goodbye req a n => exact ⟨req, a, n, rfl, rfl, rfl⟩

end

/-! ### The listeners follow the protocol -/

lemma along_register (m : RegisterRequest) : Prog.Along (Next (.register m)) (Final (.register m))
    (messageArrived agentRedisRepository (.register m)) [] := by
  refine .call (.incr m) fun id => .call (.identity m id) fun u => .call (.save m id u) fun n =>
    .call (.welcome m id u n) fun ok => ?_
  cases ok with
  | true => exact Final.registered m id u n
  | false => exact Final.unwelcome m id u n

/-- The handler of a device list goes along the protocol: it reads, draws, writes, answers and
sends. -/
lemma along_devices (m : DeviceList) : Prog.Along (Next (.devices m)) (Final (.devices m))
    (messageArrived agentRedisRepository (.devices m)) [] := by
  have hloops := along_assignUuids (P := Next (.devices m)) m.devices [] fun us hus => .draw m us hus
  show Prog.Along _ _ (assignUuids m.devices >>= _ >>= _) _
  rw [Prog.bind_assoc]
  refine hloops.bind ?_ ?_
  · rintro l devices ⟨us, hus, rfl, hd⟩
    obtain rfl := Except.ok.inj hd
    refine .call (.fetch m us hus) fun a => ?_
    cases a with
    | none => exact Final.unknown m us hus
    | some a =>
        refine .call (.update m us a hus) fun n => .call (.respond m us a n hus) fun ok => ?_
        cases ok with
        | true => exact .call (.record m us a n hus) fun _ => Final.assigned m us a n hus
        | false => exact Final.unanswered m us a n hus
  · rintro l e ⟨us, -, -, he⟩
    exact absurd he (by simp)

lemma along_deregister (m : DeregisterRequest) : Prog.Along (Next (.deregister m))
    (Final (.deregister m)) (messageArrived agentRedisRepository (.deregister m)) [] := by
  refine .call (.find m) fun a => ?_
  cases a with
  | none => exact Final.stranger m
  | some a =>
      refine .call (.delete m a) fun n => .call (.goodbye m a n) fun ok => ?_
      cases ok with
      | true => exact .call (.report m a n) fun _ => Final.deregistered m a n
      | false => exact Final.unheard m a n

/-- Each of the three listeners follows the protocol, whatever its calls are answered, so that facts
about many handlers can go by the protocol and not by the programs. -/
theorem along_messageArrived : ∀ m, Prog.Along (Next m) (Final m)
    (messageArrived agentRedisRepository m) []
  | .register m => along_register m
  | .devices m => along_devices m
  | .deregister m => along_deregister m

end Protocol

/-! ## Histories of the framework -/

open Protocol

/-- What remains of a run of the framework when the programs are forgotten. -/
abbrev Past := History (Call RedisCmd) Answer Request World

/-- The histories there are, when every call meets the condition `G`. -/
abbrev Reachable (G : World → Request → Call RedisCmd → Prop) : Past → Prop :=
  Reach exec Next G World.reset

/-- No condition on the calls, as in the framework itself. -/
def anyCall : World → Request → Call RedisCmd → Prop := fun _ _ _ => True

/-- The history of a run is one that the protocol allows, so that what is proved by induction over
such histories holds of every run. -/
theorem reachable_run (acts : List (Action Request Oracle)) :
    Reachable anyCall (runFramework acts).history :=
  (reach_run along_messageArrived (meets_of_forall (fun _ _ _ => trivial) _ acts)).2

/-- A handler that has returned has ended as the protocol says, after its own calls, however the
calls of the other handlers fell in between. -/
theorem returned_run (acts : List (Action Request Oracle)) {i : ℕ} {m : Request}
    {response : Message} (hi : (runFramework acts).threads[i]? = some (m, .ret response)) :
    Final m ((runFramework acts).history.own i) (.ok response) :=
  (reach_run (G := anyCall) along_messageArrived
    (meets_of_forall (fun _ _ _ => trivial) _ acts)).1.returned hi

end KrakenMare
