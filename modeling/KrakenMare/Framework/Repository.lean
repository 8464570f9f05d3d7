import KrakenMare.Lib.Program
import KrakenMare.Schema.Records

/-!
# The framework's repositories

The framework keeps the agents it knows in a store, which is behind the interface `Repository` of
`api/Repository.java`.  There are two implementations.

* `AgentRedisRepository` — one hash of JSON documents and one counter in Redis.  `get` hands out a
  copy, and `save` and `update` both write the document under the key made from its uuid.
* `AgentMemoryRepository` — a Java list of references.  `get` hands out the listed object itself,
  so a change to it is there for every later reader and `update` has nothing to do.

**Programs.**  The listeners run on many threads at a time, so what one of them does is not a
function on the store but a program, which draws random UUIDs, publishes on MQTT, sends to Kafka
and runs commands of the store one after the other.  `Call` is the type of these calls and
`Process` the type of the programs; a module that runs them says what the answers are.

**Handles.**  The type `H` of a `Repository` is what it hands out: an agent by value for Redis, a
reference to one for the list.  Reading the fields of what is behind a handle, and `setDevices` on
it, are therefore operations of the repository too.

**What is not modelled.**  The JSON documents: the hash holds the agents themselves, Jackson's JSON
being read back as it was written.  A command that fails (no connection to Redis) is a later
module's matter, `Framework.Failures`.
-/

namespace KrakenMare

open Lib

/-- What `process` may throw, `EntityNotFoundException` or `MqttException`. -/
inductive ProcessException
  | entityNotFound (uuid : UUID)
  | mqtt
deriving DecidableEq

/-- What a listener calls outside its own fields: the random generator, the MQTT client, the Kafka
producer and the store, whose commands are `Cmd`. -/
inductive Call (Cmd : Type)
  | randomUUID
  | publish (topic : String) (message : Message)
  | send (topic : String) (key : Option String) (value : Message)
  | store (c : Cmd)
deriving DecidableEq

/-- `publish` is answered by whether the client took the message; it throws if not.  Nobody looks at
the future that `send` returns. -/
@[reducible] def Call.Answer {Cmd : Type} (Ans : Cmd → Type) : Call Cmd → Type
  | .randomUUID => UUID
  | .publish _ _ => Bool
  | .send _ _ _ => Unit
  | .store c => Ans c

/-- A program of the framework over a store with the commands `Cmd`. -/
abbrev Process {Cmd : Type} (Ans : Cmd → Type) (α : Type) :=
  Prog (Call Cmd) (Call.Answer Ans) ProcessException α

/-- `UUID.randomUUID()`, a call like the others, whose answer comes from outside. -/
def randomUUID {Cmd : Type} {Ans : Cmd → Type} : Process Ans UUID := Prog.perform Call.randomUUID

/-- `api/Repository.java`, for a store with the commands `Cmd` that hands out `H`s.  `reset` is left
to the stores themselves, since no listener calls it. -/
structure Repository {Cmd : Type} (Ans : Cmd → Type) (H : Type) where
  create : Agent → Process Ans H
  save : H → Process Ans Bool
  update : H → Process Ans H
  delete : H → Process Ans Bool
  get : UUID → Process Ans H
  getAll : Process Ans (List Agent)
  count : Process Ans ℕ
  /-- the fields of the object behind a handle -/
  fields : H → Process Ans Agent
  /-- `Agent.setDevices` on the object behind a handle -/
  setDevices : H → List Device → Process Ans H

/-! ## `AgentRedisRepository` -/

/-- The Redis commands, on the repository's own two keys: the counter of the ids and the hash of the
agents. -/
inductive RedisCmd
  | incr
  | hset (field : String) (agent : Agent)
  | hget (field : String)
  | hdel (field : String)
  | hlen
  | hgetAll
deriving DecidableEq

/-- What Redis answers.  The commands that write answer a number, and `HGET` nothing where there is
no such field. -/
@[reducible] def RedisCmd.Answer : RedisCmd → Type
  | incr => ℕ
  | hset _ _ => ℕ
  | hget _ => Option Agent
  | hdel _ => ℕ
  | hlen => ℕ
  | hgetAll => Dict String Agent

/-- The two Redis keys the repository uses.  The hash holds agents, Jackson's JSON being read back
as it was written. -/
structure Redis where
  myCounterKey : ℕ
  myAgentsKey : Dict String Agent
deriving DecidableEq

namespace Redis

/-- `reset()` deletes the keys; a counter that does not exist counts from 0. -/
def reset : Redis := ⟨0, ∅⟩

/-- Redis runs one command at a time.  `HSET` and `HDEL` answer the number of fields added or
removed. -/
def exec : (c : RedisCmd) → Redis → c.Answer × Redis
  | .incr, s => (s.myCounterKey + 1, { s with myCounterKey := s.myCounterKey + 1 })
  | .hset field agent, s =>
      (if (s.myAgentsKey.get? field).isSome then 0 else 1,
        { s with myAgentsKey := s.myAgentsKey.set field agent })
  | .hget field, s => (s.myAgentsKey.get? field, s)
  | .hdel field, s =>
      (if (s.myAgentsKey.get? field).isSome then 1 else 0,
        { s with myAgentsKey := s.myAgentsKey.del field })
  | .hlen, s => (s.myAgentsKey.size, s)
  | .hgetAll, s => (s.myAgentsKey, s)

end Redis

namespace AgentRedisRepository

/-- `agentDataKey + ":" + uuid`, where Java writes a null reference as `null`. -/
def agentKey (uuid : Option UUID) : String :=
  "myAgentDataKey" ++ ":" ++ uuid.elim "null" UUID.toString

/-- The field of an agent names its uuid, so agents with different uuids are in different fields. -/
theorem agentKey_injective {u v : UUID} (h : agentKey (some u) = agentKey (some v)) : u = v :=
  UUID.toString_injective ((String.append_right_inj _).mp h)

@[simp] lemma agentKey_inj {u v : UUID} : agentKey (some u) = agentKey (some v) ↔ u = v :=
  ⟨agentKey_injective, fun h => by rw [h]⟩

/-- `jedis(f)` for an `f` that runs one command; the connection is taken from a pool and given
back. -/
def jedis (c : RedisCmd) : Process RedisCmd.Answer c.Answer := Prog.perform (Call.store c)

/-- `AgentRedisRepository.create`: the next id, a random UUID, and a record that is not yet in the
store. -/
def create (payload : Agent) : Process RedisCmd.Answer Agent := do
  let id : ℕ ← jedis .incr
  let uuid ← randomUUID
  return ⟨id, payload.uid, some uuid, payload.name, []⟩

/-- `AgentRedisRepository.save`: `HSET`, which says whether the field is new. -/
def save (agent : Agent) : Process RedisCmd.Answer Bool := do
  let added : ℕ ← jedis (.hset (agentKey agent.uuid) agent)
  return added == 1

/-- `AgentRedisRepository.update`, which saves the record whether or not its field is still
there. -/
def update (agent : Agent) : Process RedisCmd.Answer Agent := do
  let _ ← save agent
  return agent

/-- `AgentRedisRepository.delete`: `HDEL`, which says whether there was such a field. -/
def delete (agent : Agent) : Process RedisCmd.Answer Bool := do
  let removed : ℕ ← jedis (.hdel (agentKey agent.uuid))
  return removed == 1

/-- `AgentRedisRepository.get`: a copy of the stored record, or an `EntityNotFoundException`. -/
def get (uuid : UUID) : Process RedisCmd.Answer Agent := do
  let json : Option Agent ← jedis (.hget (agentKey (some uuid)))
  match json with
  | some agent => return agent
  | none => .throw (.entityNotFound uuid)

lemma get_eq (uuid : UUID) : get uuid = .call (.store (.hget (agentKey (some uuid))))
    fun json : Option Agent => json.elim (.throw (.entityNotFound uuid)) .ret :=
  congrArg (Prog.call _) (funext fun json : Option Agent => by cases json <;> rfl)

lemma get_bind {α : Type} (uuid : UUID) (k : Agent → Process RedisCmd.Answer α) :
    get uuid >>= k = .call (.store (.hget (agentKey (some uuid))))
      fun json : Option Agent => json.elim (.throw (.entityNotFound uuid)) k :=
  congrArg (Prog.call _) (funext fun json : Option Agent => by cases json <;> rfl)

/-- `AgentRedisRepository.getAll`.  Redis promises no order; here the fields come as they were first
set. -/
def getAll : Process RedisCmd.Answer (List Agent) := do
  let result : Dict String Agent ← jedis .hgetAll
  return result.values

/-- `AgentRedisRepository.count`, the number of fields of the hash. -/
def count : Process RedisCmd.Answer ℕ := jedis .hlen

end AgentRedisRepository

/-- The repository that `FrameworkImpl` gives to the listeners.  It hands out agents by value. -/
def agentRedisRepository : Repository RedisCmd.Answer Agent where
  create := AgentRedisRepository.create
  save := AgentRedisRepository.save
  update := AgentRedisRepository.update
  delete := AgentRedisRepository.delete
  get := AgentRedisRepository.get
  getAll := AgentRedisRepository.getAll
  count := AgentRedisRepository.count
  fields := pure
  setDevices agent devices := pure { agent with devices := devices }

/-! ## `AgentMemoryRepository` -/

/-- What the memory repository does to its own fields and to the heap.  A reference is a number. -/
inductive MemoryCmd
  | getAndIncrement
  | new (agent : Agent)
  | add (ref : ℕ)
  | remove (ref : ℕ)
  | findFirst (uuid : UUID)
  | agents
  | read (ref : ℕ)
  | setDevices (ref : ℕ) (devices : List Device)
deriving DecidableEq

/-- What the memory repository's own fields and the heap answer. -/
@[reducible] def MemoryCmd.Answer : MemoryCmd → Type
  | getAndIncrement => ℕ
  | new _ => ℕ
  | add _ => Bool
  | remove _ => Bool
  | findFirst _ => Option ℕ
  | agents => List Agent
  | read _ => Agent
  | setDevices _ _ => Unit

/-- The fields `index` and `agents`, and the heap of the agent objects made so far: those below
`next`. -/
structure Memory where
  index : ℕ
  agents : List ℕ
  objects : ℕ → Agent
  next : ℕ

namespace Memory

/-- A repository just constructed; no object exists yet, and the list is empty. -/
def init : Memory := ⟨0, [], fun _ => ⟨-1, "", none, "", []⟩, 0⟩

/-- `List.remove(Object)` takes out the first element that equals the argument, and equality of
records compares their fields. -/
def exec : (c : MemoryCmd) → Memory → c.Answer × Memory
  | .getAndIncrement, s => (s.index, { s with index := s.index + 1 })
  | .new agent, s =>
      (s.next, { s with objects := fun r => if r = s.next then agent else s.objects r,
                        next := s.next + 1 })
  | .add ref, s => (true, { s with agents := s.agents ++ [ref] })
  | .remove ref, s =>
      (s.agents.any fun r => s.objects r = s.objects ref,
        { s with agents := s.agents.eraseP fun r => s.objects r = s.objects ref })
  | .findFirst uuid, s => (s.agents.find? fun r => (s.objects r).uuid = some uuid, s)
  | .agents, s => (s.agents.map s.objects, s)
  | .read ref, s => (s.objects ref, s)
  | .setDevices ref devices, s =>
      ((), { s with objects := fun r =>
        if r = ref then { s.objects r with devices := devices } else s.objects r })

end Memory

namespace AgentMemoryRepository

/-- One access to the fields of the repository or to an object. -/
def heap (c : MemoryCmd) : Process MemoryCmd.Answer c.Answer := Prog.perform (Call.store c)

/-- `AgentMemoryRepository.create`, which numbers agents from 0 and makes a new object. -/
def create (payload : Agent) : Process MemoryCmd.Answer ℕ := do
  let id : ℕ ← heap .getAndIncrement
  let uuid ← randomUUID
  heap (.new ⟨id, payload.uid, some uuid, payload.name, []⟩)

/-- `AgentMemoryRepository.save`: the reference goes to the end of the list. -/
def save (agent : ℕ) : Process MemoryCmd.Answer Bool := heap (.add agent)

/-- `AgentMemoryRepository.delete`: `List.remove(Object)`, which says whether it found an equal
record. -/
def delete (agent : ℕ) : Process MemoryCmd.Answer Bool := heap (.remove agent)

/-- `AgentMemoryRepository.getAll`, in the order of registration. -/
def getAll : Process MemoryCmd.Answer (List Agent) := heap .agents

/-- `AgentMemoryRepository.update` does nothing: the caller has changed the listed object itself. -/
def update (agent : ℕ) : Process MemoryCmd.Answer ℕ := return agent

/-- `AgentMemoryRepository.get`: the first listed object with this uuid, or an
`EntityNotFoundException`. -/
def get (uuid : UUID) : Process MemoryCmd.Answer ℕ := do
  let opt : Option ℕ ← heap (.findFirst uuid)
  match opt with
  | some agent => return agent
  | none => .throw (.entityNotFound uuid)

lemma get_bind {α : Type} (uuid : UUID) (k : ℕ → Process MemoryCmd.Answer α) :
    get uuid >>= k = .call (.store (.findFirst uuid))
      fun opt : Option ℕ => opt.elim (.throw (.entityNotFound uuid)) k :=
  congrArg (Prog.call _) (funext fun opt : Option ℕ => by cases opt <;> rfl)

/-- The default method of the interface, which the in-memory repository keeps: the length of the
list of all. -/
def count : Process MemoryCmd.Answer ℕ := do
  let all ← getAll
  return all.length

end AgentMemoryRepository

/-- The repository that keeps the agents in memory, as the framework's tests use it.  It hands out
references, so `setDevices` changes the object that is listed. -/
def agentMemoryRepository : Repository MemoryCmd.Answer ℕ where
  create := AgentMemoryRepository.create
  save := AgentMemoryRepository.save
  update := AgentMemoryRepository.update
  delete := AgentMemoryRepository.delete
  get := AgentMemoryRepository.get
  getAll := AgentMemoryRepository.getAll
  count := AgentMemoryRepository.count
  fields agent := AgentMemoryRepository.heap (.read agent)
  setDevices agent devices := do
    AgentMemoryRepository.heap (.setDevices agent devices)
    return agent

end KrakenMare
