import KrakenMare.Framework.Listeners

/-!
# One request at a time

Requests handled one after the other, over any store.  Here a handler has the framework to itself,
from its first call to its last; `Framework.Executor` is about handlers that take turns.

The `Environment` supplies the random UUIDs and whether the MQTT client takes a message, both in
the order they are asked for, so the handlers of two stores can be given the same.  That the UUIDs
do not repeat is a hypothesis of the results, `Environment.Distinct`, and not a part of it.

* `run_assignUuids` — the loops of a device list take the next `slots` UUIDs and put them where
  `assignDevices` says.
* `runAlone_sendMqttResponse` — the answer of a handler, in terms of `publishing`; the abstract
  repository is written with the same function, so that the two can be compared there.
* `AgentRedisRepository.runAlone_get` and so on — the operations of both repositories, as functions
  on the store.
* `serve` — a sequence of requests, with the result of each.

What handlers let out, on MQTT and to Kafka, is kept in `outputs`, refused publications included.
-/

namespace KrakenMare

open Lib MqttDeviceListListener

/-- What the framework is given from outside: the random UUIDs, and whether the MQTT client takes a
message, each by number. -/
structure Environment where
  uuids : ℕ → UUID
  accepts : ℕ → Bool

/-- What a handler lets out: an MQTT message, which the client may refuse, or a record for Kafka. -/
inductive Output
  | publish (topic : String) (message : Message) (accepted : Bool)
  | send (topic : String) (key : Option String) (value : Message)
deriving DecidableEq

/-- A store, and what the framework has asked of its environment and let out so far. -/
structure Alone (S : Type) where
  store : S
  drawn : ℕ
  published : ℕ
  outputs : List Output

/-- A store before the first request.  No UUID has been drawn, nothing published and nothing let
out. -/
def Alone.start {S : Type} (s : S) : Alone S := ⟨s, 0, 0, []⟩

namespace Environment

/-- The `n` UUIDs that follow the first `drawn`, which is what the next draws will answer. -/
def next (E : Environment) (drawn n : ℕ) : List UUID :=
  (List.range n).map fun j => E.uuids (drawn + j)

@[simp] lemma next_zero (E : Environment) (drawn : ℕ) : E.next drawn 0 = [] := rfl

lemma next_succ (E : Environment) (drawn n : ℕ) :
    E.next drawn (n + 1) = E.uuids drawn :: E.next (drawn + 1) n := by
  simp [next, List.range_succ_eq_map, Function.comp_def, Nat.add_assoc, Nat.add_comm 1]

@[simp] lemma length_next (E : Environment) (drawn n : ℕ) : (E.next drawn n).length = n := by
  simp [next]

lemma next_add (E : Environment) (drawn m n : ℕ) :
    E.next drawn (m + n) = E.next drawn m ++ E.next (drawn + m) n := by
  induction m generalizing drawn with
  | zero => simp
  | succ m ih =>
      rw [Nat.succ_add, next_succ, ih, next_succ, List.cons_append, Nat.succ_add_eq_add_succ]

/-- The first `n` UUIDs are pairwise distinct.  Random UUIDs may repeat, so this is assumed where it
is used, and only of as many as are drawn. -/
def Distinct (E : Environment) (n : ℕ) : Prop := (E.next 0 n).Nodup

instance (E : Environment) (n : ℕ) : Decidable (E.Distinct n) :=
  inferInstanceAs (Decidable (List.Nodup _))

lemma Distinct.mono {E : Environment} {m n : ℕ} (hd : E.Distinct n) (hmn : m ≤ n) :
    E.Distinct m := by
  obtain ⟨k, rfl⟩ := Nat.exists_eq_add_of_le hmn
  rw [Distinct, next_add] at hd
  exact (List.nodup_append.mp hd).1

/-- The next UUID has not been drawn before. -/
lemma Distinct.fresh {E : Environment} {n : ℕ} (hd : E.Distinct (n + 1)) :
    E.uuids n ∉ E.next 0 n := by
  rw [Distinct, next_add, List.nodup_append] at hd
  intro hmem
  exact hd.2.2 _ hmem _ (by simp [next]) rfl

lemma mem_next {E : Environment} {drawn n : ℕ} {u : UUID} :
    u ∈ E.next drawn n ↔ ∃ j < n, E.uuids (drawn + j) = u := by
  simp [next]

end Environment

variable {Cmd : Type} {Ans : Cmd → Type} {S H : Type} (E : Environment)
  (exec : (c : Cmd) → S → Ans c × S)

/-- One call of a handler that is alone.  `exec` is what a command does to the store. -/
def execAlone : (c : Call Cmd) → Alone S → Call.Answer Ans c × Alone S
  | .randomUUID, w => (E.uuids w.drawn, { w with drawn := w.drawn + 1 })
  | .publish topic message, w =>
      (E.accepts w.published,
        { w with published := w.published + 1,
                 outputs := w.outputs ++ [.publish topic message (E.accepts w.published)] })
  | .send topic key value, w => ((), { w with outputs := w.outputs ++ [.send topic key value] })
  | .store c, w => ((exec c w.store).1, { w with store := (exec c w.store).2 })

/-- A program run from beginning to end against the store, no other thread coming in between. -/
def runAlone {α : Type} (p : Process Ans α) (w : Alone S) : Except ProcessException α × Alone S :=
  p.run (execAlone E exec) w

/-- The results of a sequence of requests, and the state after them. -/
def serve (repository : Repository Ans H) :
    List Request → Alone S → List (Except ProcessException Message) × Alone S
  | [], w => ([], w)
  | m :: requests, w =>
      let (result, w) := runAlone E exec (messageArrived repository m) w
      let (results, w) := serve repository requests w
      (result :: results, w)

/-! ## The loops of a device list -/

lemma run_assignSensorUuids : ∀ (ss : List Sensor) (w : Alone S),
    runAlone E exec (assignSensorUuids ss) w
      = (.ok (assignSensors ss (E.next w.drawn ss.length)),
          { w with drawn := w.drawn + ss.length })
  | [], w => rfl
  | s :: ss, w => by
      have ih := run_assignSensorUuids ss { w with drawn := w.drawn + 1 }
      show runAlone E exec (assignSensorUuids ss >>= _) { w with drawn := w.drawn + 1 } = _
      rw [runAlone, Prog.run_bind_ok _ ih]
      simp [execAlone, Environment.next_succ, assignSensors, Nat.add_assoc, Nat.add_comm 1]

/-- The loops of a device list take the next UUIDs, one for each of the `slots`, and put them where
`assignDevices` says. -/
theorem run_assignUuids : ∀ (ds : List Device) (w : Alone S),
    runAlone E exec (assignUuids ds) w
      = (.ok (assignDevices ds (E.next w.drawn (slots ds))),
          { w with drawn := w.drawn + slots ds })
  | [], w => rfl
  | d :: ds, w => by
      have hss := run_assignSensorUuids E exec d.sensors { w with drawn := w.drawn + 1 }
      have ih := run_assignUuids ds { w with drawn := w.drawn + 1 + d.sensors.length }
      show runAlone E exec (assignSensorUuids d.sensors >>= _) { w with drawn := w.drawn + 1 } = _
      rw [runAlone, Prog.run_bind_ok _ hss, Prog.run_bind_ok _ ih]
      have hslots : slots (d :: ds) = d.sensors.length + slots ds + 1 := by simp [slots]; omega
      have hus : E.next w.drawn (slots (d :: ds)) = E.uuids w.drawn ::
          (E.next (w.drawn + 1) d.sensors.length
            ++ E.next (w.drawn + 1 + d.sensors.length) (slots ds)) := by
        rw [hslots, Environment.next_succ, Environment.next_add]
      rw [hus, assignDevices, List.tail_cons, List.drop_succ_cons,
        assignSensors_append _ _ _ (by simp)]
      have hdrop : (E.next (w.drawn + 1) d.sensors.length
          ++ E.next (w.drawn + 1 + d.sensors.length) (slots ds)).drop d.sensors.length
          = E.next (w.drawn + 1 + d.sensors.length) (slots ds) := by
        rw [List.drop_left' (Environment.length_next ..)]
      rw [hdrop, hslots]
      simp [execAlone, Nat.add_assoc, Nat.add_comm 1]

/-! ## The parts of a handler -/

/-- Publish a response and go on, if the MQTT client takes it. -/
def publishing {α : Type} (topic : String) (response : Message) (w : Alone S)
    (k : Alone S → Except ProcessException α × Alone S) : Except ProcessException α × Alone S :=
  let sent := { w with published := w.published + 1,
                       outputs := w.outputs ++ [.publish topic response (E.accepts w.published)] }
  if E.accepts w.published then k sent else (.error .mqtt, sent)

section
variable {α : Type} (w : Alone S)

@[simp] lemma runAlone_ret (a : α) : runAlone E exec (.ret a) w = (.ok a, w) := rfl

@[simp] lemma runAlone_throw (e : ProcessException) :
    runAlone E exec (.throw e : Process Ans α) w = (.error e, w) := rfl

@[simp] lemma runAlone_call (c : Call Cmd) (k : Call.Answer Ans c → Process Ans α) :
    runAlone E exec (.call c k) w
      = runAlone E exec (k (execAlone E exec c w).1) (execAlone E exec c w).2 := rfl

@[simp] lemma execAlone_randomUUID : execAlone E exec .randomUUID w
    = (E.uuids w.drawn, { w with drawn := w.drawn + 1 }) := rfl

@[simp] lemma execAlone_store (c : Cmd) : execAlone E exec (.store c) w
    = ((exec c w.store).1, { w with store := (exec c w.store).2 }) := rfl

@[simp] lemma runAlone_sendMqttResponse (topic : String) (response : Message)
    (k : Unit → Process Ans α) : runAlone E exec (sendMqttResponse topic response >>= k) w
      = publishing E topic response w fun w => runAlone E exec (k ()) w := by
  simp only [sendMqttResponse, publishing]
  cases h : E.accepts w.published with
  | true => simp [runAlone, execAlone, h]
  | false => simp [runAlone, execAlone, h]

@[simp] lemma runAlone_sendKafkaMessage (topic : String) (key : Option UUID) (value : Message)
    (k : Unit → Process Ans α) : runAlone E exec (sendKafkaMessage topic key value >>= k) w
      = runAlone E exec (k ())
          { w with outputs := w.outputs ++ [.send topic (key.map UUID.toString) value] } := rfl

@[simp] lemma runAlone_assignUuids (ds : List Device) (k : List Device → Process Ans α) :
    runAlone E exec (assignUuids ds >>= k) w
      = runAlone E exec (k (assignDevices ds (E.next w.drawn (slots ds))))
          { w with drawn := w.drawn + slots ds } :=
  Prog.run_bind_ok _ (run_assignUuids E exec ds w)

end

/-! ## The methods of the repositories -/

namespace AgentRedisRepository

variable {α : Type} (w : Alone Redis)

lemma runAlone_create (payload : Agent) (k : Agent → Process RedisCmd.Answer α) :
    runAlone E Redis.exec (create payload >>= k) w = runAlone E Redis.exec
      (k ⟨(w.store.myCounterKey + 1 : ℕ), payload.uid, some (E.uuids w.drawn), payload.name, []⟩)
      { w with store := ⟨w.store.myCounterKey + 1, w.store.myAgentsKey⟩, drawn := w.drawn + 1 } :=
  rfl

lemma runAlone_save (agent : Agent) (k : Bool → Process RedisCmd.Answer α) :
    runAlone E Redis.exec (save agent >>= k) w = runAlone E Redis.exec
      (k ((if (w.store.myAgentsKey.get? (agentKey agent.uuid)).isSome then 0 else 1) == 1))
      { w with store := ⟨w.store.myCounterKey,
                         w.store.myAgentsKey.set (agentKey agent.uuid) agent⟩ } :=
  rfl

lemma runAlone_update (agent : Agent) (k : Agent → Process RedisCmd.Answer α) :
    runAlone E Redis.exec (update agent >>= k) w = runAlone E Redis.exec (k agent)
      { w with store := ⟨w.store.myCounterKey,
                         w.store.myAgentsKey.set (agentKey agent.uuid) agent⟩ } :=
  rfl

lemma runAlone_delete (agent : Agent) (k : Bool → Process RedisCmd.Answer α) :
    runAlone E Redis.exec (delete agent >>= k) w = runAlone E Redis.exec
      (k ((if (w.store.myAgentsKey.get? (agentKey agent.uuid)).isSome then 1 else 0) == 1))
      { w with store := ⟨w.store.myCounterKey,
                         w.store.myAgentsKey.del (agentKey agent.uuid)⟩ } :=
  rfl

lemma runAlone_get (u : UUID) (k : Agent → Process RedisCmd.Answer α) :
    runAlone E Redis.exec (get u >>= k) w
      = match w.store.myAgentsKey.get? (agentKey (some u)) with
        | none => (.error (.entityNotFound u), w)
        | some a => runAlone E Redis.exec (k a) w := by
  rw [get_bind, runAlone_call]
  show runAlone E Redis.exec (Option.elim (w.store.myAgentsKey.get? (agentKey (some u))) _ k) w = _
  cases w.store.myAgentsKey.get? (agentKey (some u)) with
  | none => rfl
  | some a => rfl

end AgentRedisRepository

namespace AgentMemoryRepository

variable {α : Type} (w : Alone Memory)

lemma runAlone_create (payload : Agent) (k : ℕ → Process MemoryCmd.Answer α) :
    runAlone E Memory.exec (create payload >>= k) w = runAlone E Memory.exec (k w.store.next)
      { w with
        store := ⟨w.store.index + 1, w.store.agents, fun r => if r = w.store.next then
            ⟨w.store.index, payload.uid, some (E.uuids w.drawn), payload.name, []⟩
          else w.store.objects r, w.store.next + 1⟩
        drawn := w.drawn + 1 } :=
  rfl

lemma runAlone_save (agent : ℕ) (k : Bool → Process MemoryCmd.Answer α) :
    runAlone E Memory.exec (save agent >>= k) w = runAlone E Memory.exec (k true)
      { w with store := { w.store with agents := w.store.agents ++ [agent] } } :=
  rfl

lemma runAlone_delete (agent : ℕ) (k : Bool → Process MemoryCmd.Answer α) :
    runAlone E Memory.exec (delete agent >>= k) w = runAlone E Memory.exec
      (k (w.store.agents.any fun r => w.store.objects r = w.store.objects agent))
      { w with store := { w.store with
          agents := w.store.agents.eraseP fun r => w.store.objects r = w.store.objects agent } } :=
  rfl

lemma runAlone_get (u : UUID) (k : ℕ → Process MemoryCmd.Answer α) :
    runAlone E Memory.exec (get u >>= k) w
      = match w.store.agents.find? fun r => (w.store.objects r).uuid = some u with
        | none => (.error (.entityNotFound u), w)
        | some r => runAlone E Memory.exec (k r) w := by
  rw [get_bind, runAlone_call]
  show runAlone E Memory.exec (Option.elim
    (w.store.agents.find? fun r => (w.store.objects r).uuid = some u) _ k) w = _
  cases w.store.agents.find? fun r => (w.store.objects r).uuid = some u with
  | none => rfl
  | some r => rfl

end AgentMemoryRepository

end KrakenMare
