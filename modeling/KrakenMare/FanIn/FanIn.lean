import KrakenMare.Agent.AgentCommon

/-!
# `FanIn`: from MQTT batches to the Kafka data topic

`fanin/FanIn.py`, `FanIn.mqtt_on_message`, and the list of topics `main` forks one process for.

A fan-in process subscribes to one topic, on which the agents publish batches of samples.  In
decode mode the handler takes a batch apart and hands its samples to the Kafka producer one by one;
in passthrough mode it hands over the payload as it is.  With the option `--checkmqtt` it also
watches the values: the batch counter of an agent comes as a sample like any other, and a jump in
it tells that batches are missing.

**Effects.**  What the handler does to the outside is the list `effects`, oldest first.  `producer
n` is how the `n`-th call of `kafka_producer.produce` ends.  An exception that leaves the handler
is the effect `raised`: the rest of the message is not processed, what was done before stays done.

**The counter check** keeps one number for each UUID under which it has seen a sample.  The bare
`except` around it is meant for the `KeyError` of a UUID that is new, but also catches what `int`
raises on a NaN, and then calls `int` again; see `checkBatchCount`.

**Without batching** the payload is appended to a list, which is then asked for its `tripletBatch`.
That raises a `TypeError`; see `QueryData.tripletBatch?`.

Left out: the debug prints, which are in `FanIn.Diagnostics`, the rate lines printed every 1000
messages and the timers they use.
-/

namespace KrakenMare

open Lib

/-- How one call of `kafka_producer.produce` ends.  Both exceptions are caught, and only printed. -/
inductive ProduceOutcome
  | accepted
  | bufferError
  | kafkaException
deriving DecidableEq

/-- What the handler does to the outside: calls of the producer, and lines that it prints. -/
inductive FanInEffect (Bytes : Type)
  /-- `kafka_producer.produce(kafkaProducerTopic, rawBytes)` was called -/
  | produce (rawBytes : Bytes)
  /-- `ATTENTION: Missing # of MQTTbatches for agent UUID: <uuid> and topic: <topic> is:<n>` -/
  | attention (sensorUuid : UUID) (topic : String) (missing : ℤ)
  /-- `Local producer queue is full` -/
  | queueFull
  /-- `MQTT message not published to Kafka!` -/
  | notPublished
  /-- `Samples in last processed message was: <k>` -/
  | samples (k : ℕ)
  | raised
deriving DecidableEq

namespace FanInEffect

variable {Bytes : Type}

/-- What an effect hands to the producer; it counts as handed over also when the producer refuses
it. -/
def rawBytes? : FanInEffect Bytes → Option Bytes
  | produce b => some b
  | _ => none

/-- The `ATTENTION` lines printed for one agent, whatever number they show. -/
def attentionFor (u : UUID) : FanInEffect Bytes → Bool
  | attention v _ _ => v = u
  | _ => false

end FanInEffect

/-- One FanIn process: its configuration and the attributes its handler changes. -/
structure FanIn (Bytes : Type) where
  /-- `self.mqttTopicList[0][0]` -/
  topic : String
  mqttBatching : Bool
  enableMQTTbatchCount : Bool
  enableMQTTpassthrough : Bool
  myMQTTtopicCounterPerUUID : Dict UUID ℤ
  kafka_msg_counter : ℕ
  effects : List (FanInEffect Bytes)
deriving DecidableEq

namespace FanIn

variable {Bytes : Type}

/-- The process `main` starts for one topic, before any message has come. -/
def start (topic : String) (batching mqttcounter mqttPassthrough : Bool) : FanIn Bytes where
  topic := topic
  mqttBatching := batching
  enableMQTTbatchCount := mqttcounter
  enableMQTTpassthrough := mqttPassthrough
  myMQTTtopicCounterPerUUID := ∅
  kafka_msg_counter := 1
  effects := []

/-- What the process handed to `kafka_producer.produce`, in order. -/
def produced (f : FanIn Bytes) : List Bytes := f.effects.filterMap FanInEffect.rawBytes?

/-- The `ATTENTION` lines for agent `u`, in order, of all that the process has printed. -/
def attentionsFor (u : UUID) (f : FanIn Bytes) : List (FanInEffect Bytes) :=
  f.effects.filter (FanInEffect.attentionFor u)

/-- One more effect.  Effects are only ever added, so that they tell the whole past. -/
def emit (f : FanIn Bytes) (e : FanInEffect Bytes) : FanIn Bytes :=
  { f with effects := f.effects ++ [e] }

/-- `self.myMQTTtopicCounterPerUUID[data["sensorUuid"]] = int(data["sensorValue"])` -/
def setCounter (f : FanIn Bytes) (u : UUID) (v : ℤ) : FanIn Bytes :=
  { f with myMQTTtopicCounterPerUUID := f.myMQTTtopicCounterPerUUID.set u v }

/-- The `try` / `except` around the batch counter of one record.  For a known sender the count may
stay or grow by one; an unknown one raises `KeyError`, and the bare `except` starts its count.
`int` raises on NaN and the infinities, inside the `try` and again inside the `except`, which is
the `none` here. -/
def checkBatchCount (data : SendTimeSeriesDruid) (f : FanIn Bytes) : Option (FanIn Bytes) :=
  match data.sensorValue.int? with
  | none => none
  | some v =>
      match f.myMQTTtopicCounterPerUUID.get? data.sensorUuid with
      | some c =>
          let f := if ¬ c = v - 1 ∧ ¬ c - v = 0 then
            f.emit (.attention data.sensorUuid f.topic (v - c)) else f
          some (f.setCounter data.sensorUuid v)
      | none =>
          let f := f.setCounter data.sensorUuid v
          some (if v ≠ 1 then f.emit (.attention data.sensorUuid f.topic (v - 1)) else f)

/-- The object `query_data`: the decoded record, or the list the raw payload was appended to. -/
inductive QueryData (Bytes : Type)
  | decoded (m : Message)
  | payloads (l : List Bytes)

/-- `query_data["tripletBatch"]`; `none` where it raises, a `TypeError` on a list and a `KeyError`
on a record without that field. -/
def QueryData.tripletBatch? : QueryData Bytes → Option (List SendTimeSeriesDruid)
  | decoded (.sendTimeSeriesDruidArray m) => some m.tripletBatch
  | decoded _ => none
  | payloads _ => none

section
variable (S : MessageSerializer Bytes) (producer : ℕ → ProduceOutcome)

/-- `kafka_producer.produce` under its two `except` clauses; `k` counts the accepted calls of this
message. -/
def produce (rawBytes : Bytes) (f : FanIn Bytes) (k : ℕ) : FanIn Bytes × ℕ :=
  let g := f.emit (.produce rawBytes)
  match producer f.produced.length with
  | .accepted => ({ g with kafka_msg_counter := g.kafka_msg_counter + 1 }, k + 1)
  | .bufferError => (g.emit .queueFull, k)
  | .kafkaException => (g.emit .notPublished, k)

/-- `for data in query_data["tripletBatch"]`; the last component tells whether the loop came to its
end. -/
def forwardRecords : List SendTimeSeriesDruid → FanIn Bytes → ℕ → FanIn Bytes × ℕ × Bool
  | [], f, k => (f, k, true)
  | data :: rest, f, k =>
      match (if f.enableMQTTbatchCount then checkBatchCount data f else some f) with
      | none => (f, k, false)
      | some f =>
          let r := produce producer (S.encodeRecord data) f k
          forwardRecords rest r.1 r.2

/-- The branch that decodes a message and produces its records one by one. -/
def forwardDecoded (payload : Bytes) (f : FanIn Bytes) : FanIn Bytes :=
  let query_data : Option (QueryData Bytes) :=
    if f.mqttBatching then (S.decode payload).map .decoded else some (.payloads [payload])
  match query_data.bind QueryData.tripletBatch? with
  | none => f.emit .raised
  | some batch =>
      match forwardRecords S producer batch f 0 with
      | (f, _, false) => f.emit .raised
      | (f, k, true) => if k ≠ 47 then f.emit (.samples k) else f

/-- `mqtt_on_message`: a message on another topic is passed over, and one on its own topic is
decoded or passed through. -/
def mqttOnMessage (message : Publication Bytes) (f : FanIn Bytes) : FanIn Bytes :=
  if message.topic = f.topic then
    if ¬ f.enableMQTTpassthrough then forwardDecoded S producer message.payload f
    else (produce producer message.payload f 0).1
  else f

/-- The messages a process receives, one after the other; the client calls the handler for one at a
time. -/
def receive (f : FanIn Bytes) (messages : List (Publication Bytes)) : FanIn Bytes :=
  messages.foldl (fun f m => mqttOnMessage S producer m f) f

lemma receive_concat (f : FanIn Bytes) (messages : List (Publication Bytes))
    (m : Publication Bytes) :
    receive S producer f (messages ++ [m])
      = mqttOnMessage S producer m (receive S producer f messages) := by
  rw [receive, List.foldl_append]
  rfl

end

/-- The processes `main` forks: one for each of the topics `root/0` .. `root/(T-1)`. -/
def processes (root : String) (batching mqttcounter mqttPassthrough : Bool) (i : ℕ) :
    FanIn Bytes :=
  start (subtopic root i) batching mqttcounter mqttPassthrough

end FanIn

end KrakenMare
