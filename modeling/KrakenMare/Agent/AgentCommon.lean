import KrakenMare.Schema.Serializer
import Mathlib.Data.List.Basic

/-!
# `AgentCommon`: the batching sender

`agent-python-module/agentcommon.py`, the part every agent inherits to send its time series.
`mqttSendTripletBatch` is called once for each list of records an agent collects.  The state it
works on outlives the calls: the records not yet published (`myByteBatch`), the subtopic the next
batch goes to, one batch counter for each subtopic and the number of records accepted so far.

**The loop body.**  At the limit on the number of messages the agent publishes what is left over,
deregisters, disconnects and leaves the process (`atLimit`).  Below it a record is accepted
(`acceptRecord`): it joins `myByteBatch`, and as soon as the size of that list reaches
`byteBatchSize` the batch is encoded, published on the current subtopic and counted, and the turn
goes to the next subtopic.  With a `byteBatchSize` of 0 each record is published by itself, is
counted as a batch, and leaves the turn where it is.

**Parameters.**  `S` is the Avro serializer.  `getsizeof k` is `sys.getsizeof` of a list grown from
`[]` by `k` appends, which is how CPython's over-allocation enters the flush test; `listSizeof` is
what a 64-bit CPython gives, and only the examples use it, or results that speak of numbers of
records.

What the agent does to the outside is the list `effects`, oldest first.  `exited` says that
`sys.exit` has ended the process; `send` is a call made by a process that may be gone.

Left out: progress lines, timing and the texts of the debug mode.
-/

namespace KrakenMare

/-- An MQTT message as the broker sees it: a topic, and a payload that it does not look into. -/
structure Publication (Bytes : Type) where
  topic : String
  payload : Bytes
deriving DecidableEq

/-- What an agent does to the outside world, in the order in which it does it. -/
inductive AgentEffect (Bytes : Type)
  | publish (p : Publication Bytes)
  /-- the line `<sender>, <topic>,<count>` printed for each subtopic once the limit is reached -/
  | printBatchCount (sender : Option UUID) (topic : String) (count : ℕ)
  | deregistration (uuid : UUID)
  | close
deriving DecidableEq

/-- The message that an effect publishes.  A deregistration is published too, but as one effect of
its own. -/
def AgentEffect.publication? {Bytes : Type} : AgentEffect Bytes → Option (Publication Bytes)
  | publish p => some p
  | _ => none

/-- The attributes of an `AgentCommon` object that sending reads or writes. -/
structure AgentCommon (Bytes : Type) where
  myAgentMqttNumberOfPublishingTopics : ℕ
  myCurrentSubtopic : ℕ
  myBatchCounter : List ℕ
  myByteBatch : List SendTimeSeriesDruid
  myMessageCounter : ℕ
  myEnableMQTTbatchesCounter : Bool
  mymqttBatchCountSenderUUID : Option UUID
  effects : List (AgentEffect Bytes)
  /-- `sys.exit(0)` has ended the process -/
  exited : Bool
deriving DecidableEq

/-- The arguments of `mqtt_send_triplet_batch` that an agent never changes between calls. -/
structure SendArgs where
  topic : String
  /-- negative for no limit -/
  sendNumberOfMessages : ℤ
  byteBatchSize : ℕ
  uuid : UUID
  mqttBatchCountEnabled : Bool
deriving DecidableEq

/-- `"{:s}/{:d}".format(topic, i)`, the topic of the batches whose turn is `i`. -/
def subtopic (topic : String) (i : ℕ) : String := topic ++ "/" ++ toString i

/-! ## `sys.getsizeof`

What a 64-bit CPython 3.7 gives for a list grown by appends: a header of 64 bytes and 8 for each
slot, slots being allocated ahead in steps.
-/

/-- The slots allocated for a list of `k` elements that was grown by appends. -/
def listCapacity : ℕ → ℕ
  | 0 => 0
  | k + 1 =>
      if k + 1 ≤ listCapacity k then listCapacity k
      else (k + 1) + (k + 1) / 8 + if k + 1 < 9 then 3 else 6

/-- `sys.getsizeof` of such a list: the header of the list object and a pointer for each place. -/
def listSizeof (k : ℕ) : ℕ := 64 + 8 * listCapacity k

namespace AgentCommon

variable {Bytes : Type}

/-- The object before `setMqttNumberOfPublishingTopics`, which has to be called before anything is
sent. -/
def init (myEnableMQTTbatchesCounter : Bool) : AgentCommon Bytes where
  myAgentMqttNumberOfPublishingTopics := 0
  myCurrentSubtopic := 0
  myBatchCounter := []
  myByteBatch := []
  myMessageCounter := 0
  myEnableMQTTbatchesCounter := myEnableMQTTbatchesCounter
  mymqttBatchCountSenderUUID := none
  effects := []
  exited := false

/-- `start` is what `random.randrange(mqttNumberOfPublishingTopics)` returned. -/
def setMqttNumberOfPublishingTopics (a : AgentCommon Bytes)
    (mqttNumberOfPublishingTopics start : ℕ) : AgentCommon Bytes :=
  { a with
    myAgentMqttNumberOfPublishingTopics := mqttNumberOfPublishingTopics
    myCurrentSubtopic := start
    myBatchCounter := a.myBatchCounter ++ List.replicate mqttNumberOfPublishingTopics 1 }

/-- An agent whose constructor has run, with `T` subtopics of which it begins with `s`. -/
def start (enable : Bool) (T s : ℕ) : AgentCommon Bytes :=
  (init enable).setMqttNumberOfPublishingTopics T s

/-- What the agent has published, oldest first, which is all that a broker gets to see of it. -/
def publications (a : AgentCommon Bytes) : List (Publication Bytes) :=
  a.effects.filterMap AgentEffect.publication?

/-- `mqtt_send_byte_batch_avro_ts_msg`: one publication, whose outcome nobody looks at. -/
def mqttSendByteBatchAvroTsMsg (a : AgentCommon Bytes) (topic : String) (raw_bytes : Bytes) :
    AgentCommon Bytes :=
  { a with effects := a.effects ++ [.publish ⟨topic, raw_bytes⟩] }

/-- `self.myBatchCounter[self.myCurrentSubtopic] += 1`, after each publication. -/
def countBatch (a : AgentCommon Bytes) : AgentCommon Bytes :=
  { a with myBatchCounter := a.myBatchCounter.modify a.myCurrentSubtopic (· + 1) }

/-- The rotation over the subtopics, which is left out when there is only one. -/
def nextSubtopic (a : AgentCommon Bytes) : AgentCommon Bytes :=
  if a.myAgentMqttNumberOfPublishingTopics > 1 then
    { a with
      myCurrentSubtopic :=
        if a.myCurrentSubtopic < a.myAgentMqttNumberOfPublishingTopics - 1
        then a.myCurrentSubtopic + 1 else 0 }
  else a

section
variable (S : MessageSerializer Bytes) (getsizeof : ℕ → ℕ) (args : SendArgs)

/-- Encode the accumulated records, publish them on the current subtopic and count the batch. -/
def publishBatch (a : AgentCommon Bytes) : AgentCommon Bytes :=
  (a.mqttSendByteBatchAvroTsMsg (subtopic args.topic a.myCurrentSubtopic)
    (S.encodeBatch a.myByteBatch)).countBatch

/-- The lines that report the batches of each subtopic.  The counters begin at 1, so one is taken
off. -/
def batchCountReport (a : AgentCommon Bytes) : List (AgentEffect Bytes) :=
  (List.range a.myAgentMqttNumberOfPublishingTopics).map fun i =>
    .printBatchCount a.mymqttBatchCountSenderUUID (subtopic args.topic i)
      (a.myBatchCounter.getD i 0 - 1)

/-- The branch `sendNumberOfMessages == self.myMessageCounter`: publish what is left over (the list
itself is not emptied), report, deregister, close and leave the process. -/
def atLimit (a : AgentCommon Bytes) : AgentCommon Bytes :=
  let a := if args.byteBatchSize > 0 ∧ a.myByteBatch.length > 0 then a.publishBatch S args else a
  let report := if args.mqttBatchCountEnabled then a.batchCountReport args else []
  { a with
    effects := a.effects ++ report ++ [.deregistration args.uuid, .close]
    exited := true }

/-- `save sender uuid set when counting send messages`: the first record decides it, and no later
one. -/
def saveSender (a : AgentCommon Bytes) (eachRecord : SendTimeSeriesDruid) : AgentCommon Bytes :=
  if args.mqttBatchCountEnabled ∧ a.myEnableMQTTbatchesCounter
      ∧ a.mymqttBatchCountSenderUUID = none then
    { a with mymqttBatchCountSenderUUID := some eachRecord.sensorUuid }
  else a

/-- `self.myByteBatch.append(eachRecord)` and `self.myMessageCounter += 1`. -/
def appendRecord (a : AgentCommon Bytes) (eachRecord : SendTimeSeriesDruid) : AgentCommon Bytes :=
  { a with
    myByteBatch := a.myByteBatch ++ [eachRecord]
    myMessageCounter := a.myMessageCounter + 1 }

/-- The rest of the loop body, for a record below the limit.  Unbatched, the record is encoded,
appended, popped again and published at once, and the list is replaced by an empty one. -/
def acceptRecord (a : AgentCommon Bytes) (eachRecord : SendTimeSeriesDruid) : AgentCommon Bytes :=
  let a := a.saveSender args eachRecord
  if args.byteBatchSize > 0 then
    let a := a.appendRecord eachRecord
    if getsizeof a.myByteBatch.length ≥ args.byteBatchSize then
      { (a.publishBatch S args).nextSubtopic with myByteBatch := [] }
    else a
  else
    let a := { a with myMessageCounter := a.myMessageCounter + 1 }
    let a := a.mqttSendByteBatchAvroTsMsg (subtopic args.topic a.myCurrentSubtopic)
      (S.encodeRecord eachRecord)
    { a.countBatch with myByteBatch := [] }

/-- `mqtt_send_triplet_batch` on one `record_list`.  The limit ends the process in the middle of the
list. -/
def mqttSendTripletBatch : List SendTimeSeriesDruid → AgentCommon Bytes → AgentCommon Bytes
  | [], a => a
  | eachRecord :: record_list, a =>
      if args.sendNumberOfMessages = a.myMessageCounter then a.atLimit S args
      else mqttSendTripletBatch record_list (a.acceptRecord S getsizeof args eachRecord)

/-- One call of `mqtt_send_triplet_batch`, when the process is still there to make it. -/
def send (a : AgentCommon Bytes) (record_list : List SendTimeSeriesDruid) : AgentCommon Bytes :=
  if a.exited then a else mqttSendTripletBatch S getsizeof args record_list a

/-- The calls an agent makes, one after the other; what is left of a batch waits for the next
call. -/
def sendAll (a : AgentCommon Bytes) (lists : List (List SendTimeSeriesDruid)) :
    AgentCommon Bytes :=
  lists.foldl (send S getsizeof args) a

lemma sendAll_concat (a : AgentCommon Bytes) (lists : List (List SendTimeSeriesDruid))
    (l : List SendTimeSeriesDruid) : a.sendAll S getsizeof args (lists ++ [l])
      = (a.sendAll S getsizeof args lists).send S getsizeof args l :=
  List.foldl_append

end

/-! ## What the small steps leave alone -/

/-- The rotation moves the current subtopic and nothing else. -/
lemma nextSubtopic_eq (a : AgentCommon Bytes) :
    a.nextSubtopic = { a with myCurrentSubtopic := a.nextSubtopic.myCurrentSubtopic } := by
  unfold nextSubtopic
  split_ifs <;> rfl

/-- Saving the sender touches no other attribute. -/
lemma saveSender_eq (args : SendArgs) (a : AgentCommon Bytes) (r : SendTimeSeriesDruid) :
    a.saveSender args r
      = { a with
          mymqttBatchCountSenderUUID := (a.saveSender args r).mymqttBatchCountSenderUUID } := by
  unfold saveSender
  split_ifs <;> rfl

end AgentCommon

end KrakenMare
