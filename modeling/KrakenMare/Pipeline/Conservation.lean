import KrakenMare.Pipeline.DataPath

/-!
# Nothing is lost or doubled between a batching agent and Kafka

One agent that sends in batches, `T` FanIn processes in decode mode, a broker, and any schedule of
calls and deliveries.  What the agent has accepted is in one of three places: still in
`myByteBatch`, in a batch that is in flight, or handed to the Kafka producer by the process of its
subtopic.

The sender's half needs no assumption about the broker; that nothing is missing at the other end
does, and is about runs without losses.  With the counter check on a process ends its handler at a
value that `int` cannot read, so there the values are taken to be readable; with the check off they
may be any.

* `batchedPath`, `batchedRun` — the data path with one agent.
* `batchedRun_sent` — what the agent has done in a reachable state, whatever became of its batches.
* `produced_inFlight` — what a process has handed over and what is in flight to it are the records
  of the batches dealt to its subtopic, in order.
* `perm_records_deal` — the subtopics together have every record once.
* **`batched_conservation`** — all of this in every reachable state, and the exact number of
  records once the limit is hit.
* `batched_conservation_six_of_seven` — a limit that leaves a batch over.

Records are compared as they are encoded again for Kafka, so what rounding does to a value is left
to `Pipeline.SensorValues`.
-/

namespace KrakenMare

open Lib Network AgentCommon

variable {Bytes : Type} {T : ℕ} (S : MessageSerializer Bytes) (getsizeof : ℕ → ℕ)
  (args : SendArgs) (producer : Fin T → ℕ → ProduceOutcome) (s : ℕ) (enable mqttcounter : Bool)

/-- One agent, on the topics below its own; a call is one `record_list`. -/
def batchedPath : Network.Spec Unit (Fin T) (List SendTimeSeriesDruid) (AgentCommon Bytes)
    (FanIn Bytes) (Publication Bytes) :=
  dataPath S producer args.topic (fun _ l a => a.send S getsizeof args l)
    fun _ l a => publications_send S getsizeof args a l

/-- The state reached from the start by a list of actions, FanIn being run with `--batching`. -/
def batchedRun (acts : List (Action Unit (Fin T) (List SendTimeSeriesDruid))) :
    State Unit (Fin T) (AgentCommon Bytes) (FanIn Bytes) (Publication Bytes) :=
  run (batchedPath S getsizeof args producer)
    (State.start (fun _ => AgentCommon.start enable T s) (fanIns T args.topic true mqttcounter false))
    acts

/-- The bytes of the records in the messages in flight to process `t`. -/
def inFlightRecords (w : State Unit (Fin T) (AgentCommon Bytes) (FanIn Bytes) (Publication Bytes))
    (t : Fin T) : List Bytes :=
  ((w.inFlight () t).flatMap (FanIn.recordsOf S)).map S.encodeRecord

/-- What the agent has done in a reachable state. -/
lemma batchedRun_sent (hs : s < T) (hb : 0 < args.byteBatchSize)
    (acts : List (Action Unit (Fin T) (List SendTimeSeriesDruid))) :
    ∃ log batches, Wired (batchedPath S getsizeof args producer)
        (fun _ => AgentCommon.start enable T s) (fanIns T args.topic true mqttcounter false) acts
        (batchedRun S getsizeof args producer s enable mqttcounter acts) log ∧
      Sent S getsizeof args T s (callsOf () acts).flatten batches
        ((batchedRun S getsizeof args producer s enable mqttcounter acts).sender ()) := by
  obtain ⟨log, hw⟩ := wired_run (N := batchedPath S getsizeof args producer)
    (a := fun _ => AgentCommon.start enable T s) (b := fanIns T args.topic true mqttcounter false)
    (fun _ => rfl) acts
  have hloop : Accepting S getsizeof args (Batched S getsizeof args T s) :=
    accepting_batched (Nat.zero_lt_of_lt hs) hb
  have hfollows := follows_sendAll hloop (batched_start enable hs) (callsOf () acts)
  obtain ⟨batches, hsent⟩ := hfollows.sent hb
  refine ⟨log, batches, hw, ?_⟩
  have hagent : (batchedRun S getsizeof args producer s enable mqttcounter acts).sender ()
      = (AgentCommon.start enable T s).sendAll S getsizeof args (callsOf () acts) := hw.senders ()
  rwa [hagent]

variable {S getsizeof args producer s enable mqttcounter}

lemma recordsOf_numbered {m : Publication Bytes} {batches : List (List SendTimeSeriesDruid)}
    (hm : m ∈ numbered S args T s batches) :
    FanIn.BatchOn S m.topic m ∧ ∃ b ∈ batches, FanIn.recordsOf S m = b.map S.carried := by
  obtain ⟨x, hx, rfl⟩ := List.mem_map.mp hm
  refine ⟨⟨x.1, rfl⟩, x.1, ?_, FanIn.recordsOf_encodeBatch _ _⟩
  exact (List.mem_zipIdx' hx).2 ▸ List.getElem_mem _

/-- Reading the batches of a subtopic off the wire and encoding them again, record by record. -/
lemma records_of_deal (t : ℕ) (batches : List (List SendTimeSeriesDruid)) :
    (((numbered S args T s batches).filter fun m => m.topic = subtopic args.topic t).flatMap
      (FanIn.recordsOf S)).map S.encodeRecord
      = (deal T s t batches).flatten.map S.encodeRecord := by
  have hcarried : ∀ b : List SendTimeSeriesDruid,
      (b.map S.carried).map S.encodeRecord = b.map S.encodeRecord := by
    intro b
    rw [List.map_map]
    exact List.map_congr_left fun r _ => S.encodeRecord_carried r
  rw [filter_numbered, List.flatMap_map]
  simp only [FanIn.recordsOf_encodeBatch]
  rw [List.map_flatMap, List.map_flatten, ← List.flatMap_def]
  simp only [hcarried]

/-- The records of the subtopics, put together. -/
lemma perm_records_deal (hT : 0 < T) (batches : List (List SendTimeSeriesDruid)) :
    ((List.finRange T).flatMap fun t : Fin T =>
      (deal T s t batches).flatten.map S.encodeRecord).Perm
      (batches.flatten.map S.encodeRecord) := by
  have hrange : ((List.finRange T).flatMap fun t : Fin T =>
        (deal T s t batches).flatten.map S.encodeRecord)
      = ((List.range T).flatMap fun t => deal T s t batches).flatten.map S.encodeRecord := by
    rw [← List.map_coe_finRange_eq_range, List.flatMap_map, List.flatMap_def, List.flatMap_def,
      List.flatten_flatten, List.map_flatten, List.map_map, List.map_map]
    rfl
  rw [hrange]
  exact ((perm_flatMap_deal hT s batches).flatten).map _

/-! ## Every reachable state -/

variable {acts : List (Action Unit (Fin T) (List SendTimeSeriesDruid))}
  {w : State Unit (Fin T) (AgentCommon Bytes) (FanIn Bytes) (Publication Bytes)}
  {log : Fin T → List (Unit × Publication Bytes)} {stream : List SendTimeSeriesDruid}
  {batches : List (List SendTimeSeriesDruid)}

/-- What a process handed to Kafka and what is in flight to it are the records of its subtopic. -/
lemma produced_inFlight (hw : Wired (batchedPath S getsizeof args producer)
      (fun _ => AgentCommon.start enable T s) (fanIns T args.topic true mqttcounter false) acts w
      log) (hsent : Sent S getsizeof args T s stream batches (w.sender ()))
    (hlossless : Lossless acts)
    (hcount : mqttcounter = true → ∀ r ∈ stream, (S.carried r).sensorValue.int?.isSome)
    (t : Fin T) :
    (w.receiver t).produced ++ inFlightRecords S w t
      = (deal T s t batches).flatten.map S.encodeRecord := by
  have hobs := receiver_observes hw
    (by
      intro _ m hm
      rw [hsent.published] at hm
      exact (recordsOf_numbered hm).1)
    (by
      intro hmode _ m hm r hr
      rw [hsent.published] at hm
      obtain ⟨b, hb, heq⟩ := (recordsOf_numbered hm).2
      obtain ⟨r', hr', rfl⟩ := List.mem_map.mp (heq ▸ hr)
      exact hcount hmode r' (hsent.mem_stream hb hr')) t
  have hlog : (log t).map Prod.snd = (w.settled () t).map Prod.fst := by
    rw [← hw.delivered_eq hlossless () t, ← hw.logs () t]
    simp
  have hqueue : (w.settled () t).map Prod.fst ++ w.inFlight () t
      = (numbered S args T s batches).filter fun m => m.topic = subtopic args.topic t := by
    rw [← hsent.published]
    exact hw.queues () t
  rw [hobs.produced, hlog, inFlightRecords, ← records_of_deal, ← hqueue, List.flatMap_append,
    List.map_append]
  rfl

/-- **Conservation.**  In every reachable state there are the batches published so far.  They and
the pending records are the accepted records in order.  If the broker has lost nothing, each
process has handed the records of its subtopic to Kafka except those in flight to it, and together
the processes have every record once; should the counter check be on, it has to be able to read the
values.  Once the limit is hit exactly the first `n` records have been published. -/
theorem batched_conservation (hs : s < T) (hb : 0 < args.byteBatchSize)
    (acts : List (Action Unit (Fin T) (List SendTimeSeriesDruid))) :
    let w := batchedRun S getsizeof args producer s enable mqttcounter acts
    let a := w.sender ()
    let stream := (callsOf () acts).flatten
    let accepted := limited args.sendNumberOfMessages stream
    ∃ batches : List (List SendTimeSeriesDruid),
      a.publications = numbered S args T s batches ∧
      (batches.flatten ++ a.pending = accepted ∧ a.myMessageCounter = accepted.length) ∧
      (Lossless acts →
        (mqttcounter = true → ∀ r ∈ stream, (S.carried r).sensorValue.int?.isSome) →
        (∀ t : Fin T, (w.receiver t).produced ++ inFlightRecords S w t
          = (deal T s t batches).flatten.map S.encodeRecord) ∧
        ((List.finRange T).flatMap fun t => (w.receiver t).produced ++ inFlightRecords S w t).Perm
          (batches.flatten.map S.encodeRecord)) ∧
      (LimitHit args.sendNumberOfMessages stream → a.exited = true ∧ a.pending = [] ∧
        batches.flatten = stream.take args.sendNumberOfMessages.toNat) := by
  intro w a stream accepted
  obtain ⟨log, batches, hw, hsent⟩ := batchedRun_sent S getsizeof args producer s enable
    mqttcounter hs hb acts
  refine ⟨batches, hsent.published, ⟨hsent.conserved, hsent.counted⟩, ?_, ?_⟩
  · intro hlossless hcount
    have hpart := produced_inFlight hw hsent hlossless hcount
    refine ⟨hpart, ?_⟩
    have hall : (fun t => (w.receiver t).produced ++ inFlightRecords S w t) = _ := funext hpart
    rw [hall]
    exact perm_records_deal (Nat.zero_lt_of_lt hs) batches
  · intro hlim
    have hexit := hsent.exited.mpr hlim
    have hnone : a.pending = [] := if_pos hexit
    refine ⟨hexit, hnone, ?_⟩
    have hcons : batches.flatten ++ a.pending = _ := hsent.conserved
    rwa [hnone, List.append_nil, limited, if_neg (not_lt.mpr hlim.1)] at hcons

/-- Seven records with batches of five, a limit of six and the counter check on: the left-over
batch holds the sixth record. -/
theorem batched_conservation_six_of_seven :
    let r : SendTimeSeriesDruid := ⟨1570135369000, ⟨7⟩, .ofNat 1⟩
    let args : SendArgs := ⟨"ibswitch", 6, 100, ⟨7⟩, true⟩
    let acts : List (Action Unit (Fin 2) (List SendTimeSeriesDruid)) :=
      [.perform () (List.replicate 7 r), .deliver () 1, .deliver () 0]
    ∃ w, w = batchedRun structuralSerializer listSizeof args (fun _ _ => .accepted) 1 true true acts ∧
      ((List.finRange 2).flatMap fun t => (w.receiver t).produced
        ++ inFlightRecords structuralSerializer w t).Perm
        ((List.replicate 6 r).map structuralSerializer.encodeRecord) := by
  intro r args acts
  have hlossless : Lossless acts := by simp [acts, Lossless]
  have hcount : ∀ r' ∈ (callsOf () acts).flatten,
      (structuralSerializer.carried r').sensorValue.int?.isSome := by
    intro r' hr'
    obtain rfl : r' = r := by
      simpa [acts, callsOf, Action.call?] using hr'
    simp [structuralSerializer, MessageSerializer.carried, SendTimeSeriesDruid.mapFloat, r]
  obtain ⟨batches, -, -, hkafka, hlimit⟩ := batched_conservation (S := structuralSerializer)
    (s := 1) (by decide) (show 0 < args.byteBatchSize by decide) acts
  have hsix : batches.flatten = List.replicate 6 r := (hlimit (by decide)).2.2
  exact ⟨_, rfl, hsix ▸ (hkafka hlossless fun _ => hcount).2⟩

end KrakenMare
