import KrakenMare.Pipeline.Conservation

/-!
# An agent that does not batch, and FanIn without `--batching`

With `byteBatchSize = 0` an agent publishes every record alone, as a `SendTimeSeriesDruid` message
on the subtopic it started with.  FanIn started without `--batching` is meant for these messages:
it puts the raw payload into a list, `query_data`, and then indexes that list with the string
`tripletBatch`, which raises.  The exception leaves the handler, and the MQTT client goes on with
the next message; so whatever the process receives, it hands nothing to Kafka.

* `Single` — the invariant of a sender that does not batch: it has published the records that it
  has accepted, one by one.
* `unbatched_sendAll` — what it has published after any calls.
* `receive_unbatched` — one exception for each message, and no record for Kafka.
* `kafkaRecords_batched` — the records of the other transport, when everything has been delivered.
* **`transports_agree_iff`** — for the same calls the two transports agree only when there is
  nothing to transport.
* `transports_differ` — two records and a limit of one.

The comparison leaves open where the two agents start and in what order the messages are delivered,
so it is between the records and not between their orders.  It is made when the limit has been
reached: a batching agent without one may still hold records in a batch that is not full.
-/

namespace KrakenMare

open Lib Network AgentCommon

/-! ## The sender -/

namespace AgentCommon

variable {Bytes : Type} {S : MessageSerializer Bytes} {getsizeof : ℕ → ℕ} {args : SendArgs}

/-- Records published one by one, each on the subtopic that the agent started with. -/
def singles (S : MessageSerializer Bytes) (args : SendArgs) (s : ℕ)
    (records : List SendTimeSeriesDruid) : List (Publication Bytes) :=
  records.map fun r => ⟨subtopic args.topic s, S.encodeRecord r⟩

/-- `a` is a running agent that does not batch and has accepted `records`. -/
structure Single (S : MessageSerializer Bytes) (args : SendArgs) (s : ℕ)
    (records : List SendTimeSeriesDruid) (a : AgentCommon Bytes) : Prop where
  current : a.myCurrentSubtopic = s
  published : a.publications = singles S args s records
  counted : a.myMessageCounter = records.length
  running : a.exited = false

variable {s : ℕ} {records stream : List SendTimeSeriesDruid} {a : AgentCommon Bytes}

lemma Single.saveSender (h : Single S args s records a) (r : SendTimeSeriesDruid) :
    Single S args s records (a.saveSender args r) := by
  rw [saveSender_eq]
  exact ⟨h.current, h.published, h.counted, h.running⟩

/-- **One record** is published alone, and the subtopic stays what it was. -/
lemma Single.accept (h : Single S args s records a) (hb : args.byteBatchSize = 0)
    (r : SendTimeSeriesDruid) :
    Single S args s (records ++ [r]) (a.acceptRecord S getsizeof args r) := by
  have hsave := h.saveSender r
  unfold acceptRecord
  rw [if_neg (by omega)]
  refine ⟨hsave.current, ?_, ?_, hsave.running⟩
  · have hpub := hsave.published
    simp only [singles, List.map_append, List.map_cons, List.map_nil] at hpub ⊢
    rw [← hpub, ← hsave.current]
    simp [mqttSendByteBatchAvroTsMsg, countBatch, publications, AgentEffect.publication?]
  · show (a.saveSender args r).myMessageCounter + 1 = _
    rw [hsave.counted, List.length_append, List.length_singleton]

/-- **One record** below the limit is published alone. -/
theorem accepting_single (hb : args.byteBatchSize = 0) :
    Accepting S getsizeof args (Single S args s) where
  counted := fun h => h.counted
  running := fun h => h.running
  accept := fun h r => h.accept hb r

/-- At the limit there is nothing left over to publish. -/
lemma publications_atLimit_single (hb : args.byteBatchSize = 0) (a : AgentCommon Bytes) :
    (a.atLimit S args).publications = a.publications := by
  have hreport : (a.batchCountReport args).filterMap AgentEffect.publication? = [] := by
    simp [batchCountReport, AgentEffect.publication?]
  by_cases hm : args.mqttBatchCountEnabled = true
  · simp [atLimit, hb, hm, publications, hreport, AgentEffect.publication?]
  · simp [atLimit, hb, hm, publications, AgentEffect.publication?]

/-- **The unbatched sender.**  Whatever the calls, it has published the accepted records one by
one, all of them on the subtopic it started with. -/
theorem unbatched_sendAll (hb : args.byteBatchSize = 0) (enable : Bool) (T s : ℕ)
    (lists : List (List SendTimeSeriesDruid)) :
    ((start enable T s).sendAll S getsizeof args lists).publications
      = singles S args s (limited args.sendNumberOfMessages lists.flatten) := by
  have hloop : Accepting S getsizeof args (Single S args s) := accepting_single hb
  have hstart : Single S args s [] (start enable T s) := ⟨rfl, rfl, rfl, rfl⟩
  obtain ⟨a₀, h, ha⟩ := follows_sendAll hloop hstart lists
  rw [ha, ← h.published]
  split_ifs
  · exact publications_atLimit_single hb a₀
  · rfl

end AgentCommon

/-! ## The receiver -/

namespace FanIn

variable {Bytes : Type} (S : MessageSerializer Bytes) (producer : ℕ → ProduceOutcome)

/-- Without `--batching` a message on the topic of the process raises, and nothing else happens. -/
lemma mqttOnMessage_unbatched {f : FanIn Bytes} (hbatching : f.mqttBatching = false)
    (hpass : f.enableMQTTpassthrough = false) {m : Publication Bytes} (htopic : m.topic = f.topic) :
    mqttOnMessage S producer m f = f.emit .raised := by
  rw [mqttOnMessage, if_pos htopic, if_pos (by simp [hpass]), forwardDecoded,
    if_neg (by simp [hbatching])]
  rfl

/-- **The unbatched receiver.**  One exception for each message, and no record for Kafka, whatever
the payloads are. -/
theorem receive_unbatched {f : FanIn Bytes} (hbatching : f.mqttBatching = false)
    (hpass : f.enableMQTTpassthrough = false) (messages : List (Publication Bytes))
    (htopic : ∀ m ∈ messages, m.topic = f.topic) :
    receive S producer f messages
      = { f with effects := f.effects ++ List.replicate messages.length .raised } := by
  induction messages using List.reverseRecOn with
  | nil => simp [receive]
  | append_singleton messages m ih =>
      have hinit := ih fun m' hm' => htopic m' (List.mem_append_left _ hm')
      rw [receive_concat, hinit]
      rw [mqttOnMessage_unbatched S producer (by exact hbatching) (by exact hpass)
        (by exact htopic m (by simp))]
      simp [FanIn.emit, List.replicate_succ']

end FanIn

/-! ## The two transports -/

variable {Bytes : Type} {T : ℕ} (S : MessageSerializer Bytes) (getsizeof : ℕ → ℕ)
  (args : SendArgs) (producer : Fin T → ℕ → ProduceOutcome) (s : ℕ) (enable mqttcounter : Bool)

/-- `args` with batching switched off, and everything else as it was. -/
def unbatchedArgs (args : SendArgs) : SendArgs := { args with byteBatchSize := 0 }

/-- The agent does not batch, and FanIn is run without `--batching`. -/
def unbatchedRun (acts : List (Action Unit (Fin T) (List SendTimeSeriesDruid))) :
    State Unit (Fin T) (AgentCommon Bytes) (FanIn Bytes) (Publication Bytes) :=
  run (batchedPath S getsizeof (unbatchedArgs args) producer)
    (State.start (fun _ => AgentCommon.start enable T s)
      (fanIns T args.topic false mqttcounter false)) acts

/-- What all processes together handed to Kafka, process by process; the order is not compared. -/
def kafkaRecords
    (w : State Unit (Fin T) (AgentCommon Bytes) (FanIn Bytes) (Publication Bytes)) : List Bytes :=
  (List.finRange T).flatMap fun t => (w.receiver t).produced

/-- No message is in flight, to any of the processes. -/
def Drained (w : State Unit (Fin T) (AgentCommon Bytes) (FanIn Bytes) (Publication Bytes)) : Prop :=
  ∀ t, w.inFlight () t = []

/-- FanIn without `--batching` hands nothing to Kafka, in no reachable state. -/
lemma kafkaRecords_unbatched (acts : List (Action Unit (Fin T) (List SendTimeSeriesDruid))) :
    kafkaRecords (unbatchedRun S getsizeof args producer s enable mqttcounter acts) = [] := by
  obtain ⟨log, hw⟩ := wired_run (N := batchedPath S getsizeof (unbatchedArgs args) producer)
    (a := fun _ => AgentCommon.start enable T s) (b := fanIns T args.topic false mqttcounter false)
    (fun _ => rfl) acts
  refine List.flatMap_eq_nil_iff.mpr fun t _ => ?_
  have htopic : ∀ m ∈ (log t).map Prod.snd, m.topic = subtopic args.topic t := by
    intro m hm
    obtain ⟨x, hx, rfl⟩ := List.mem_map.mp hm
    exact of_decide_eq_true (hw.mem_log hx).2
  have hrecv : (unbatchedRun S getsizeof args producer s enable mqttcounter acts).receiver t
      = FanIn.receive S (producer t) (fanIns T args.topic false mqttcounter false t)
        ((log t).map Prod.snd) := hw.receivers t
  rw [hrecv, FanIn.receive_unbatched S (producer t) rfl rfl _ htopic]
  simp [FanIn.produced, fanIns, FanIn.processes, FanIn.start, FanInEffect.rawBytes?]

variable {S getsizeof args producer s enable mqttcounter}

/-- With everything delivered, Kafka has the first `n` records once the limit is hit. -/
lemma kafkaRecords_batched (hs : s < T) (hb : 0 < args.byteBatchSize)
    (acts : List (Action Unit (Fin T) (List SendTimeSeriesDruid))) (hlossless : Lossless acts)
    (hdrained : Drained (batchedRun S getsizeof args producer s enable mqttcounter acts))
    (hcount : mqttcounter = true → ∀ r ∈ (callsOf () acts).flatten,
      (S.carried r).sensorValue.int?.isSome)
    (hlim : LimitHit args.sendNumberOfMessages (callsOf () acts).flatten) :
    (kafkaRecords (batchedRun S getsizeof args producer s enable mqttcounter acts)).Perm
      (((callsOf () acts).flatten.take args.sendNumberOfMessages.toNat).map S.encodeRecord) := by
  obtain ⟨log, batches, hw, hsent⟩ := batchedRun_sent S getsizeof args producer s enable
    mqttcounter hs hb acts
  have hpart : ∀ t, ((batchedRun S getsizeof args producer s enable mqttcounter acts).receiver
      t).produced = (deal T s t batches).flatten.map S.encodeRecord := by
    intro t
    rw [← produced_inFlight hw hsent hlossless hcount t, inFlightRecords, hdrained t]
    simp
  have hflat := hsent.conserved
  rw [pending, if_pos (hsent.exited.mpr hlim), List.append_nil, limited,
    if_neg (not_lt.mpr hlim.1)] at hflat
  rw [← hflat, kafkaRecords, List.flatMap_congr fun t _ => hpart t]
  exact perm_records_deal (Nat.zero_lt_of_lt hs) batches

/-- **The two transports agree only on nothing.**  For the same calls, with nothing lost and
nothing in flight any more, both have handed the same records to Kafka when the limit is reached
exactly if the limit is zero.  With the batch counter check on, the values are taken to be ones
that `int` can read (`hcount`, which says nothing with the check off): another value ends the
handler of a batch, and then the batched side has not handed over all of its records either. -/
theorem transports_agree_iff {s₁ s₂ : ℕ} (hs₂ : s₂ < T) (hb : 0 < args.byteBatchSize)
    (acts₁ acts₂ : List (Action Unit (Fin T) (List SendTimeSeriesDruid)))
    (hcalls : callsOf () acts₁ = callsOf () acts₂) (hlossless : Lossless acts₂)
    (hdrained : Drained (batchedRun S getsizeof args producer s₂ enable mqttcounter acts₂))
    (hcount : mqttcounter = true → ∀ r ∈ (callsOf () acts₁).flatten,
      (S.carried r).sensorValue.int?.isSome)
    (hlim : LimitHit args.sendNumberOfMessages (callsOf () acts₁).flatten) :
    (kafkaRecords (unbatchedRun S getsizeof args producer s₁ enable mqttcounter acts₁)).Perm
        (kafkaRecords (batchedRun S getsizeof args producer s₂ enable mqttcounter acts₂))
      ↔ args.sendNumberOfMessages = 0 := by
  have hkafka := kafkaRecords_batched hs₂ hb acts₂ hlossless hdrained (hcalls ▸ hcount)
    (hcalls ▸ hlim)
  rw [kafkaRecords_unbatched, List.nil_perm]
  obtain ⟨h0, hlt⟩ := hcalls ▸ hlim
  constructor
  · intro hnil
    rw [hnil, List.nil_perm, List.map_eq_nil_iff, List.take_eq_nil_iff] at hkafka
    rcases hkafka with hn | hempty
    · omega
    · rw [hempty] at hlt
      exact absurd h0 (not_le.mpr hlt)
  · intro hn
    rw [hn] at hkafka
    exact List.perm_nil.mp hkafka

/-- One call with one record too many for a limit of zero: both sides have handed over nothing. -/
theorem transports_agree_at_zero :
    let r : SendTimeSeriesDruid := ⟨1570135369000, ⟨7⟩, .ofNat 1⟩
    let args : SendArgs := ⟨"ibswitch", 0, 512, ⟨7⟩, false⟩
    let acts : List (Action Unit (Fin 1) (List SendTimeSeriesDruid)) := [.perform () [r]]
    (kafkaRecords (unbatchedRun structuralSerializer listSizeof args (fun _ _ => .accepted) 0 false
      false acts)).Perm
      (kafkaRecords (batchedRun structuralSerializer listSizeof args (fun _ _ => .accepted) 0 false
        false acts)) := by
  intro r args acts
  have hdrained : Drained (batchedRun structuralSerializer listSizeof args (fun _ _ => .accepted) 0
      false false acts) := fun t => by
    obtain rfl : t = 0 := Subsingleton.elim t 0
    rfl
  exact (transports_agree_iff (by decide) (show 0 < args.byteBatchSize by decide) acts acts rfl
    (by simp [acts, Lossless]) hdrained (by simp) (by decide)).mpr rfl

/-- Two records and a limit of one: the batching side delivers the first, the other side raises. -/
theorem transports_differ :
    let r : SendTimeSeriesDruid := ⟨1570135369000, ⟨7⟩, .ofNat 1⟩
    let args : SendArgs := ⟨"ibswitch", 1, 512, ⟨7⟩, false⟩
    let acts : List (Action Unit (Fin 1) (List SendTimeSeriesDruid)) :=
      [.perform () [r, r], .deliver () 0]
    ∃ w₁ w₂, w₁ = unbatchedRun structuralSerializer listSizeof args (fun _ _ => .accepted) 0 false
        false acts ∧
      w₂ = batchedRun structuralSerializer listSizeof args (fun _ _ => .accepted) 0 false false
        acts ∧
      Lossless acts ∧ Drained w₁ ∧ Drained w₂ ∧
      LimitHit args.sendNumberOfMessages (callsOf () acts).flatten ∧
      ¬ (kafkaRecords w₁).Perm (kafkaRecords w₂) := by
  intro r args acts
  refine ⟨_, _, rfl, rfl, by simp [acts, Lossless], ?_, ?_, by decide, ?_⟩
  · intro t
    obtain rfl : t = 0 := Subsingleton.elim t 0
    decide
  · intro t
    obtain rfl : t = 0 := Subsingleton.elim t 0
    decide
  · intro hperm
    exact absurd hperm.length_eq (by decide)

end KrakenMare
