import KrakenMare.FanIn.Diagnostics

/-!
# What the producer accepts

`kafka_producer.produce` puts a record into a local queue.  When the queue is full it raises
`BufferError`; the handler of `FanIn.FanIn` prints `try again`, but does not, and goes on with the
next record.

**Two lists.**  `produced` are the records handed over, `acceptedOf` those that were taken.  The
first says what the handler did, the second what Kafka will see.  `Progress` says how both have
grown, and that `kafka_msg_counter` counts the second.

* `progress_mqttOnMessage` — what a handler that returns has done: it has handed over everything in
  its message.
* `sampleCount_eq` — the number of samples it prints is the number of those that were accepted.
* `all_accepted_iff` — **everything in a message is accepted, in order and counted, exactly when no
  call of `produce` for it raises `BufferError`.**  The condition is on the producer only.
* `full_queue_drops_record` — the queue is full once, for the first of two records, and the handler
  returns without it.

That the handler returns is a hypothesis; when the counter check meets a value it cannot read, it
does not, and `FanIn.Diagnostics` says what is lost then.
-/

namespace KrakenMare

namespace FanIn

variable {Bytes : Type} (S : MessageSerializer Bytes) (producer : ℕ → ProduceOutcome)

/-- The payloads that were accepted, of those handed over from call `n` on. -/
def acceptedFrom : ℕ → List Bytes → List Bytes
  | _, [] => []
  | n, b :: bs =>
      if producer n = .accepted then b :: acceptedFrom (n + 1) bs else acceptedFrom (n + 1) bs

/-- What the producer has accepted of a process: the payloads handed over, without those it
refused. -/
def acceptedOf (f : FanIn Bytes) : List Bytes := acceptedFrom producer 0 f.produced

/-- What a message should bring to the producer: itself, or each of its records. -/
def payloadsOf (f : FanIn Bytes) (m : Publication Bytes) : List Bytes :=
  if f.enableMQTTpassthrough then [m.payload] else (recordsOf S m).map S.encodeRecord

/-- The number of handlers that an exception has ended.  The MQTT client survives them. -/
def raisedCount (f : FanIn Bytes) : ℕ := f.effects.countP fun
  | .raised => true
  | _ => false

/-- The handler comes to its end without an exception, whatever the producer has refused on the
way. -/
def Returns (m : Publication Bytes) (f : FanIn Bytes) : Prop :=
  (mqttOnMessage S producer m f).raisedCount = f.raisedCount

instance (m : Publication Bytes) (f : FanIn Bytes) : Decidable (Returns S producer m f) :=
  inferInstanceAs (Decidable (_ = _))

/-- Everything in a message has been accepted, once and in order, and counted. -/
structure AllAccepted (m : Publication Bytes) (f : FanIn Bytes) : Prop where
  accepted : acceptedOf producer (mqttOnMessage S producer m f)
    = acceptedOf producer f ++ payloadsOf S f m
  counted : (mqttOnMessage S producer m f).kafka_msg_counter
    = f.kafka_msg_counter + (payloadsOf S f m).length

variable {producer}

lemma acceptedFrom_append (n : ℕ) : ∀ bs bs' : List Bytes, acceptedFrom producer n (bs ++ bs')
    = acceptedFrom producer n bs ++ acceptedFrom producer (n + bs.length) bs' := by
  intro bs bs'
  induction bs generalizing n with
  | nil => rfl
  | cons b bs ih =>
      rw [List.cons_append, acceptedFrom, acceptedFrom, ih, List.length_cons, Nat.add_assoc,
        Nat.add_comm 1]
      split_ifs <;> rfl

lemma sublist_acceptedFrom (n : ℕ) (bs : List Bytes) : (acceptedFrom producer n bs).Sublist bs := by
  induction bs generalizing n with
  | nil => exact List.Sublist.slnil
  | cons b bs ih =>
      rw [acceptedFrom]
      split_ifs
      · exact (ih (n + 1)).cons_cons b
      · exact (ih (n + 1)).cons b

lemma length_acceptedFrom_le (n : ℕ) (bs : List Bytes) :
    (acceptedFrom producer n bs).length ≤ bs.length := (sublist_acceptedFrom n bs).length_le

/-- Nothing is missing exactly when no call failed. -/
lemma acceptedFrom_eq_self_iff (n : ℕ) (bs : List Bytes) :
    acceptedFrom producer n bs = bs ↔ ∀ j < bs.length, producer (n + j) = .accepted := by
  induction bs generalizing n with
  | nil => simp [acceptedFrom]
  | cons b bs ih =>
      have hsplit : (∀ j < (b :: bs).length, producer (n + j) = .accepted)
          ↔ producer n = .accepted ∧ ∀ j < bs.length, producer (n + 1 + j) = .accepted := by
        rw [List.length_cons, Nat.forall_lt_succ_left]
        simp only [Nat.add_zero, Nat.add_assoc, Nat.add_comm 1]
      rw [hsplit, ← ih, acceptedFrom]
      split_ifs with hfirst
      · simp [hfirst]
      · have hshort : (acceptedFrom producer (n + 1) bs).length ≤ bs.length :=
          length_acceptedFrom_le (n + 1) bs
        refine ⟨fun heq => ?_, fun h => absurd h.1 hfirst⟩
        rw [heq, List.length_cons] at hshort
        omega

/-! ## The loop -/

variable (producer) in
/-- A process has handed `bs` to the producer and counted those that were accepted. -/
structure Progress (f g : FanIn Bytes) (bs : List Bytes) : Prop extends Hands f g bs where
  counted : g.kafka_msg_counter
    = f.kafka_msg_counter + (acceptedFrom producer f.produced.length bs).length
  raised : g.raisedCount = f.raisedCount

variable {S} {f g h : FanIn Bytes} {bs bs' : List Bytes}

lemma Progress.refl (f : FanIn Bytes) : Progress producer f f [] := ⟨.refl f, rfl, rfl⟩

lemma Progress.trans (h₁ : Progress producer f g bs) (h₂ : Progress producer g h bs') :
    Progress producer f h (bs ++ bs') where
  toHands := h₁.toHands.trans h₂.toHands
  counted := by
    rw [h₂.counted, h₁.counted, acceptedFrom_append, h₁.produced, List.length_append,
      List.length_append, Nat.add_assoc]
  raised := h₂.raised.trans h₁.raised

lemma progress_checkBatchCount {data : SendTimeSeriesDruid} (h : checkBatchCount data f = some g) :
    Progress producer f g [] := by
  refine ⟨hands_checkBatchCount h, ?_, ?_⟩ <;> cases hv : data.sensorValue.int? with
  | none => simp [checkBatchCount, hv] at h
  | some v =>
      rw [checkBatchCount_eq hv] at h
      obtain rfl := Option.some.inj h
      simp [raisedCount, acceptedFrom, List.countP_map, Function.comp_def]

/-- The check of a record, if there is one. -/
lemma progress_checked {data : SendTimeSeriesDruid}
    (h : (if f.enableMQTTbatchCount then checkBatchCount data f else some f) = some g) :
    Progress producer f g [] := by
  split_ifs at h
  · exact progress_checkBatchCount h
  · obtain rfl := Option.some.inj h
    exact Progress.refl f

variable (producer) in
lemma progress_produce (b : Bytes) (f : FanIn Bytes) (k : ℕ) :
    Progress producer f (produce producer b f k).1 [b] := by
  refine ⟨hands_produce producer b f k, ?_, ?_⟩ <;> unfold produce <;>
    cases h : producer f.produced.length <;>
      simp [acceptedFrom, h, raisedCount, FanIn.emit, List.countP_append]

/-- **The loop**, if it comes to its end: all records have been handed over, and those accepted are
counted. -/
lemma progress_forwardRecords : ∀ {records : List SendTimeSeriesDruid} {f g : FanIn Bytes}
    {k k' : ℕ}, forwardRecords S producer records f k = (g, k', true) →
    Progress producer f g (records.map S.encodeRecord)
  | [], f, g, k, k', h => by
      obtain rfl := (Prod.mk.inj h).1
      exact Progress.refl f
  | data :: rest, f, g, k, k', h => by
      rw [forwardRecords] at h
      cases hchecked : (if f.enableMQTTbatchCount then checkBatchCount data f else some f) with
      | none => simp [hchecked] at h
      | some f' =>
          rw [hchecked] at h
          exact (progress_checked hchecked).trans
            ((progress_produce producer (S.encodeRecord data) f' k).trans (progress_forwardRecords h))

variable (S producer) in
/-- An exception in the loop leaves the count to the handler. -/
lemma raisedCount_forwardRecords : ∀ (records : List SendTimeSeriesDruid) (f : FanIn Bytes) (k : ℕ),
    (forwardRecords S producer records f k).1.raisedCount = f.raisedCount
  | [], f, k => rfl
  | data :: rest, f, k => by
      rw [forwardRecords]
      cases hchecked : (if f.enableMQTTbatchCount then checkBatchCount data f else some f) with
      | none => rfl
      | some f' =>
          have hcheck : Progress producer f f' [] := progress_checked hchecked
          have hproduce := progress_produce producer (S.encodeRecord data) f' k
          exact (raisedCount_forwardRecords rest _ _).trans (hproduce.raised.trans hcheck.raised)

lemma raisedCount_emit_raised (f : FanIn Bytes) :
    (f.emit .raised).raisedCount = f.raisedCount + 1 := by
  simp [raisedCount, FanIn.emit, List.countP_append]

/-- The last line of the handler is not about a record. -/
lemma Progress.samples (h : Progress producer f g bs) (k : ℕ) :
    Progress producer f (g.emit (.samples k)) bs where
  toHands := h.toHands.emit rfl
  counted := h.counted
  raised := by
    rw [← h.raised]
    simp [raisedCount, FanIn.emit, List.countP_append]

/-- The batch that the loop goes through. -/
lemma recordsOf_of_tripletBatch? {m : Publication Bytes} {batching : Bool}
    {batch : List SendTimeSeriesDruid} (h : (if batching then
      (S.decode m.payload).map QueryData.decoded else some (.payloads [m.payload])).bind
        QueryData.tripletBatch? = some batch) : recordsOf S m = batch := by
  cases batching with
  | false => cases h
  | true =>
      rw [if_pos rfl] at h
      rw [recordsOf]
      cases hdecode : S.decode m.payload with
      | none => simp [hdecode] at h
      | some message =>
          rw [hdecode] at h
          cases message with
          | sendTimeSeriesDruidArray b => exact Option.some.inj h
          | _ => cases h

/-- A handler that returns has gone through its batch; its last line is the count of samples. -/
lemma forwardDecoded_of_returns {m : Publication Bytes}
    (hreturns : (forwardDecoded S producer m.payload f).raisedCount = f.raisedCount) :
    ∃ g k, forwardRecords S producer (recordsOf S m) f 0 = (g, k, true) ∧
      forwardDecoded S producer m.payload f = if k ≠ 47 then g.emit (.samples k) else g := by
  have hraised : ∀ g : FanIn Bytes, g.raisedCount = f.raisedCount →
      (g.emit .raised).raisedCount ≠ f.raisedCount := fun g hg h => by
    rw [raisedCount_emit_raised, hg] at h
    omega
  rw [forwardDecoded] at hreturns ⊢
  cases hbatch : (if f.mqttBatching then (S.decode m.payload).map QueryData.decoded
      else some (.payloads [m.payload])).bind QueryData.tripletBatch? with
  | none =>
      rw [hbatch] at hreturns
      exact absurd hreturns (hraised f rfl)
  | some batch =>
      have hloop := raisedCount_forwardRecords S producer batch f 0
      rw [hbatch] at hreturns
      rw [recordsOf_of_tripletBatch? hbatch]
      dsimp only at hreturns ⊢
      cases hr : forwardRecords S producer batch f 0 with
      | mk g r =>
          obtain ⟨k, finished⟩ := r
          rw [hr] at hreturns hloop
          cases finished with
          | false => exact absurd hreturns (hraised g hloop)
          | true => exact ⟨g, k, rfl, rfl⟩

lemma progress_forwardDecoded {m : Publication Bytes}
    (hreturns : (forwardDecoded S producer m.payload f).raisedCount = f.raisedCount) :
    Progress producer f (forwardDecoded S producer m.payload f)
      ((recordsOf S m).map S.encodeRecord) := by
  obtain ⟨g, k, hr, hlast⟩ := forwardDecoded_of_returns hreturns
  rw [hlast]
  split_ifs
  · exact (progress_forwardRecords hr).samples k
  · exact progress_forwardRecords hr

/-- **What a handler that returns has done**: it has handed over all payloads of the message, once
and in order, and has counted those that were accepted. -/
theorem progress_mqttOnMessage {m : Publication Bytes} (htopic : m.topic = f.topic)
    (hreturns : Returns S producer m f) :
    Progress producer f (mqttOnMessage S producer m f) (payloadsOf S f m) := by
  rw [Returns, mqttOnMessage, if_pos htopic] at hreturns
  rw [mqttOnMessage, if_pos htopic, payloadsOf]
  cases hpassthrough : f.enableMQTTpassthrough with
  | false =>
      rw [hpassthrough, if_pos (by simp)] at hreturns
      rw [if_pos (by simp), if_neg (by simp)]
      exact progress_forwardDecoded hreturns
  | true =>
      rw [if_neg (by simp), if_pos rfl]
      exact progress_produce producer m.payload f 0

/-! ## The sample count -/

variable (S producer) in
/-- `k` at the end of the loop: the samples of one message that have been handed on. -/
def sampleCount (m : Publication Bytes) (f : FanIn Bytes) : ℕ :=
  (forwardRecords S producer (recordsOf S m) f 0).2.1

variable (S producer) in
/-- `k` and `kafka_msg_counter` grow together. -/
lemma counter_forwardRecords : ∀ (records : List SendTimeSeriesDruid) (f : FanIn Bytes) (k : ℕ),
    (forwardRecords S producer records f k).1.kafka_msg_counter + k
      = f.kafka_msg_counter + (forwardRecords S producer records f k).2.1
  | [], f, k => rfl
  | data :: rest, f, k => by
      rw [forwardRecords]
      cases hchecked : (if f.enableMQTTbatchCount then checkBatchCount data f else some f) with
      | none => rfl
      | some f' =>
          have hcheck : f'.kafka_msg_counter = f.kafka_msg_counter := by
            have hprogress : Progress producer f f' [] := progress_checked hchecked
            simpa [acceptedFrom] using hprogress.counted
          have hrest := counter_forwardRecords rest
            (produce producer (S.encodeRecord data) f' k).1
            (produce producer (S.encodeRecord data) f' k).2
          have hproduce : (produce producer (S.encodeRecord data) f' k).1.kafka_msg_counter + k
              = f'.kafka_msg_counter + (produce producer (S.encodeRecord data) f' k).2 := by
            unfold produce
            cases producer f'.produced.length <;> simp [FanIn.emit]
            omega
          dsimp only
          omega

/-- A message that a process in decode mode handles to the end. -/
structure Handled (S : MessageSerializer Bytes) (producer : ℕ → ProduceOutcome)
    (m : Publication Bytes) (f : FanIn Bytes) : Prop where
  topic : m.topic = f.topic
  decodes : f.enableMQTTpassthrough = false
  returns : Returns S producer m f

lemma Handled.forwardDecoded {m : Publication Bytes} (h : Handled S producer m f) :
    (FanIn.forwardDecoded S producer m.payload f).raisedCount = f.raisedCount := by
  have hreturns := h.returns
  rwa [Returns, mqttOnMessage, if_pos h.topic, h.decodes, if_pos (by simp)] at hreturns

/-- The sample count is the number of samples the producer has accepted, as `k` goes up after
`produce` only. -/
theorem sampleCount_eq {m : Publication Bytes} (h : Handled S producer m f) :
    sampleCount S producer m f = (acceptedFrom producer f.produced.length
      ((recordsOf S m).map S.encodeRecord)).length := by
  obtain ⟨g, k, hr, -⟩ := forwardDecoded_of_returns h.forwardDecoded
  have hcounter := counter_forwardRecords S producer (recordsOf S m) f 0
  have hcounted := (progress_forwardRecords hr).counted
  rw [hr] at hcounter
  rw [sampleCount, hr]
  dsimp only at hcounter ⊢
  omega

lemma sampleCount_le {m : Publication Bytes} (h : Handled S producer m f) :
    sampleCount S producer m f ≤ (recordsOf S m).length := by
  rw [sampleCount_eq h]
  exact (length_acceptedFrom_le _ _).trans_eq (List.length_map _)

/-- All samples of a message are counted exactly when the producer accepts all of them; a sample
that it has refused is neither counted nor tried again. -/
theorem sampleCount_eq_length_iff {m : Publication Bytes} (h : Handled S producer m f) :
    sampleCount S producer m f = (recordsOf S m).length
      ↔ ∀ j < (recordsOf S m).length, producer (f.produced.length + j) = .accepted := by
  have hself : acceptedFrom producer _ _ = _ ↔ _ :=
    acceptedFrom_eq_self_iff f.produced.length ((recordsOf S m).map S.encodeRecord)
  rw [List.length_map] at hself
  rw [sampleCount_eq h, ← hself]
  constructor
  · intro hlen
    exact (sublist_acceptedFrom _ _).eq_of_length (by rw [hlen, List.length_map])
  · intro heq
    rw [heq, List.length_map]

/-! ## A full queue -/

variable (S producer) in
/-- **A full queue loses the record.**  Everything in a message is accepted, in order, and counted
exactly when no call of `produce` for it raises `BufferError`. -/
theorem all_accepted_iff (f : FanIn Bytes) (m : Publication Bytes) (htopic : m.topic = f.topic)
    (hqueue : ∀ n, producer n ≠ .kafkaException) (hreturns : Returns S producer m f) :
    AllAccepted S producer m f ↔ ∀ j < (payloadsOf S f m).length,
      producer (f.produced.length + j) ≠ .bufferError := by
  have hprogress := progress_mqttOnMessage htopic hreturns
  have haccepted : acceptedOf producer (mqttOnMessage S producer m f) = acceptedOf producer f
      ++ acceptedFrom producer f.produced.length (payloadsOf S f m) := by
    rw [acceptedOf, hprogress.produced, acceptedFrom_append, Nat.zero_add]
    rfl
  have houtcome : ∀ n, producer n = .accepted ↔ producer n ≠ .bufferError := fun n => by
    have := hqueue n
    cases h : producer n <;> simp_all
  simp only [← houtcome]
  rw [← acceptedFrom_eq_self_iff]
  constructor
  · intro hall
    have h := hall.accepted
    rw [haccepted] at h
    exact List.append_cancel_left h
  · intro hself
    exact ⟨by rw [haccepted, hself], by rw [hprogress.counted, hself]⟩

/-- Two records of one batch, of two sensors and with counts that the check lets pass. -/
def twoRecords : Publication Message :=
  ⟨"ibswitch/0", structuralSerializer.encodeBatch [⟨1570135369000, ⟨5⟩, .finite 1⟩,
    ⟨1570135369000, ⟨6⟩, .finite 1⟩]⟩

/-- Two records and a producer with room for both: everything is accepted, in decode mode with the
check on. -/
theorem all_accepted_two_records : AllAccepted structuralSerializer (fun _ => .accepted) twoRecords
    (start "ibswitch/0" true true false) :=
  (all_accepted_iff structuralSerializer (fun _ => .accepted) (start "ibswitch/0" true true false)
    twoRecords rfl (fun _ => by decide) (by decide)).mpr fun _ _ => by decide

/-- The queue is full once, for the first of two records: the handler returns without it. -/
theorem full_queue_drops_record :
    Returns structuralSerializer (fun n => if n = 0 then .bufferError else .accepted) twoRecords
        (start "ibswitch/0" true true false)
      ∧ ¬ AllAccepted structuralSerializer (fun n => if n = 0 then .bufferError else .accepted)
        twoRecords (start "ibswitch/0" true true false) :=
  ⟨by decide, fun h => absurd h.accepted (by decide)⟩

end FanIn

end KrakenMare
