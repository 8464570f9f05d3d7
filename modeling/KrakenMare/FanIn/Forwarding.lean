import KrakenMare.FanIn.FanIn
import KrakenMare.Lib.Monitor
import Mathlib.Data.List.Induction

/-!
# What a FanIn process does with a stream of records

`Observes S f g records` says how a process got from `f` to `g` over `records`: it handed every
record to the producer, in order, and with the batch counter check on it ran one `Lib.Monitor` for
each sender.  The monitors of different senders do not touch each other, although their records
come mixed, so what one of them reports depends on the counts of its sender alone.

The relation composes (`Observes.trans`), so one lemma for a record (`observes_record`) gives one
for a batch (`observes_forwardRecords`), for a message (`observes_mqttOnMessage`) and for
everything a process receives (`observes_receive`).  The results about the counter check in
`Pipeline` start from the last of these and know nothing else about the handler.

**Conditions.**  The process is in decode mode, every message is a batch of records on its topic,
and with the check on every value can be read by `int` (`Countable`).  Without the last an
exception would end the handler in the middle of a batch, which is treated in `FanIn.Diagnostics`.
-/

namespace KrakenMare

open Lib

namespace FanIn

variable {Bytes : Type} (S : MessageSerializer Bytes) (producer : ℕ → ProduceOutcome)

/-- The counts that sender `u` put into a stream of records. -/
def countsOf (u : UUID) (records : List SendTimeSeriesDruid) : List ℤ :=
  records.filterMap fun r => if r.sensorUuid = u then r.sensorValue.int? else none

lemma countsOf_append (u : UUID) (rs₁ rs₂ : List SendTimeSeriesDruid) :
    countsOf u (rs₁ ++ rs₂) = countsOf u rs₁ ++ countsOf u rs₂ := List.filterMap_append ..

/-- The counter check can read every value it meets.  With the check off this says nothing. -/
def Countable (f : FanIn Bytes) (records : List SendTimeSeriesDruid) : Prop :=
  f.enableMQTTbatchCount = true → ∀ r ∈ records, r.sensorValue.int?.isSome

/-- How a process got from `f` to `g` over `records`.  Its options are the same; every record has
been handed to the producer; and for each sender the `ATTENTION` lines are the alarms of its
monitor, which stands where the counter of that sender stands. -/
structure Observes (f g : FanIn Bytes) (records : List SendTimeSeriesDruid) : Prop where
  topic : g.topic = f.topic
  batching : g.mqttBatching = f.mqttBatching
  batchCount : g.enableMQTTbatchCount = f.enableMQTTbatchCount
  passthrough : g.enableMQTTpassthrough = f.enableMQTTpassthrough
  produced : g.produced = f.produced ++ records.map S.encodeRecord
  attentions : f.enableMQTTbatchCount = true → ∀ u, g.attentionsFor u = f.attentionsFor u
    ++ (Monitor.alarms (f.myMQTTtopicCounterPerUUID.get? u) (countsOf u records)).map
      (.attention u f.topic)
  counters : f.enableMQTTbatchCount = true → ∀ u, g.myMQTTtopicCounterPerUUID.get? u
    = Monitor.lastSeen (f.myMQTTtopicCounterPerUUID.get? u) (countsOf u records)

variable {S} {f g h : FanIn Bytes}

lemma Observes.refl (f : FanIn Bytes) : Observes S f f [] := by
  constructor <;> simp [countsOf]

/-- What is observed first and what is observed then, one after the other. -/
lemma Observes.trans {rs₁ rs₂ : List SendTimeSeriesDruid} (h₁ : Observes S f g rs₁)
    (h₂ : Observes S g h rs₂) : Observes S f h (rs₁ ++ rs₂) where
  topic := h₂.topic.trans h₁.topic
  batching := h₂.batching.trans h₁.batching
  batchCount := h₂.batchCount.trans h₁.batchCount
  passthrough := h₂.passthrough.trans h₁.passthrough
  produced := by rw [h₂.produced, h₁.produced, List.map_append, List.append_assoc]
  attentions := by
    intro hc u
    rw [h₂.attentions (h₁.batchCount.trans hc) u, h₁.attentions hc u, h₁.counters hc u, h₁.topic,
      countsOf_append, Monitor.alarms_append, List.map_append, List.append_assoc]
  counters := by
    intro hc u
    rw [h₂.counters (h₁.batchCount.trans hc) u, h₁.counters hc u, countsOf_append,
      Monitor.lastSeen_append]

/-- Lines that are neither productions nor `ATTENTION` lines do not show. -/
lemma Observes.emit {rs : List SendTimeSeriesDruid} (h : Observes S f g rs) {e : FanInEffect Bytes}
    (hraw : e.rawBytes? = none) (hatt : ∀ u, e.attentionFor u = false) :
    Observes S f (g.emit e) rs where
  topic := h.topic
  batching := h.batching
  batchCount := h.batchCount
  passthrough := h.passthrough
  produced := by
    rw [← h.produced]
    simp [FanIn.produced, FanIn.emit, hraw]
  attentions := by
    intro hc u
    rw [← h.attentions hc u]
    simp [attentionsFor, FanIn.emit, hatt u]
  counters := h.counters

/-! ## One record -/

/-- `checkBatchCount` is one step of the sender's monitor. -/
lemma checkBatchCount_eq {data : SendTimeSeriesDruid} {v : ℤ} (hv : data.sensorValue.int? = some v)
    (f : FanIn Bytes) :
    checkBatchCount data f = some { f with
      myMQTTtopicCounterPerUUID := f.myMQTTtopicCounterPerUUID.set data.sensorUuid v
      effects := f.effects
        ++ (Monitor.check (f.myMQTTtopicCounterPerUUID.get? data.sensorUuid) v).map
          (.attention data.sensorUuid f.topic) } := by
  unfold checkBatchCount
  rw [hv]
  cases hc : f.myMQTTtopicCounterPerUUID.get? data.sensorUuid with
  | none =>
      by_cases h1 : v = 1
      · simp [Monitor.check, h1, setCounter]
      · simp [Monitor.check, h1, setCounter, FanIn.emit]
  | some c =>
      by_cases h1 : ¬ c = v - 1 ∧ ¬ c - v = 0
      · simp [Monitor.check, h1, setCounter, FanIn.emit]
      · simp only [Monitor.check, if_neg h1, setCounter, List.map_nil, List.append_nil]

lemma produce_fields (b : Bytes) (f : FanIn Bytes) (k : ℕ) :
    (produce producer b f k).1.topic = f.topic
    ∧ (produce producer b f k).1.mqttBatching = f.mqttBatching
    ∧ (produce producer b f k).1.enableMQTTbatchCount = f.enableMQTTbatchCount
    ∧ (produce producer b f k).1.enableMQTTpassthrough = f.enableMQTTpassthrough
    ∧ (produce producer b f k).1.produced = f.produced ++ [b]
    ∧ (∀ u, (produce producer b f k).1.attentionsFor u = f.attentionsFor u)
    ∧ (produce producer b f k).1.myMQTTtopicCounterPerUUID = f.myMQTTtopicCounterPerUUID := by
  unfold produce
  cases producer f.produced.length <;>
    simp [FanIn.emit, FanIn.produced, attentionsFor, FanInEffect.rawBytes?,
      FanInEffect.attentionFor]

/-- The body of the forwarding loop for one record that can be counted. -/
lemma observes_record {data : SendTimeSeriesDruid} (hd : Countable f [data]) (k : ℕ) :
    ∃ g, (if f.enableMQTTbatchCount then checkBatchCount data f else some f) = some g ∧
      Observes S f (produce producer (S.encodeRecord data) g k).1 [data] := by
  by_cases hc : f.enableMQTTbatchCount = true
  · obtain ⟨v, hv⟩ := Option.isSome_iff_exists.mp (hd hc data List.mem_cons_self)
    refine ⟨_, by rw [if_pos hc, checkBatchCount_eq hv], ?_⟩
    obtain ⟨p1, p2, p3, p4, p5, p6, p7⟩ := produce_fields producer (S.encodeRecord data) { f with
        myMQTTtopicCounterPerUUID := f.myMQTTtopicCounterPerUUID.set data.sensorUuid v
        effects := f.effects
          ++ (Monitor.check (f.myMQTTtopicCounterPerUUID.get? data.sensorUuid) v).map
            (.attention data.sensorUuid f.topic) } k
    refine ⟨p1, p2, p3, p4, ?_, ?_, ?_⟩
    · rw [p5]
      simp [FanIn.produced, List.filterMap_map, Function.comp_def, FanInEffect.rawBytes?]
    · intro _ u
      rw [p6 u]
      by_cases hu : data.sensorUuid = u
      · subst hu
        simp [attentionsFor, countsOf, hv, Monitor.alarms, FanInEffect.attentionFor]
      · simp [attentionsFor, countsOf, hu, FanInEffect.attentionFor]
    · intro _ u
      rw [p7]
      by_cases hu : data.sensorUuid = u
      · subst hu
        simp [countsOf, hv]
      · simp [countsOf, hu, Ne.symm hu]
  · refine ⟨f, by rw [if_neg hc], ?_⟩
    obtain ⟨p1, p2, p3, p4, p5, -, -⟩ := produce_fields producer (S.encodeRecord data) f k
    exact ⟨p1, p2, p3, p4, p5, fun h => absurd h hc, fun h => absurd h hc⟩

/-! ## Batches, messages, everything received -/

lemma Countable.of_observes {rs₁ rs₂ : List SendTimeSeriesDruid} (h : Observes S f g rs₁)
    (hc : Countable f rs₂) : Countable g rs₂ := fun hg => hc (h.batchCount ▸ hg)

lemma Countable.subset {rs₁ rs₂ : List SendTimeSeriesDruid} (hs : rs₁ ⊆ rs₂)
    (hc : Countable f rs₂) : Countable f rs₁ := fun hf r hr => hc hf r (hs hr)

/-- **The loop.**  By induction on the records: each is counted, compared and handed over, and none
raises. -/
lemma observes_forwardRecords : ∀ (records : List SendTimeSeriesDruid) (f : FanIn Bytes) (k : ℕ),
    Countable f records →
    ∃ g k', forwardRecords S producer records f k = (g, k', true) ∧ Observes S f g records
  | [], f, k, _ => ⟨f, k, rfl, Observes.refl f⟩
  | data :: rest, f, k, hc => by
      have hd : Countable f [data] := hc.subset (by simp)
      obtain ⟨f', hf', hobs⟩ := observes_record (S := S) producer hd k
      obtain ⟨g, k', hg, hrest⟩ := observes_forwardRecords rest
        (produce producer (S.encodeRecord data) f' k).1
        (produce producer (S.encodeRecord data) f' k).2
        ((hc.subset (List.subset_cons_self _ _)).of_observes hobs)
      refine ⟨g, k', ?_, hobs.trans hrest⟩
      rw [forwardRecords, hf']
      exact hg

/-- A process in decode mode: batching on, passthrough off, whether or not it checks the
counters. -/
def DecodeMode (f : FanIn Bytes) : Prop :=
  f.mqttBatching = true ∧ f.enableMQTTpassthrough = false

/-- The records on the wire in one message of the data topic. -/
def recordsOf (S : MessageSerializer Bytes) (m : Publication Bytes) : List SendTimeSeriesDruid :=
  match S.decode m.payload with
  | some (.sendTimeSeriesDruidArray b) => b.tripletBatch
  | _ => []

lemma recordsOf_encodeBatch (topic : String) (rs : List SendTimeSeriesDruid) :
    recordsOf S ⟨topic, S.encodeBatch rs⟩ = rs.map S.carried := by
  simp [recordsOf]

/-- **One batch.**  On the topic of a process it is forwarded record by record, and each record is
shown to the monitor of its sender. -/
theorem observes_mqttOnMessage (hmode : DecodeMode f) {rs : List SendTimeSeriesDruid}
    (hc : Countable f (rs.map S.carried)) :
    Observes S f (mqttOnMessage S producer ⟨f.topic, S.encodeBatch rs⟩ f) (rs.map S.carried) := by
  obtain ⟨g, k, hg, hobs⟩ := observes_forwardRecords (S := S) producer _ f 0 hc
  rw [mqttOnMessage, if_pos rfl, if_pos (by simp [hmode.2]), forwardDecoded, if_pos hmode.1,
    S.decode_encodeBatch]
  simp only [Option.map_some, Option.bind_some, QueryData.tripletBatch?, hg]
  split_ifs
  · exact hobs.emit rfl fun _ => rfl
  · exact hobs

/-- A message that is a batch of records on `topic`, encoded as an agent encodes it. -/
def BatchOn (S : MessageSerializer Bytes) (topic : String) (m : Publication Bytes) : Prop :=
  ∃ rs, m = ⟨topic, S.encodeBatch rs⟩

/-- **The run.**  A process has observed everything it has received on its topic, in order. -/
theorem observes_receive (hmode : DecodeMode f) (messages : List (Publication Bytes)) :
    (∀ m ∈ messages, BatchOn S f.topic m) → Countable f (messages.flatMap (recordsOf S)) →
    Observes S f (receive S producer f messages) (messages.flatMap (recordsOf S)) := by
  induction messages using List.reverseRecOn with
  | nil => exact fun _ _ => Observes.refl f
  | append_singleton messages m ih =>
      intro hbatch hc
      obtain ⟨rs, rfl⟩ := hbatch m (by simp)
      rw [List.flatMap_append, List.flatMap_singleton] at hc ⊢
      have hfst := ih (fun m' hm' => hbatch m' (List.mem_append_left _ hm'))
        (hc.subset (List.subset_append_left _ _))
      have hmode' : DecodeMode (receive S producer f messages) :=
        ⟨hfst.batching.trans hmode.1, hfst.passthrough.trans hmode.2⟩
      have hc' := (hc.subset (List.subset_append_right _ _)).of_observes hfst
      rw [recordsOf_encodeBatch] at hc' ⊢
      have hsnd := observes_mqttOnMessage (S := S) producer hmode' hc'
      rw [hfst.topic] at hsnd
      rw [receive_concat]
      exact hfst.trans hsnd

end FanIn

end KrakenMare
