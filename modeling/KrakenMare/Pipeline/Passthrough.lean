import KrakenMare.Agent.Batching
import KrakenMare.FanIn.Diagnostics

/-!
# What arrives on the Kafka data topic

FanIn decodes the batches it receives and produces their records one by one, or, started with
`--enableMQTTbatchPassthrough`, produces the payloads as they are.  The option is read once, when
the process is started, so one process never mixes the two.  The messages are batches of any
agents, each of any number of calls, and they may come lost, repeated and in any order.

* `hands_receive_passthrough` — a process in passthrough mode hands over what it gets.
* `flat_of_produced` — a process that decodes hands over flat records only, whatever the batch
  counter check can read: a value it cannot read ends the handler, and the rest of the batch is
  missing.
* **`message_formats`** — flat records in the first case, whole batches in the second, and the
  records are the same where the check, if it is on, can read the values.
* `passthrough_not_flat` — so the consumers of the topic do not get flat records in passthrough
  mode.

How Druid or the other consumers read the topic is outside of the repository's code and not
modelled. What is compared is what the schema registry's decoder makes of a message.
-/

namespace KrakenMare

open AgentCommon

namespace FanIn

variable {Bytes : Type} (S : MessageSerializer Bytes) (getsizeof : ℕ → ℕ)

/-- An agent that batches has published `m` on `topic`, with any arguments and after any calls. -/
def PublishedBatch (topic : String) (m : Publication Bytes) : Prop :=
  m.topic = topic ∧ ∃ (args : SendArgs) (enable : Bool) (T s : ℕ)
    (lists : List (List SendTimeSeriesDruid)), 0 < args.byteBatchSize ∧ s < T ∧
      m ∈ ((AgentCommon.start enable T s).sendAll S getsizeof args lists).publications

variable {S getsizeof} {topic : String} {m : Publication Bytes}

/-- What an agent publishes is a batch. -/
lemma PublishedBatch.batchOn (h : PublishedBatch S getsizeof topic m) : BatchOn S topic m := by
  obtain ⟨rfl, args, enable, T, s, lists, hb, hs, hm⟩ := h
  have hT : 0 < T := Nat.zero_lt_of_lt hs
  have hloop : Accepting S getsizeof args (Batched S getsizeof args T s) :=
    accepting_batched hT hb
  obtain ⟨batches, hsent⟩ := (follows_sendAll hloop (batched_start enable hs) lists).sent hb
  rw [hsent.published] at hm
  obtain ⟨⟨b, i⟩, -, rfl⟩ := List.mem_map.mp hm
  exact ⟨b, rfl⟩

lemma BatchOn.topic_eq (h : BatchOn S topic m) : m.topic = topic := by
  obtain ⟨rs, rfl⟩ := h
  rfl

lemma BatchOn.decode (h : BatchOn S topic m) :
    S.decode m.payload = some (.sendTimeSeriesDruidArray ⟨recordsOf S m⟩) := by
  obtain ⟨rs, rfl⟩ := h
  rw [recordsOf_encodeBatch]
  exact S.decode_encodeBatch rs

/-- A record that has been on the wire is not changed by going there again. -/
lemma carried_of_mem (h : BatchOn S topic m) {r : SendTimeSeriesDruid} (hr : r ∈ recordsOf S m) :
    S.carried r = r := by
  obtain ⟨rs, rfl⟩ := h
  rw [recordsOf_encodeBatch] at hr
  obtain ⟨r', -, rfl⟩ := List.mem_map.mp hr
  have hbytes := congrArg S.decode (S.encodeRecord_carried r')
  rw [S.decode_encodeRecord, S.decode_encodeRecord] at hbytes
  exact Message.sendTimeSeriesDruid.inj (Option.some.inj hbytes)

/-- A process in passthrough mode hands over the payloads. -/
lemma hands_receive_passthrough (producer : ℕ → ProduceOutcome) :
    ∀ (messages : List (Publication Bytes)) {f : FanIn Bytes}, f.enableMQTTpassthrough = true →
      (∀ m ∈ messages, m.topic = f.topic) →
      Hands f (receive S producer f messages) (messages.map Publication.payload)
  | [], f, _, _ => Hands.refl f
  | m :: messages, f, hmode, htopic => by
      have hm : Hands f (mqttOnMessage S producer m f) [m.payload] := by
        rw [mqttOnMessage, if_pos (htopic m List.mem_cons_self), if_neg (by simp [hmode])]
        exact hands_produce producer m.payload f 0
      have hrest := hands_receive_passthrough producer messages (hm.passthrough.trans hmode)
        fun m' hm' => (htopic m' (List.mem_cons_of_mem m hm')).trans hm.topic.symm
      exact hm.trans hrest

/-- Every message that a process in decode mode has produced is one flat record of the batches it
has received. -/
lemma flat_of_produced {producer : ℕ → ProduceOutcome} {messages : List (Publication Bytes)}
    {f : FanIn Bytes} (hmode : DecodeMode f) (hnone : f.produced = [])
    (hbatch : ∀ m ∈ messages, BatchOn S f.topic m) {raw : Bytes}
    (hraw : raw ∈ (receive S producer f messages).produced) :
    ∃ r ∈ messages.flatMap (recordsOf S), S.decode raw = some (.sendTimeSeriesDruid r) := by
  have hands : Hands f (receive S producer f messages) _ := hands_receive messages hmode fun m hm =>
    ⟨(hbatch m hm).topic_eq, _, (hbatch m hm).decode⟩
  rw [hands.produced, hnone, List.nil_append] at hraw
  obtain ⟨m, hm, hraw⟩ := List.mem_flatMap.mp hraw
  obtain ⟨r, hr, rfl⟩ := List.mem_map.mp hraw
  -- the check lets a first part of the batch pass
  have hrm : r ∈ recordsOf S m := (List.takeWhile_sublist _).subset hr
  refine ⟨r, List.mem_flatMap.mpr ⟨m, hm, hrm⟩, ?_⟩
  rw [S.decode_encodeRecord, carried_of_mem (hbatch m hm) hrm]

/-- **One format in each mode.**  Decoding, FanIn produces flat records of the batches only, and
with the batch counter check off, or able to read the values, one for each record in order; in
passthrough mode it produces the batches.  So the records are the same. -/
theorem message_formats (S : MessageSerializer Bytes) (getsizeof : ℕ → ℕ)
    (producer producer' : ℕ → ProduceOutcome) (topic : String)
    (mqttcounter mqttcounter' batching : Bool) (messages : List (Publication Bytes))
    (hpublished : ∀ m ∈ messages, PublishedBatch S getsizeof topic m) :
    (∀ raw ∈ (receive S producer (start topic true mqttcounter false) messages).produced,
        ∃ r ∈ messages.flatMap (recordsOf S), S.decode raw = some (.sendTimeSeriesDruid r))
      ∧ (Countable (start topic true mqttcounter false : FanIn Bytes)
          (messages.flatMap (recordsOf S)) →
        (receive S producer (start topic true mqttcounter false) messages).produced.map S.decode
          = (messages.flatMap (recordsOf S)).map fun r => some (.sendTimeSeriesDruid r))
      ∧ (receive S producer' (start topic batching mqttcounter' true) messages).produced.map
          S.decode
        = messages.map fun m => some (.sendTimeSeriesDruidArray ⟨recordsOf S m⟩) := by
  have hbatch : ∀ m ∈ messages, BatchOn S topic m := fun m hm => (hpublished m hm).batchOn
  have hdecoding : DecodeMode (start topic true mqttcounter false : FanIn Bytes) := ⟨rfl, rfl⟩
  refine ⟨fun raw hraw => flat_of_produced hdecoding rfl hbatch hraw, fun hcount => ?_, ?_⟩
  · rw [(observes_receive producer hdecoding messages hbatch hcount).produced]
    show List.map S.decode ([] ++ _) = _
    rw [List.nil_append, List.map_map]
    refine List.map_congr_left fun r hr => ?_
    obtain ⟨m, hm, hrm⟩ := List.mem_flatMap.mp hr
    rw [Function.comp_apply, S.decode_encodeRecord, carried_of_mem (hbatch m hm) hrm]
  · rw [(hands_receive_passthrough producer' messages rfl fun m hm => (hpublished m hm).1).produced]
    show List.map S.decode ([] ++ _) = _
    rw [List.nil_append, List.map_map]
    exact List.map_congr_left fun m hm => (hbatch m hm).decode

/-- Seven records for an agent with a limit of six, whose batches are full at five. -/
def sevenSent : AgentCommon Message :=
  (AgentCommon.start false 1 0).sendAll structuralSerializer listSizeof
    ⟨"ibswitch", 6, 100, ⟨7⟩, false⟩
    [List.replicate 4 ⟨1570135369000, ⟨7⟩, .ofNat 1⟩, List.replicate 3 ⟨1570135370000, ⟨8⟩, .ofNat 2⟩]

lemma published_sevenSent {m : Publication Message} (hm : m ∈ sevenSent.publications) :
    PublishedBatch structuralSerializer listSizeof (subtopic "ibswitch" 0) m := by
  have htopic : ∀ m ∈ sevenSent.publications, m.topic = subtopic "ibswitch" 0 := by decide +kernel
  exact ⟨htopic m hm, _, false, 1, 0, _, Nat.succ_pos 99, Nat.one_pos, hm⟩

/-- A full batch of five records and a left-over one of one record, through a process that decodes
and counts and through one that passes them on. -/
theorem message_formats_seven_records :
    (sevenSent.publications.map fun m => (recordsOf structuralSerializer m).length) = [5, 1]
      ∧ (receive structuralSerializer (fun _ => .accepted) (start (subtopic "ibswitch" 0) true true
          false) sevenSent.publications).produced.map structuralSerializer.decode
        = (sevenSent.publications.flatMap (recordsOf structuralSerializer)).map
          (fun r => some (.sendTimeSeriesDruid r))
      ∧ (receive structuralSerializer (fun _ => .accepted) (start (subtopic "ibswitch" 0) true true
          true) sevenSent.publications).produced.map structuralSerializer.decode
        = sevenSent.publications.map fun m =>
          some (.sendTimeSeriesDruidArray ⟨recordsOf structuralSerializer m⟩) := by
  obtain ⟨-, hdecoded, hpassed⟩ := message_formats structuralSerializer listSizeof
    (fun _ => .accepted) (fun _ => .accepted) (subtopic "ibswitch" 0) true true true
    sevenSent.publications fun m hm => published_sevenSent hm
  exact ⟨by decide +kernel, hdecoded fun _ => by decide +kernel, hpassed⟩

/-- The batch of one record that an agent with a limit of one leaves behind. -/
def lastBatch : Publication Message :=
  ⟨subtopic "ibswitch" 0, structuralSerializer.encodeBatch [⟨1570135369000, ⟨7⟩, .ofNat 1⟩]⟩

lemma published_lastBatch : PublishedBatch structuralSerializer listSizeof (subtopic "ibswitch" 0)
    lastBatch :=
  ⟨rfl, ⟨"ibswitch", 1, 512, ⟨7⟩, false⟩, false, 1, 0,
    [[⟨1570135369000, ⟨7⟩, .ofNat 1⟩, ⟨1570135370000, ⟨7⟩, .ofNat 1⟩]], by decide, by decide,
    by decide⟩

/-- Passed through, a published batch is no flat record on the Kafka topic: what comes out there is
the batch. -/
theorem passthrough_not_flat :
    PublishedBatch structuralSerializer listSizeof (subtopic "ibswitch" 0) lastBatch
      ∧ ∃ b ∈ (receive structuralSerializer (fun _ => .accepted)
        (start (subtopic "ibswitch" 0) true false true) [lastBatch]).produced,
        ∀ r, structuralSerializer.decode b ≠ some (.sendTimeSeriesDruid r) :=
  ⟨published_lastBatch, lastBatch.payload, by decide, fun r h => by cases h⟩

end FanIn

end KrakenMare
