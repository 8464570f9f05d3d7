import KrakenMare.FanIn.Forwarding
import Mathlib.Data.List.TakeWhile

/-!
# The diagnostics of a FanIn process

Two options of a process are meant for looking at it: `--debug`, which makes the handler print what
it does, and `--checkmqtt`, which makes it check the batch counters of the agents.  Neither should
change what goes to Kafka.

**Debug mode** does not.  `Verbose` is a process with the lines it prints, and
`Verbose.mqttOnMessage` the handler with its print statements, again statement by statement;
`Verbose.process_receive` says that without the lines it is the handler of `FanIn.FanIn`.

**The batch counter check** can.  It reads every value with `int`, and a NaN or an infinity raises.
The bare `except` calls `int` on the same value again, so the exception leaves the handler, and the
rest of the batch is not forwarded.

* `hands_receive` — what a process hands to the producer: of each message the records up to the
  first that the check cannot read, or all of them with the check off.
* `diagnostics_silent_iff` — **two runs that differ in their diagnostics hand over the same bytes
  exactly when both check or neither does, or no record carries a NaN or an infinity.**
* `diagnostics_lose_records` — a NaN in the middle of a batch.
-/

namespace KrakenMare

open Lib

/-- The lines of debug mode, with the values that they show; process ids are left out. -/
inductive DebugLine
  /-- `mqtt_on_message start` -/
  | start
  /-- `<topic>| UUID: <uuid>| MQTT batch count: <n>` -/
  | batchCount (topic : String) (sensorUuid : UUID) (count : ℤ)
  /-- `<n>:published to Kafka` -/
  | published (counter : ℕ)
  /-- `Not ibswitch topic` -/
  | notIbswitchTopic
deriving DecidableEq

/-- A process and what it has printed in debug mode, beside the lines that it always prints. -/
structure Verbose (Bytes : Type) where
  process : FanIn Bytes
  printed : List DebugLine
deriving DecidableEq

namespace Verbose

variable {Bytes : Type} (S : MessageSerializer Bytes) (producer : ℕ → ProduceOutcome)
  (myFanInGateway_debug : Bool)

/-- A line is printed in debug mode, and not otherwise; nothing else changes. -/
def print (line : DebugLine) (v : Verbose Bytes) : Verbose Bytes :=
  if myFanInGateway_debug then { v with printed := v.printed ++ [line] } else v

@[simp] lemma process_print (line : DebugLine) (v : Verbose Bytes) :
    (v.print myFanInGateway_debug line).process = v.process := by
  rw [print]
  split_ifs <;> rfl

/-- The check of one record; the line is printed at the end of the `try`, so for a known sender. -/
def checkBatchCount (data : SendTimeSeriesDruid) (v : Verbose Bytes) : Option (Verbose Bytes) :=
  (FanIn.checkBatchCount data v.process).map fun f =>
    match v.process.myMQTTtopicCounterPerUUID.get? data.sensorUuid,
        f.myMQTTtopicCounterPerUUID.get? data.sensorUuid with
    | some _, some count =>
        { v with process := f }.print myFanInGateway_debug
          (.batchCount f.topic data.sensorUuid count)
    | _, _ => { v with process := f }

/-- `kafka_producer.produce` under its two `except` clauses; an accepted call prints the counter. -/
def produce (rawBytes : Bytes) (v : Verbose Bytes) (k : ℕ) : Verbose Bytes × ℕ :=
  let r := FanIn.produce producer rawBytes v.process k
  let v' := { v with process := r.1 }
  match producer v.process.produced.length with
  | .accepted => (v'.print myFanInGateway_debug (.published r.1.kafka_msg_counter), r.2)
  | _ => (v', r.2)

/-- The loop over the records of a batch, with its debug lines. -/
def forwardRecords : List SendTimeSeriesDruid → Verbose Bytes → ℕ → Verbose Bytes × ℕ × Bool
  | [], v, k => (v, k, true)
  | data :: rest, v, k =>
      match (if v.process.enableMQTTbatchCount then
          checkBatchCount myFanInGateway_debug data v else some v) with
      | none => (v, k, false)
      | some v =>
          let r := produce producer myFanInGateway_debug (S.encodeRecord data) v k
          forwardRecords rest r.1 r.2

/-- One more effect of the process, which debug mode has no part in. -/
def emit (v : Verbose Bytes) (e : FanInEffect Bytes) : Verbose Bytes :=
  { v with process := v.process.emit e }

/-- The branch that decodes a message.  It prints nothing of its own in debug mode. -/
def forwardDecoded (payload : Bytes) (v : Verbose Bytes) : Verbose Bytes :=
  let query_data : Option (FanIn.QueryData Bytes) :=
    if v.process.mqttBatching then (S.decode payload).map .decoded else some (.payloads [payload])
  match query_data.bind FanIn.QueryData.tripletBatch? with
  | none => v.emit .raised
  | some batch =>
      match forwardRecords S producer myFanInGateway_debug batch v 0 with
      | (v, _, false) => v.emit .raised
      | (v, k, true) => if k ≠ 47 then v.emit (.samples k) else v

/-- `mqtt_on_message`, with its debug lines in the places where they are printed. -/
def mqttOnMessage (message : Publication Bytes) (v : Verbose Bytes) : Verbose Bytes :=
  let v := v.print myFanInGateway_debug .start
  if message.topic = v.process.topic then
    if ¬ v.process.enableMQTTpassthrough then
      forwardDecoded S producer myFanInGateway_debug message.payload v
    else (produce producer myFanInGateway_debug message.payload v 0).1
  else v.print myFanInGateway_debug .notIbswitchTopic

/-- The messages a process receives, one after the other, with debug mode on or off throughout. -/
def receive (v : Verbose Bytes) (messages : List (Publication Bytes)) : Verbose Bytes :=
  messages.foldl (fun v m => mqttOnMessage S producer myFanInGateway_debug m v) v

/-! ## Debug mode -/

lemma process_checkBatchCount (data : SendTimeSeriesDruid) (v : Verbose Bytes) :
    (checkBatchCount myFanInGateway_debug data v).map process
      = FanIn.checkBatchCount data v.process := by
  rw [checkBatchCount, Option.map_map]
  cases FanIn.checkBatchCount data v.process with
  | none => rfl
  | some f =>
      refine congrArg some ?_
      dsimp only [Function.comp_apply]
      split
      · exact process_print ..
      · rfl

lemma process_produce (rawBytes : Bytes) (v : Verbose Bytes) (k : ℕ) :
    ((produce producer myFanInGateway_debug rawBytes v k).1.process,
        (produce producer myFanInGateway_debug rawBytes v k).2)
      = FanIn.produce producer rawBytes v.process k := by
  rw [produce]
  split
  · rw [process_print]
  · rfl

/-- Without its lines the loop over the records is the one without debug mode, its count
included. -/
lemma process_forwardRecords : ∀ (records : List SendTimeSeriesDruid) (v : Verbose Bytes) (k : ℕ),
    ((forwardRecords S producer myFanInGateway_debug records v k).1.process,
        (forwardRecords S producer myFanInGateway_debug records v k).2)
      = FanIn.forwardRecords S producer records v.process k
  | [], v, k => rfl
  | data :: rest, v, k => by
      have hcheck : (if v.process.enableMQTTbatchCount then
            checkBatchCount myFanInGateway_debug data v else some v).map process
          = if v.process.enableMQTTbatchCount then FanIn.checkBatchCount data v.process
            else some v.process := by
        split_ifs
        · exact process_checkBatchCount myFanInGateway_debug data v
        · rfl
      rw [FanIn.forwardRecords, forwardRecords, ← hcheck]
      cases (if v.process.enableMQTTbatchCount then
          checkBatchCount myFanInGateway_debug data v else some v) with
      | none => rfl
      | some v' =>
          have hproduce := process_produce producer myFanInGateway_debug (S.encodeRecord data) v' k
          have ih := process_forwardRecords rest
            (produce producer myFanInGateway_debug (S.encodeRecord data) v' k).1
            (produce producer myFanInGateway_debug (S.encodeRecord data) v' k).2
          dsimp only [Option.map_some]
          rw [← hproduce]
          exact ih

/-- So is what comes before and after the loop, where an exception may leave the handler. -/
lemma process_forwardDecoded (payload : Bytes) (v : Verbose Bytes) :
    (forwardDecoded S producer myFanInGateway_debug payload v).process
      = FanIn.forwardDecoded S producer payload v.process := by
  rw [forwardDecoded, FanIn.forwardDecoded]
  generalize (if v.process.mqttBatching then (S.decode payload).map FanIn.QueryData.decoded
    else some (.payloads [payload])).bind FanIn.QueryData.tripletBatch? = batch?
  cases batch? with
  | none => rfl
  | some batch =>
      dsimp only
      rw [← process_forwardRecords S producer myFanInGateway_debug batch v 0]
      rcases forwardRecords S producer myFanInGateway_debug batch v 0 with ⟨v', k, finished⟩
      cases finished with
      | false => rfl
      | true =>
          dsimp only
          split_ifs <;> rfl

/-- **Debug mode only prints.**  Without its lines the process is the one that has none, in both
modes of forwarding and whatever the messages are. -/
theorem process_receive (v : Verbose Bytes) (messages : List (Publication Bytes)) :
    (receive S producer myFanInGateway_debug v messages).process
      = FanIn.receive S producer v.process messages := by
  induction messages generalizing v with
  | nil => rfl
  | cons m messages ih =>
      have hm : (mqttOnMessage S producer myFanInGateway_debug m v).process
          = FanIn.mqttOnMessage S producer m v.process := by
        rw [mqttOnMessage, FanIn.mqttOnMessage, process_print]
        split_ifs with htopic hpassthrough
        · have hproduce := process_produce producer myFanInGateway_debug m.payload
            (v.print myFanInGateway_debug .start) 0
          rw [process_print] at hproduce
          rw [← hproduce]
        · rw [process_forwardDecoded, process_print]
        · rw [process_print, process_print]
      show (receive S producer myFanInGateway_debug _ messages).process = _
      rw [ih, hm]
      rfl

end Verbose

/-! ## The batch counter check -/

namespace FanIn

variable {Bytes : Type} (S : MessageSerializer Bytes) (producer : ℕ → ProduceOutcome)

/-- What the process was started with, which no handler changes. -/
structure SameOptions (f g : FanIn Bytes) : Prop where
  topic : g.topic = f.topic
  batching : g.mqttBatching = f.mqttBatching
  batchCount : g.enableMQTTbatchCount = f.enableMQTTbatchCount
  passthrough : g.enableMQTTpassthrough = f.enableMQTTpassthrough

/-- The check lets a record pass: it is off, or `int` can read the value. -/
def readable (check : Bool) (r : SendTimeSeriesDruid) : Bool :=
  !check || r.sensorValue.int?.isSome

/-- A process that has handed `bs` to the producer, and is otherwise as it was started. -/
structure Hands (f g : FanIn Bytes) (bs : List Bytes) : Prop extends SameOptions f g where
  produced : g.produced = f.produced ++ bs

section
variable {S producer} {f g h : FanIn Bytes} {bs bs' : List Bytes}

lemma Hands.refl (f : FanIn Bytes) : Hands f f [] := ⟨⟨rfl, rfl, rfl, rfl⟩, by simp⟩

lemma Hands.trans (h₁ : Hands f g bs) (h₂ : Hands g h bs') : Hands f h (bs ++ bs') where
  topic := h₂.topic.trans h₁.topic
  batching := h₂.batching.trans h₁.batching
  batchCount := h₂.batchCount.trans h₁.batchCount
  passthrough := h₂.passthrough.trans h₁.passthrough
  produced := by rw [h₂.produced, h₁.produced, List.append_assoc]

lemma Hands.emit (h : Hands f g bs) {e : FanInEffect Bytes} (he : e.rawBytes? = none) :
    Hands f (g.emit e) bs where
  topic := h.topic
  batching := h.batching
  batchCount := h.batchCount
  passthrough := h.passthrough
  produced := by
    rw [← h.produced]
    simp [FanIn.produced, FanIn.emit, he]

variable (producer) in
lemma hands_produce (b : Bytes) (f : FanIn Bytes) (k : ℕ) :
    Hands f (produce producer b f k).1 [b] := by
  obtain ⟨p1, p2, p3, p4, p5, -, -⟩ := produce_fields producer b f k
  exact ⟨⟨p1, p2, p3, p4⟩, p5⟩

/-- The check hands nothing to the producer. -/
lemma hands_checkBatchCount {data : SendTimeSeriesDruid} (h : checkBatchCount data f = some g) :
    Hands f g [] := by
  cases hv : data.sensorValue.int? with
  | none => simp [checkBatchCount, hv] at h
  | some v =>
      rw [checkBatchCount_eq hv] at h
      obtain rfl := Option.some.inj h
      refine ⟨⟨rfl, rfl, rfl, rfl⟩, ?_⟩
      simp [FanIn.produced, List.filterMap_map, Function.comp_def, FanInEffect.rawBytes?]

lemma checkBatchCount_eq_none {data : SendTimeSeriesDruid} :
    checkBatchCount data f = none ↔ data.sensorValue.int? = none := by
  cases hv : data.sensorValue.int? with
  | none => simp [checkBatchCount, hv]
  | some v => simp [checkBatchCount_eq hv]

/-- The loop hands over the records up to the first that the check cannot read. -/
lemma hands_forwardRecords : ∀ (records : List SendTimeSeriesDruid) (f : FanIn Bytes) (k : ℕ),
    Hands f (forwardRecords S producer records f k).1
      ((records.takeWhile (readable f.enableMQTTbatchCount)).map S.encodeRecord)
  | [], f, k => Hands.refl f
  | data :: rest, f, k => by
      rw [forwardRecords]
      cases hchecked : (if f.enableMQTTbatchCount then checkBatchCount data f else some f) with
      | none =>
          have hread : readable f.enableMQTTbatchCount data = false := by
            split_ifs at hchecked with hc
            simp [readable, hc, checkBatchCount_eq_none.mp hchecked]
          rw [List.takeWhile_cons_of_neg (by simp [hread])]
          exact Hands.refl f
      | some g =>
          have hg : Hands f g [] ∧ readable f.enableMQTTbatchCount data = true := by
            split_ifs at hchecked with hc
            · refine ⟨hands_checkBatchCount hchecked, ?_⟩
              have hsome : data.sensorValue.int? ≠ none := fun hnone => by
                rw [checkBatchCount_eq_none.mpr hnone] at hchecked
                exact absurd hchecked (by simp)
              simp [readable, Option.isSome_iff_ne_none, hsome]
            · obtain rfl := Option.some.inj hchecked
              exact ⟨Hands.refl f, by simp [readable, hc]⟩
          have hproduce := hg.1.trans (hands_produce producer (S.encodeRecord data) g k)
          have ih : Hands _ (forwardRecords S producer rest
              (produce producer (S.encodeRecord data) g k).1 _).1 _ :=
            hands_forwardRecords rest _ (produce producer (S.encodeRecord data) g k).2
          rw [hproduce.batchCount] at ih
          rw [List.takeWhile_cons_of_pos hg.2]
          exact hproduce.trans ih

/-- A batch on the topic of a process in decode mode. -/
lemma hands_mqttOnMessage (hmode : DecodeMode f) {m : Publication Bytes} (htopic : m.topic = f.topic)
    {b : SendTimeSeriesDruidArray} (hm : S.decode m.payload = some (.sendTimeSeriesDruidArray b)) :
    Hands f (mqttOnMessage S producer m f) (((recordsOf S m).takeWhile
      (readable f.enableMQTTbatchCount)).map S.encodeRecord) := by
  have hloop : Hands f (forwardRecords S producer b.tripletBatch f 0).1 _ :=
    hands_forwardRecords b.tripletBatch f 0
  rw [mqttOnMessage, if_pos htopic, if_pos (by simp [hmode.2]), forwardDecoded, if_pos hmode.1, hm,
    recordsOf, hm]
  dsimp only [Option.map_some, Option.bind_some, QueryData.tripletBatch?]
  generalize forwardRecords S producer b.tripletBatch f 0 = r at hloop ⊢
  obtain ⟨g, k, finished⟩ := r
  cases finished with
  | false => exact hloop.emit rfl
  | true =>
      dsimp only
      split_ifs
      · exact hloop.emit rfl
      · exact hloop

/-- The messages are batches of records, on one topic, as agents that batch send them. -/
def BatchesOn (S : MessageSerializer Bytes) (topic : String) (messages : List (Publication Bytes)) :
    Prop :=
  ∀ m ∈ messages, m.topic = topic ∧ ∃ b, S.decode m.payload = some (.sendTimeSeriesDruidArray b)

/-- **What a process hands to the producer**: of each message the records up to the first that the
check cannot read. -/
theorem hands_receive (messages : List (Publication Bytes)) : ∀ {f : FanIn Bytes}, DecodeMode f →
    BatchesOn S f.topic messages → Hands f (receive S producer f messages)
      (messages.flatMap fun m => ((recordsOf S m).takeWhile
        (readable f.enableMQTTbatchCount)).map S.encodeRecord) := by
  induction messages with
  | nil => exact fun _ _ => Hands.refl _
  | cons m messages ih =>
      intro f hmode hbatches
      obtain ⟨htopic, b, hb⟩ := hbatches m List.mem_cons_self
      have hm : Hands f (mqttOnMessage S producer m f) _ := hands_mqttOnMessage hmode htopic hb
      have hrest := ih (f := mqttOnMessage S producer m f)
        ⟨hm.batching.trans hmode.1, hm.passthrough.trans hmode.2⟩ fun m' hm' => by
          rw [hm.topic]
          exact hbatches m' (List.mem_cons_of_mem m hm')
      rw [hm.batchCount] at hrest
      exact hm.trans hrest

end

/-! ## Two runs -/

lemma length_flatMap_le {α β : Type} {p q : α → List β} : ∀ {l : List α},
    (∀ a ∈ l, p a <+: q a) → (l.flatMap p).length ≤ (l.flatMap q).length
  | [], _ => le_rfl
  | a :: l, h => by
      have ih := length_flatMap_le fun b hb => h b (List.mem_cons_of_mem a hb)
      have ha := (h a List.mem_cons_self).length_le
      rw [List.flatMap_cons, List.flatMap_cons, List.length_append, List.length_append]
      omega

/-- Pieces that are cut short do not add up to the same. -/
lemma flatMap_eq_iff {α β : Type} {p q : α → List β} : ∀ {l : List α}, (∀ a ∈ l, p a <+: q a) →
    (l.flatMap p = l.flatMap q ↔ ∀ a ∈ l, p a = q a)
  | [], _ => by simp
  | a :: l, h => by
      have htail : ∀ b ∈ l, p b <+: q b := fun b hb => h b (List.mem_cons_of_mem a hb)
      rw [List.flatMap_cons, List.flatMap_cons, List.forall_mem_cons, ← flatMap_eq_iff htail]
      constructor
      · intro heq
        have hlength := congrArg List.length heq
        have hle := length_flatMap_le htail
        have ha := (h a List.mem_cons_self).length_le
        rw [List.length_append, List.length_append] at hlength
        have hhead : p a = q a := (h a List.mem_cons_self).eq_of_length (by omega)
        rw [hhead] at heq
        exact ⟨hhead, List.append_cancel_left heq⟩
      · rintro ⟨hhead, hrest⟩
        rw [hhead, hrest]

/-- The check takes nothing away exactly when it can read every record. -/
lemma readable_all_iff (messages : List (Publication Bytes)) :
    (messages.flatMap fun m => ((recordsOf S m).takeWhile (readable true)).map S.encodeRecord)
      = (messages.flatMap fun m =>
          ((recordsOf S m).takeWhile (readable false)).map S.encodeRecord) ↔
    ∀ m ∈ messages, ∀ r ∈ recordsOf S m, r.sensorValue.int?.isSome := by
  have hall : ∀ l : List SendTimeSeriesDruid, l.takeWhile (readable false) = l := fun l =>
    List.takeWhile_eq_self_iff.mpr fun _ _ => rfl
  simp only [hall]
  rw [flatMap_eq_iff fun m _ => (List.takeWhile_prefix _).map _]
  refine forall₂_congr fun m _ => ⟨fun heq => ?_, fun hread => ?_⟩
  · have hlength := congrArg List.length heq
    rw [List.length_map, List.length_map] at hlength
    have hself := (List.takeWhile_prefix (readable true)).eq_of_length hlength
    intro r hr
    simpa [readable] using List.takeWhile_eq_self_iff.mp hself r hr
  · rw [List.takeWhile_eq_self_iff.mpr fun r hr => by simpa [readable] using hread r hr]

/-- **Diagnostics and the data flow.**  Two runs in decode mode that differ in their diagnostics
hand the same bytes to the producer exactly when both check the batch counters or neither does, or
no record carries a NaN or an infinity. -/
theorem diagnostics_silent_iff (topic : String) (check check' debug debug' : Bool)
    (messages : List (Publication Bytes)) (hmessages : BatchesOn S topic messages) :
    (Verbose.receive S producer debug ⟨start topic true check false, []⟩ messages).process.produced
      = (Verbose.receive S producer debug' ⟨start topic true check' false, []⟩
          messages).process.produced ↔
    check = check' ∨ ∀ m ∈ messages, ∀ r ∈ recordsOf S m, r.sensorValue.int?.isSome := by
  have hproduced : ∀ check : Bool,
      (receive S producer (start topic true check false) messages).produced
        = messages.flatMap fun m =>
            ((recordsOf S m).takeWhile (readable check)).map S.encodeRecord := fun check => by
    have h : Hands _ (receive S producer (start topic true check false) messages) _ :=
      hands_receive messages ⟨rfl, rfl⟩ hmessages
    exact h.produced
  rw [Verbose.process_receive, Verbose.process_receive, hproduced, hproduced]
  cases check with
  | true =>
      cases check' with
      | true => simp
      | false => rw [readable_all_iff]; simp
  | false =>
      cases check' with
      | true => rw [eq_comm, readable_all_iff]; simp
      | false => simp

/-- A NaN in the middle of a batch, with a record before it and one after it. -/
def nanBatch : List (Publication Message) :=
  [⟨"ibswitch/0", structuralSerializer.encodeBatch [⟨1570135369000, ⟨5⟩, .finite 1⟩,
    ⟨1570135369000, ⟨5⟩, .nan⟩, ⟨1570135369000, ⟨6⟩, .finite 1⟩]⟩]

/-- The NaN makes no difference to two runs that both check, one of them in debug mode: both lose
the same records. -/
theorem diagnostics_silent_debug :
    (Verbose.receive structuralSerializer (fun _ => .accepted) true
      ⟨start "ibswitch/0" true true false, []⟩ nanBatch).process.produced
    = (Verbose.receive structuralSerializer (fun _ => .accepted) false
      ⟨start "ibswitch/0" true true false, []⟩ nanBatch).process.produced :=
  (diagnostics_silent_iff structuralSerializer (fun _ => .accepted) "ibswitch/0" true true true
    false nanBatch fun m hm => by
      obtain rfl := List.mem_singleton.mp hm
      exact ⟨rfl, _, rfl⟩).mpr (Or.inl rfl)

/-- With the check on, the NaN and what follows it are lost; with the check off all three records
get through. -/
theorem diagnostics_lose_records :
    (Verbose.receive structuralSerializer (fun _ => .accepted) false
      ⟨start "ibswitch/0" true true false, []⟩ nanBatch).process.produced
    ≠ (Verbose.receive structuralSerializer (fun _ => .accepted) false
      ⟨start "ibswitch/0" true false false, []⟩ nanBatch).process.produced := by
  decide

end FanIn

end KrakenMare
