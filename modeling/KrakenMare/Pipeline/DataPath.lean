import KrakenMare.Agent.Batching
import KrakenMare.FanIn.Forwarding
import KrakenMare.Lib.Network
import KrakenMare.Lib.Streams

/-!
# The data path: agents, broker, FanIn processes

`dataPath` puts agents and the FanIn processes of the topics `root/0` .. `root/(T-1)` on the two
sides of a `Lib.Network`: an agent sends what it publishes, the broker queues it for the process
that subscribed to its topic, and a process handles one message at a time.  The broker keeps the
order of the messages from one agent on one topic, and says nothing about the order between agents
or topics.  It may lose messages; runs in which it does not are `Lossless`.

What an agent does when it acts is a parameter, so that the plain sender, whose call is a list of
records, and the simulator, whose call is the visit of a switch, share the network.  The modules
beside this one instantiate it: `Pipeline.Conservation` with one agent, `Pipeline.Coverage` with
several, `Pipeline.CounterCheck` with simulators that count their batches and `Pipeline.Monotone`
with simulators that do not.

* `publications_send` — a call only adds to what the agent has published, which is what the network
  asks of a sender.
* `dataPath`, `fanIns` — the network, and its receivers before any message.
* `receiver_observes` — in decode mode a process has observed the records it was handed, as
  `FanIn.Acceptance` has it.
* `filter_numbered` — the batches of one subtopic are those dealt to it, every `T`-th one.

A message on a topic that no process has subscribed to is not queued for anyone.  How many
processes there are, and so which subtopics are covered, is the subject of `Pipeline.Coverage`.
-/

namespace KrakenMare

open Lib Network

/-! ## Agents only add to what they have done -/

namespace AgentCommon

variable {Bytes : Type} (S : MessageSerializer Bytes) (getsizeof : ℕ → ℕ) (args : SendArgs)

/-- A record that is accepted takes back no effect. -/
lemma effects_acceptRecord (a : AgentCommon Bytes) (r : SendTimeSeriesDruid) :
    a.effects <+: (a.acceptRecord S getsizeof args r).effects := by
  have hsave : (a.saveSender args r).effects = a.effects := by
    rw [saveSender_eq]
  have hnext : ∀ c : AgentCommon Bytes, c.nextSubtopic.effects = c.effects := by
    intro c
    rw [nextSubtopic_eq]
  unfold acceptRecord
  dsimp only
  split_ifs
  · simp [hnext, publishBatch, mqttSendByteBatchAvroTsMsg, countBatch, appendRecord, hsave]
  · simp [appendRecord, hsave]
  · simp [mqttSendByteBatchAvroTsMsg, countBatch, hsave]

lemma effects_atLimit (a : AgentCommon Bytes) : a.effects <+: (a.atLimit S args).effects := by
  unfold atLimit
  split_ifs <;> simp [publishBatch, mqttSendByteBatchAvroTsMsg, countBatch]

lemma effects_mqttSendTripletBatch : ∀ (l : List SendTimeSeriesDruid) (a : AgentCommon Bytes),
    a.effects <+: (a.mqttSendTripletBatch S getsizeof args l).effects
  | [], a => List.prefix_refl _
  | r :: l, a => by
      unfold mqttSendTripletBatch
      split_ifs
      · exact effects_atLimit S args a
      · exact (effects_acceptRecord S getsizeof args a r).trans
          (effects_mqttSendTripletBatch l _)

/-- **A call** only adds to what the agent has published. -/
theorem publications_send (a : AgentCommon Bytes) (l : List SendTimeSeriesDruid) :
    a.publications <+: (a.send S getsizeof args l).publications := by
  unfold send
  split_ifs
  · exact List.prefix_refl _
  · exact (effects_mqttSendTripletBatch S getsizeof args l a).filterMap _

end AgentCommon

/-! ## The network -/

section
variable {Bytes ι Call : Type} {T : ℕ}

/-- Agents `ι`, each acting by `perform`, and one FanIn process for each of the `T` subtopics. -/
def dataPath (S : MessageSerializer Bytes) (producer : Fin T → ℕ → ProduceOutcome)
    (root : String) (perform : ι → Call → AgentCommon Bytes → AgentCommon Bytes)
    (grows : ∀ i c a, a.publications <+: (perform i c a).publications) :
    Network.Spec ι (Fin T) Call (AgentCommon Bytes) (FanIn Bytes) (Publication Bytes) where
  perform := perform
  sent := AgentCommon.publications
  sent_perform := grows
  accepts t m := m.topic = subtopic root t
  handle t m f := FanIn.mqttOnMessage S (producer t) m f

/-- The processes before any message, one for each subtopic below the root. -/
def fanIns (T : ℕ) (root : String) (batching mqttcounter mqttPassthrough : Bool) :
    Fin T → FanIn Bytes :=
  fun t => FanIn.processes root batching mqttcounter mqttPassthrough t

end

section
variable {Bytes ι Call : Type} [DecidableEq ι] {T : ℕ} {S : MessageSerializer Bytes}
  {producer : Fin T → ℕ → ProduceOutcome} {root : String}
  {perform : ι → Call → AgentCommon Bytes → AgentCommon Bytes}
  {grows : ∀ i c a, a.publications <+: (perform i c a).publications} {mqttcounter : Bool}
  {agents : ι → AgentCommon Bytes} {acts : List (Action ι (Fin T) Call)}
  {w : State ι (Fin T) (AgentCommon Bytes) (FanIn Bytes) (Publication Bytes)}
  {log : Fin T → List (ι × Publication Bytes)}

/-- In decode mode a process has observed the records of all batches it was handed, in the order in
which it was handed them. -/
theorem receiver_observes
    (hw : Wired (dataPath S producer root perform grows) agents
      (fanIns T root true mqttcounter false) acts w log)
    (hbatch : ∀ i, ∀ m ∈ (w.sender i).publications, FanIn.BatchOn S m.topic m)
    (hcount : mqttcounter = true → ∀ i, ∀ m ∈ (w.sender i).publications,
      ∀ r ∈ FanIn.recordsOf S m, r.sensorValue.int?.isSome) (t : Fin T) :
    FanIn.Observes S (fanIns T root true mqttcounter false t) (w.receiver t)
      (((log t).map Prod.snd).flatMap (FanIn.recordsOf S)) := by
  have hsent : ∀ m ∈ (log t).map Prod.snd, ∃ i, m ∈ (w.sender i).publications ∧
      m.topic = subtopic root t := by
    intro m hm
    obtain ⟨x, hx, rfl⟩ := List.mem_map.mp hm
    obtain ⟨hpub, htopic⟩ := hw.mem_log hx
    exact ⟨x.1, hpub, by simpa [dataPath] using htopic⟩
  rw [hw.receivers t]
  refine FanIn.observes_receive (producer t) ⟨rfl, rfl⟩ _ ?_ ?_
  · intro m hm
    obtain ⟨i, hpub, htopic⟩ := hsent m hm
    show FanIn.BatchOn S (subtopic root t) m
    rw [← htopic]
    exact hbatch i m hpub
  · intro hmode r hr
    obtain ⟨m, hm, hr⟩ := List.mem_flatMap.mp hr
    obtain ⟨i, hpub, -⟩ := hsent m hm
    exact hcount hmode i m hpub r hr

end

/-! ## The batches of one subtopic -/

lemma subtopic_injective {root : String} {i j : ℕ} (h : subtopic root i = subtopic root j) :
    i = j := by
  have hchars := congrArg String.toList h
  simp only [subtopic, String.toList_append, List.append_assoc,
    List.append_cancel_left_eq] at hchars
  have hdigits : Nat.toDigits 10 i = Nat.toDigits 10 j := by
    rw [← Nat.toList_repr, ← Nat.toList_repr]
    exact hchars
  rw [← Nat.ofDigitChars_ten_toDigits (n := i), hdigits, Nat.ofDigitChars_ten_toDigits]

namespace AgentCommon

variable {Bytes : Type} (S : MessageSerializer Bytes) (args : SendArgs)

/-- The broker's queue of subtopic `t` has the batches dealt to `t`. -/
lemma filter_numbered (T s t : ℕ) (batches : List (List SendTimeSeriesDruid)) :
    (numbered S args T s batches).filter (fun m => m.topic = subtopic args.topic t)
      = (deal T s t batches).map fun b => ⟨subtopic args.topic t, S.encodeBatch b⟩ := by
  have htopic : ∀ x : List SendTimeSeriesDruid × ℕ,
      (subtopic args.topic ((s + x.2) % T) = subtopic args.topic t) ↔ (s + x.2) % T = t :=
    fun x => ⟨subtopic_injective, fun h => by rw [h]⟩
  simp only [numbered, deal, List.filter_map, Function.comp_def, htopic, List.map_map]
  refine List.map_congr_left fun x hx => ?_
  have hx' := (List.mem_filter.mp hx).2
  simp only [decide_eq_true_eq] at hx'
  rw [hx']

end AgentCommon

end KrakenMare
