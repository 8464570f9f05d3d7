import KrakenMare.FanIn.Run
import KrakenMare.Pipeline.CounterCheck

/-!
# The two reports of the batch counts

A simulator that reaches its limit prints, for each subtopic, how many batches it has published
there.  A FanIn process that has heard nothing for a while prints, for each agent, the last count
it has read.  The two are meant to be compared by hand.

The setting is that of `Pipeline.CounterCheck`: simulators that count their batches, with distinct
uuids and at least two records in a full batch, FanIn processes that decode and check the counters,
and a network that may lose batches.  A count beyond `2 ^ 24` is not compared, since an Avro
`float` need not carry it.

* `Reporting` — the invariant of the sender: it counts, and has printed nothing before its limit.
* `lines_gone` — what an agent has printed when it is gone.
* `split_gone` — its batches are full ones and the one left over.
* `Tracked.counter_drained` — what a process shows once the queue is empty and the last batch has
  arrived.
* `LeftOverLate` — the left-over batch is one record, stamped before the flush, and opens a round.
* **`reports_agree_iff`** — with at least two records in a full batch and counters up to `2 ^ 24`,
  the reports agree unless the left-over batch is such a record; batches lost before the last ones
  make no difference.

With batches of one record every batch may be late and not only the one left over, which is why at
least two are asked for.  A subtopic without batches has a line with a zero in the report of the
agent and none in those of the processes, and is left out of the comparison.
-/

namespace KrakenMare

open Lib Network AgentCommon IBswitchSimulator

/-- The line `<sender>, <topic>,<count>`, of which an agent prints one for each subtopic at its
limit. -/
def AgentEffect.batchCount? {Bytes : Type} : AgentEffect Bytes → Option (Option UUID × String × ℕ)
  | printBatchCount sender topic count => some (sender, topic, count)
  | _ => none

namespace AgentCommon

section
variable {Bytes : Type} {S : MessageSerializer Bytes} {getsizeof : ℕ → ℕ} {args : SendArgs}
  {T s : ℕ} {records : List SendTimeSeriesDruid} {a : AgentCommon Bytes}

/-- The batch counts that an agent has printed, none before it has come to its limit. -/
def lines (a : AgentCommon Bytes) : List (Option UUID × String × ℕ) :=
  a.effects.filterMap AgentEffect.batchCount?

lemma lines_publishBatch (a : AgentCommon Bytes) : (a.publishBatch S args).lines = a.lines := by
  simp [lines, publishBatch, mqttSendByteBatchAvroTsMsg, countBatch, AgentEffect.batchCount?]

variable (S getsizeof) in
/-- Below the limit a record prints no batch count, and its sender is saved if there is none yet. -/
lemma lines_acceptRecord (hb : 0 < args.byteBatchSize) (a : AgentCommon Bytes)
    (r : SendTimeSeriesDruid) :
    (a.acceptRecord S getsizeof args r).lines = a.lines ∧
      (a.acceptRecord S getsizeof args r).mymqttBatchCountSenderUUID
        = (a.saveSender args r).mymqttBatchCountSenderUUID := by
  have hsave : (a.saveSender args r).lines = a.lines := by
    rw [lines, saveSender_eq]
    rfl
  have hnext : ∀ c : AgentCommon Bytes, c.nextSubtopic.lines = c.lines ∧
      c.nextSubtopic.mymqttBatchCountSenderUUID = c.mymqttBatchCountSenderUUID := by
    intro c
    rw [nextSubtopic_eq]
    exact ⟨rfl, rfl⟩
  rw [acceptRecord, if_pos hb]
  dsimp only
  split_ifs
  · obtain ⟨hlines, hsender⟩ :=
      hnext (((a.saveSender args r).appendRecord r).publishBatch S args)
    exact ⟨hlines.trans ((lines_publishBatch _).trans hsave), hsender⟩
  · exact ⟨hsave, rfl⟩

/-- Running and counting, with nothing printed yet; the sender is that of the first record. -/
structure Reporting (S : MessageSerializer Bytes) (getsizeof : ℕ → ℕ) (args : SendArgs) (T s : ℕ)
    (records : List SendTimeSeriesDruid) (a : AgentCommon Bytes) : Prop where
  counting : Counting S getsizeof args T s records a
  lines : a.lines = []
  sender : a.mymqttBatchCountSenderUUID = records.head?.map fun r => r.sensorUuid

/-- **One record** below the limit prints no line, and its sender is the one reported if it is the
first. -/
lemma accepting_reporting (hT : 0 < T) (hb : 0 < args.byteBatchSize)
    (henable : args.mqttBatchCountEnabled = true) :
    Accepting S getsizeof args (Reporting S getsizeof args T s) where
  counted h := (accepting_counting hT hb).counted h.counting
  running h := (accepting_counting hT hb).running h.counting
  accept := by
    intro records a h r
    obtain ⟨hlines, hsender⟩ := lines_acceptRecord S getsizeof hb a r
    refine ⟨(accepting_counting hT hb).accept h.counting r, hlines.trans h.lines, ?_⟩
    rw [hsender, saveSender]
    cases records with
    | nil =>
        have hnone : a.mymqttBatchCountSenderUUID = none := h.sender
        rw [if_pos ⟨henable, h.counting.2, hnone⟩]
        rfl
    | cons r' records =>
        have hsome : a.mymqttBatchCountSenderUUID = some r'.sensorUuid := h.sender
        rw [if_neg (by simp [hsome]), hsome]
        rfl

/-- The report at the limit shows the counters that the agent is left with. -/
lemma lines_atLimit (henable : args.mqttBatchCountEnabled = true) (a : AgentCommon Bytes) :
    (a.atLimit S args).lines = a.lines
      ++ (List.range a.myAgentMqttNumberOfPublishingTopics).map fun t =>
        (a.mymqttBatchCountSenderUUID, subtopic args.topic t,
          (a.atLimit S args).myBatchCounter.getD t 0 - 1) := by
  have hreport : ∀ c : AgentCommon Bytes, (c.batchCountReport args).filterMap
      AgentEffect.batchCount? = (List.range c.myAgentMqttNumberOfPublishingTopics).map fun t =>
        (c.mymqttBatchCountSenderUUID, subtopic args.topic t, c.myBatchCounter.getD t 0 - 1) := by
    intro c
    rw [batchCountReport, List.filterMap_map, ← List.filterMap_eq_map]
    rfl
  by_cases hleft : args.byteBatchSize > 0 ∧ a.myByteBatch.length > 0
  · have hlines : (a.publishBatch S args).lines = a.lines := lines_publishBatch a
    rw [lines] at hlines
    simp only [lines, atLimit, if_pos hleft, henable, if_true, List.filterMap_append, hreport,
      hlines]
    simp [AgentEffect.batchCount?, publishBatch, mqttSendByteBatchAvroTsMsg, countBatch]
  · simp only [lines, atLimit, if_neg hleft, henable, if_true, List.filterMap_append, hreport]
    simp [AgentEffect.batchCount?]

/-- **What an agent has printed when it is gone**: for each subtopic the batches it has published
there, and with them the sender of its first record. -/
theorem lines_gone {stream : List SendTimeSeriesDruid} {batches : List (List SendTimeSeriesDruid)}
    (henable : args.mqttBatchCountEnabled = true)
    (hfollows : Follows S args (Reporting S getsizeof args T s) stream a)
    (hsent : Sent S getsizeof args T s stream batches a) (hexit : a.exited = true) :
    a.lines = (List.range T).map fun t =>
      ((limited args.sendNumberOfMessages stream).head?.map fun r => r.sensorUuid,
        subtopic args.topic t, publishedOn T s t batches.length) := by
  obtain ⟨a₀, h, rfl⟩ := hfollows.gone (hsent.exited.mp hexit)
  obtain ⟨batches₀, hrun, -⟩ := h.counting.1
  rw [lines_atLimit henable, h.lines, h.sender, hrun.topics, List.nil_append]
  refine List.map_congr_left fun t ht => ?_
  have hcount : (a₀.atLimit S args).myBatchCounter.getD t 0
      = 1 + publishedOn T s t batches.length := by
    rw [hsent.counters, List.getD_eq_getElem?_getD, List.getElem?_map,
      List.getElem?_range (List.mem_range.mp ht)]
    rfl
  rw [hcount, Nat.add_sub_cancel_left]

/-- A count that is not zero stands in the line of its subtopic, under the uuid of the agent. -/
lemma mem_lines_gone {u : UUID} {N : ℕ} {readings : List SwitchReading}
    {batches : List (List SendTimeSeriesDruid)} (henable : args.mqttBatchCountEnabled = true)
    (hfollows : Follows S args (Reporting S getsizeof args T s) (stampedStream u T N readings) a)
    (hsent : Sent S getsizeof args T s (stampedStream u T N readings) batches a)
    (hexit : a.exited = true) {t n : ℕ} (ht : t < T) (hn : n ≠ 0) :
    (some u, subtopic args.topic t, n) ∈ a.lines ↔ n = publishedOn T s t batches.length := by
  rw [lines_gone henable hfollows hsent hexit, List.mem_map]
  constructor
  · rintro ⟨t', -, hline⟩
    rw [Prod.mk.injEq, Prod.mk.injEq] at hline
    obtain ⟨-, htopic, rfl⟩ := hline
    rw [subtopic_injective htopic]
  · rintro rfl
    have hsome : batches ≠ [] := by
      rintro rfl
      exact hn (by simp [publishedOn])
    obtain ⟨b, hb⟩ := List.exists_mem_of_ne_nil _ hsome
    obtain ⟨r, hr⟩ := List.exists_mem_of_ne_nil _ (hsent.nonempty b hb)
    have hmem : r ∈ limited args.sendNumberOfMessages (stampedStream u T N readings) := by
      rw [← hsent.conserved]
      exact List.mem_append_left _ (List.mem_flatten_of_mem hb hr)
    cases hlimited : limited args.sendNumberOfMessages (stampedStream u T N readings) with
    | nil => simp [hlimited] at hmem
    | cons r₀ rest =>
        obtain ⟨more, hmore⟩ :=
          limited_isPrefix args.sendNumberOfMessages (stampedStream u T N readings)
        have hfirst : (stampedStream u T N readings)[0]? = some r₀ := by
          rw [← hmore, hlimited]
          rfl
        refine ⟨t, List.mem_range.mpr ht, ?_⟩
        rw [List.head?_cons, Option.map_some, (getElem?_stampedStream readings hfirst).1]

/-! ## The left-over batch -/

/-- How many batches a subtopic was dealt. -/
lemma length_deal {α : Type} (T s t : ℕ) (l : List α) :
    (deal T s t l).length = publishedOn T s t l.length := by
  induction l using List.reverseRecOn with
  | nil => simp [deal, publishedOn]
  | append_singleton l a ih =>
      have hdeal : deal T s t (l ++ [a])
          = deal T s t l ++ if (s + l.length) % T = t then [a] else [] := by
        simp only [deal, List.zipIdx_append, List.filter_append, List.map_append]
        split_ifs with h <;> simp [h]
      rw [hdeal, List.length_append, ih, List.length_append, List.length_singleton,
        publishedOn_succ]
      split_ifs <;> rfl

/-- The batches of an agent that is gone: full ones and the last one. -/
lemma split_gone {stream : List SendTimeSeriesDruid} {batches : List (List SendTimeSeriesDruid)}
    {N : ℕ} (hsent : Sent S getsizeof args T s stream batches a) (hexit : a.exited = true)
    (hN : Fills getsizeof args N) :
    (batches = [] ∧ args.sendNumberOfMessages.toNat = 0) ∨
    ∃ full last, batches = full ++ [last] ∧ (∀ b ∈ full, b.length = N) ∧ 0 < last.length ∧
      last.length ≤ N ∧ full.length * N + last.length = args.sendNumberOfMessages.toNat := by
  have hlimit := hsent.exited.mp hexit
  have htotal : batches.flatten.length = args.sendNumberOfMessages.toNat := by
    have hconserved := congrArg List.length hsent.conserved
    rw [pending, if_pos hexit, List.append_nil, limited, if_neg (not_lt.mpr hlimit.1),
      List.length_take] at hconserved
    have hlt := hlimit.2
    omega
  rcases List.eq_nil_or_concat batches with hnil | ⟨full, last, hsplit⟩
  · rw [hnil] at htotal
    exact Or.inl ⟨hnil, htotal.symm⟩
  · rw [List.concat_eq_append] at hsplit
    subst hsplit
    have hfull : ∀ b ∈ full, b.length = N := by
      intro b hb
      obtain ⟨k, hk, rfl⟩ := List.mem_iff_getElem.mp hb
      have hfills := hsent.full k (by simpa using hk)
      rw [List.getElem_append_left hk] at hfills
      exact hfills.unique hN
    refine Or.inr ⟨full, last, rfl, hfull, ?_, ?_, ?_⟩
    · exact List.length_pos_iff.mpr (hsent.nonempty last (by simp))
    · by_contra hlong
      have hsmall := hsent.atMostFull last (by simp) N hN.1 (by omega)
      exact absurd hN.2.1 (not_le.mpr hsmall)
    · rw [← htotal, List.flatten_append, List.flatten_singleton, List.length_append,
        length_flatten_of_length_eq hfull]

/-- Only the batch left over at the limit can be a single record. -/
lemma length_left_over {stream : List SendTimeSeriesDruid}
    {batches : List (List SendTimeSeriesDruid)} {N : ℕ}
    (hsent : Sent S getsizeof args T s stream batches a) (hexit : a.exited = true)
    (hN : Fills getsizeof args N) (hN2 : 2 ≤ N) {i : ℕ} :
    (∃ hi : i < batches.length, batches[i].length = 1) ↔
      args.sendNumberOfMessages.toNat % N = 1 ∧ i = args.sendNumberOfMessages.toNat / N := by
  rcases split_gone hsent hexit hN with ⟨rfl, hzero⟩ | ⟨full, last, rfl, hfull, hpos, hle, htotal⟩
  · simp [hzero]
  · rw [← htotal]
    have hround : last.length = 1 → (full.length * N + last.length) % N = 1 ∧
        (full.length * N + last.length) / N = full.length := by
      intro hone
      rw [hone, Nat.mul_add_mod_of_lt hN2, Nat.mul_comm, Nat.mul_add_div hN.1,
        Nat.div_eq_of_lt hN2]
      exact ⟨rfl, rfl⟩
    constructor
    · rintro ⟨hi, hone⟩
      rw [List.length_append, List.length_singleton] at hi
      rcases Nat.lt_or_ge i full.length with hlt | hge
      · -- a full batch
        rw [List.getElem_append_left hlt, hfull _ (List.getElem_mem hlt)] at hone
        omega
      · obtain rfl : i = full.length := by omega
        have hlast : last.length = 1 := by simpa using hone
        obtain ⟨hmod, hdiv⟩ := hround hlast
        exact ⟨hmod, hdiv.symm⟩
    · rintro ⟨hmod, rfl⟩
      have hone : last.length = 1 := by
        rw [Nat.mul_add_mod'] at hmod
        rcases Nat.lt_or_ge last.length N with hlt | hge
        · rwa [Nat.mod_eq_of_lt hlt] at hmod
        · rw [Nat.le_antisymm hle hge, Nat.mod_self] at hmod
          omega
      rw [(hround hone).2]
      exact ⟨by simp, by simpa using hone⟩

/-- A single record at the start of a round is the last batch, on the subtopic the agent began
with. -/
lemma publishedOn_left_over {stream : List SendTimeSeriesDruid}
    {batches : List (List SendTimeSeriesDruid)} {N k : ℕ}
    (hsent : Sent S getsizeof args T s stream batches a) (hN : Fills getsizeof args N)
    (hN2 : 2 ≤ N) (hs : s < T) (hk : k < batches.length) (hone : batches[k].length = 1)
    (hround : T ∣ k) : publishedOn T s s batches.length = k / T + 1 := by
  have hlast : batches.length = k + 1 := by
    by_contra hne
    have hfull := (hsent.full k (by omega)).unique hN
    omega
  have hturn : (s + k) % T = s := by
    obtain ⟨q, rfl⟩ := hround
    rw [Nat.add_mul_mod_self_left, Nat.mod_eq_of_lt hs]
  have hbefore := publishedOn_current (Nat.zero_lt_of_lt hs) s k
  rw [hturn] at hbefore
  rw [hlast, publishedOn_succ, hbefore, if_pos hturn]

end

end AgentCommon

/-! ## The two reports -/

/-- The left-over batch is one record, stamped before the last full batch was flushed, and it opens
a round. -/
def LeftOverLate (T N n : ℕ) : Prop := n % N = 1 ∧ lateBatch T N (n / N) = true

variable {Bytes ι : Type} [DecidableEq ι] {T : ℕ} {S : MessageSerializer Bytes}
  {getsizeof : ℕ → ℕ} {args : ι → SendArgs} {producer : Fin T → ℕ → ProduceOutcome} {root : String}
  {s N : ι → ℕ} {acts : List (Action ι (Fin T) SwitchReading)}
  {w : State ι (Fin T) (AgentCommon Bytes) (FanIn Bytes) (Publication Bytes)}
  {log : Fin T → List (ι × Publication Bytes)}

variable (args) in
/-- The lines with a count that agent `i` has printed are those the processes print for it. -/
def ReportsAgree (w : State ι (Fin T) (AgentCommon Bytes) (FanIn Bytes) (Publication Bytes))
    (i : ι) : Prop :=
  ∀ (t : Fin T) (c : ℤ),
    ((args i).uuid, (w.receiver t).topic, c) ∈ (w.receiver t).idleReport ↔
      ∃ n : ℕ, n ≠ 0 ∧ c = n ∧
        (some (args i).uuid, (w.receiver t).topic, n) ∈ (w.sender i).lines

/-- The queues of agent `i` are empty, and the last batch of each has arrived. -/
def CaughtUp (w : State ι (Fin T) (AgentCommon Bytes) (FanIn Bytes) (Publication Bytes)) (i : ι) :
    Prop :=
  ∀ t, w.inFlight i t = [] ∧ ∀ x, (w.settled i t).getLast? = some x → x.2 = .received

/-- What has been taken out of a drained queue is what was dealt to it. -/
lemma Tracked.settled_deal (h : Tracked S getsizeof args producer root s N acts w log)
    (fleet : Fleet T getsizeof args root s N) {i : ι} {stream : List SendTimeSeriesDruid}
    {batches : List (List SendTimeSeriesDruid)}
    (hsent : Sent S getsizeof (args i) T (s i) stream batches (w.sender i)) {t : Fin T}
    (hempty : w.inFlight i t = []) :
    (w.settled i t).map Prod.fst
      = (deal T (s i) t batches).map fun b => ⟨subtopic root t, S.encodeBatch b⟩ := by
  have hqueue := h.wired.queues i t
  rw [hempty, List.append_nil] at hqueue
  rw [hqueue, ← fleet.topic i, ← filter_numbered, ← hsent.published, fleet.topic i]
  rfl

/-- The last count that a process has read of an agent: that of its last batch on the subtopic, or
of the batch before if the last one has nothing but a late record. -/
lemma Tracked.counter_drained (h : Tracked S getsizeof args producer root s N acts w log)
    (fleet : Fleet T getsizeof args root s N) (hexact : CountersExact w) {i : ι}
    {readings : List SwitchReading} {batches : List (List SendTimeSeriesDruid)}
    (hsent : Sent S getsizeof (args i) T (s i) (stampedStream (args i).uuid T (N i) readings)
      batches (w.sender i)) (hcaught : CaughtUp w i) (t : Fin T) :
    (publishedOn T (s i) t batches.length = 0 ∧
      (w.receiver t).myMQTTtopicCounterPerUUID.get? (args i).uuid = none) ∨
    ∃ j k, ∃ hk : k < batches.length, k = turn T (s i) t + j * T ∧
      publishedOn T (s i) t batches.length = j + 1 ∧
      (w.receiver t).myMQTTtopicCounterPerUUID.get? (args i).uuid
        = some (if batches[k].length = 1 ∧ lateBatch T (N i) k = true then (j : ℤ) else j + 1) := by
  have hT : 0 < T := Nat.zero_lt_of_lt (fleet.start_lt i)
  obtain ⟨hempty, hlast⟩ := hcaught t
  have hsettled := h.settled_deal fleet hsent hempty
  have hcount : (w.settled i t).length = publishedOn T (s i) t batches.length := by
    have hlen := congrArg List.length hsettled
    rwa [List.length_map, List.length_map, length_deal] at hlen
  have hget := (h.observes fleet hexact t).counters rfl (args i).uuid
  rw [h.countsOf_eq fleet hexact i t] at hget
  rw [hget, ← hcount]
  rcases List.eq_nil_or_concat (w.settled i t) with hnil | ⟨old, x, hold⟩
  · rw [hnil]
    exact Or.inl ⟨rfl, rfl⟩
  · obtain ⟨m, fate⟩ := x
    rw [List.concat_eq_append] at hold
    obtain rfl : fate = .received := hlast (m, fate) (by rw [hold, List.getLast?_concat])
    have hm : (deal T (s i) t batches)[old.length]?.map (fun b =>
        (⟨subtopic root t, S.encodeBatch b⟩ : Publication Bytes)) = some m := by
      rw [← List.getElem?_map, ← hsettled, hold]
      simp
    obtain ⟨b, hb, rfl⟩ := Option.map_eq_some_iff.mp hm
    rw [getElem?_deal hT t.isLt] at hb
    obtain ⟨hk, rfl⟩ := List.getElem?_eq_some_iff.mp hb
    refine Or.inr ⟨old.length, _, hk, rfl, by rw [hold]; simp, ?_⟩
    have hround : (turn T (s i) t + old.length * T) / T = old.length := by
      rw [Nat.add_mul_div_right _ _ hT, Nat.div_eq_of_lt (turn_lt hT _ _), Nat.zero_add]
    have hburst := counts_batch hsent (fleet.fills i) hk (round_le hT hexact hsent hk)
    rw [hround] at hburst
    have hpos : batches[turn T (s i) t + old.length * T].length ≠ 0 := by
      simpa using hsent.nonempty _ (List.getElem_mem hk)
    rw [hold, heard, List.map_append, List.map_singleton, Monitor.received_concat,
      if_pos (by simp), Monitor.lastSeen_append, FanIn.recordsOf_encodeBatch, hburst]
    by_cases hone : batches[turn T (s i) t + old.length * T].length = 1
    · rw [hone]
      simp [Monitor.burst]
    · rw [Monitor.lastSeen_burst _ _ _ (by omega), if_neg fun hlate => hone hlate.1]

/-- **The two reports.**  The agents count their batches, have uuids of their own, publish below one
root and fill a batch with two or more records; no batch counter has passed `2 ^ 24`.  When agent
`i` has reached its limit and everything it sent has been taken out of the queues, the last batch of
each as a delivery, its report and those of the processes agree unless the left-over batch is a
single late record.  Earlier losses make no difference. -/
theorem reports_agree_iff (fleet : Fleet T getsizeof args root s N)
    (acts : List (Action ι (Fin T) SwitchReading))
    (hexact : CountersExact (simulatorRun S getsizeof args producer root s acts)) {i : ι}
    (henable : (args i).mqttBatchCountEnabled = true)
    (hexit : ((simulatorRun S getsizeof args producer root s acts).sender i).exited = true)
    (hcaught : CaughtUp (simulatorRun S getsizeof args producer root s acts) i) :
    ReportsAgree args (simulatorRun S getsizeof args producer root s acts) i
      ↔ ¬ LeftOverLate T (N i) (args i).sendNumberOfMessages.toNat := by
  obtain ⟨log, h⟩ := tracked_run S producer fleet acts
  have hT : 0 < T := Nat.zero_lt_of_lt (fleet.start_lt i)
  have hb : 0 < (args i).byteBatchSize :=
    Nat.zero_lt_of_lt ((fleet.fills i).2.2 1 Nat.one_pos (fleet.two_le i))
  have hfollows : Follows S (args i) (Reporting S getsizeof (args i) T (s i))
      (stampedStream (args i).uuid T (N i) (callsOf i acts))
      ((simulatorRun S getsizeof args producer root s acts).sender i) := by
    rw [h.wired.senders i]
    exact follows_simulate_of (accepting_reporting hT hb henable) (fun h => h.counting)
      ⟨⟨batched_start true (fleet.start_lt i), rfl⟩, rfl, rfl⟩ hT (fleet.fills i) (callsOf i acts)
  obtain ⟨batches, hsent⟩ := (hfollows.mono fun h => h.counting.1).sent hb
  have hcounter := h.counter_drained fleet hexact hsent hcaught
  have hsingle : ∀ k, (∃ hk : k < batches.length, batches[k].length = 1) ↔ _ := fun _ =>
    length_left_over hsent hexit (fleet.fills i) (fleet.two_le i)
  have htopic : ∀ t, ((simulatorRun S getsizeof args producer root s acts).receiver t).topic
      = subtopic (args i).topic t := fun t => by
    rw [(h.observes fleet hexact t).topic, fleet.topic i]
    rfl
  have hline := fun {t : Fin T} {n : ℕ} (hn : n ≠ 0) =>
    mem_lines_gone henable hfollows hsent hexit t.isLt hn
  have hidle : ∀ t c, ((args i).uuid,
        ((simulatorRun S getsizeof args producer root s acts).receiver t).topic, c)
        ∈ ((simulatorRun S getsizeof args producer root s acts).receiver t).idleReport ↔
      ((simulatorRun S getsizeof args producer root s acts).receiver
        t).myMQTTtopicCounterPerUUID.get? (args i).uuid = some c := by
    intro t c
    simp [FanIn.idleReport, ← Dict.mem_entries]
  constructor
  · rintro hagree ⟨hmod, hlate⟩
    obtain ⟨hk, hone⟩ := (hsingle _).mpr ⟨hmod, rfl⟩
    have hround := (of_decide_eq_true hlate).2
    have hs := fleet.start_lt i
    have hcount := publishedOn_left_over hsent (fleet.fills i) (fleet.two_le i) hs hk hone hround
    rcases hcounter ⟨s i, hs⟩ with ⟨hzero, -⟩ | ⟨j, k, hk', hkj, hcount', hget⟩
    · rw [hcount] at hzero
      exact absurd hzero (Nat.succ_ne_zero _)
    · -- the process shows `j`, the agent one more
      obtain rfl : j = _ := Nat.succ.inj (hcount'.symm.trans hcount)
      rw [turn_of_mod_eq hT hs (Nat.mod_eq_of_lt hs), Nat.zero_add, Nat.div_mul_cancel hround]
        at hkj
      subst hkj
      rw [if_pos ⟨hone, hlate⟩] at hget
      have hmem := (hagree ⟨s i, hs⟩ _).mpr ⟨_, Nat.succ_ne_zero _, rfl,
        by rw [htopic, hline (Nat.succ_ne_zero _), hcount]⟩
      rw [hidle, hget] at hmem
      have hbad := Option.some.inj hmem
      push_cast at hbad
      omega
  · intro hnot t c
    rw [hidle]
    rcases hcounter t with ⟨hzero, hnone⟩ | ⟨j, k, hk, -, hcount, hget⟩
    · rw [hnone]
      refine ⟨fun hc => absurd hc (by simp), ?_⟩
      rintro ⟨n, hn, -, hmem⟩
      rw [htopic, hline hn] at hmem
      exact absurd (hmem.trans hzero) hn
    · have hintime : ¬ (batches[k].length = 1 ∧ lateBatch T (N i) k = true) := by
        rintro ⟨hone, hlate⟩
        obtain ⟨hmod, rfl⟩ := (hsingle k).mp ⟨hk, hone⟩
        exact hnot ⟨hmod, hlate⟩
      rw [hget, if_neg hintime, Option.some.injEq]
      constructor
      · rintro rfl
        refine ⟨j + 1, Nat.succ_ne_zero j, by push_cast; rfl, ?_⟩
        rw [htopic, hline (Nat.succ_ne_zero j), hcount]
      · rintro ⟨n, hn, rfl, hmem⟩
        rw [htopic, hline hn, hcount] at hmem
        rw [hmem]
        push_cast
        rfl

/-- One subtopic, batches of five, and the first batch lost: the reports agree at a limit of 17
records, and differ at one of 16. -/
theorem reports_agree_seventeen :
    let args : ℤ → Unit → SendArgs := fun limit _ => ⟨"ibswitch", limit, 100, ⟨7⟩, true⟩
    let visit : Action Unit (Fin 1) SwitchReading := .perform () ⟨∅, ⟨600, 0, 0, 18235298⟩, 0⟩
    let acts := List.replicate 9 visit ++ .lose () 0 :: List.replicate 3 (.deliver () 0)
    let final := fun limit => simulatorRun structuralSerializer listSizeof (args limit)
      (fun _ _ => .accepted) "ibswitch" (fun _ => 0) acts
    ReportsAgree (args 17) (final 17) () ∧ ¬ ReportsAgree (args 16) (final 16) () := by
  intro args visit acts final
  have fleet : ∀ limit, Fleet 1 listSizeof (args limit) "ibswitch" (fun _ => 0) fun _ => 5 := by
    intro limit
    have h : Fleet 1 listSizeof _ "ibswitch" (fun _ : Unit => 0) fun _ => 5 :=
      fleet_of_five Nat.one_pos
    exact ⟨h.start_lt, h.fills, h.two_le, h.topic, h.uuid⟩
  have hcaught : ∀ limit, (final limit).inFlight () 0 = [] →
      ((final limit).settled () 0).getLast?.map Prod.snd = some .received →
      CaughtUp (final limit) () := by
    intro limit hempty hlast t
    obtain rfl : t = 0 := Subsingleton.elim _ _
    refine ⟨hempty, fun x hx => ?_⟩
    rw [hx] at hlast
    exact Option.some.inj hlast
  constructor
  · refine (reports_agree_iff (fleet 17) acts ?_ rfl ?_ (hcaught 17 ?_ ?_)).mpr ?_
    · unfold CountersExact
      decide
    · decide
    · decide
    · decide
    · unfold LeftOverLate
      decide
  · refine fun hagree =>
      (reports_agree_iff (fleet 16) acts ?_ rfl ?_ (hcaught 16 ?_ ?_)).mp hagree ?_
    · unfold CountersExact
      decide
    · decide
    · decide
    · decide
    · unfold LeftOverLate
      decide

end KrakenMare
