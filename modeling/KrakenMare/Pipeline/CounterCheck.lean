import KrakenMare.Pipeline.DataPath
import KrakenMare.Simulator.BatchCounter
import Mathlib.Tactic.IntervalCases

/-!
# The batch counter check, end to end

Any number of simulators with the batch counter enabled, FanIn processes with the batch counter
check on, and a network that keeps the order of each agent's batches on a subtopic but may lose
some.  The agents have distinct uuids and batches of at least two records when full, each of its
own length and beginning on a subtopic of its own (`Fleet`), and no counter has left the range in
which an Avro `float` is exact (`CountersExact`).

A simulator stamps a record with the batch counter of the subtopic that is current when the record
is made.  The first record of a batch may have been made before the last flush turned to this
subtopic, and then it carries the count of the subtopic before; on the subtopic that a round begins
with this is one round too early (`lateBatch`).  So the counts in one batch may differ.

* `heard` — what a process has received from one agent: the counts of every settled batch, and
  whether it arrived.  `Tracked.bursts_heard` makes it a sequence of `Lib.Monitor` bursts.
* `Tracked` — the invariant over runs; `Tracked.observes` says that a process has run one monitor
  for each sender, so that the general facts about monitors apply.
* **`no_false_alarm`** — without losses no process prints an `ATTENTION` line.
* **`reports_iff`** — when the batch before was lost, receiving the next one prints an `ATTENTION`
  line unless the loss is `Masked`; **`losses_reported_iff`** says the same of whole runs.
* `reports_of_even` — with an even number of subtopics, or of records in a batch, none is masked.
* `loss_unreported_one_topic` — a loss that is never reported.
-/

namespace KrakenMare

open Lib Network AgentCommon IBswitchSimulator

section
variable {Bytes : Type} (S : MessageSerializer Bytes) (getsizeof : ℕ → ℕ) (args : SendArgs)

lemma publications_simulate (u : UUID) (reading : SwitchReading) (a : AgentCommon Bytes) :
    a.publications <+: (simulate S getsizeof args u reading a).publications := by
  unfold simulate sendSwitch
  cases recordList u reading a with
  | none => exact List.prefix_refl _
  | some l => exact publications_send S getsizeof args a l

end

variable {Bytes ι : Type} [DecidableEq ι] {T : ℕ} (S : MessageSerializer Bytes)
  (getsizeof : ℕ → ℕ) (args : ι → SendArgs) (producer : Fin T → ℕ → ProduceOutcome) (root : String)
  (s : ι → ℕ)

/-- Simulators `ι`, each with its own arguments and uuid; a call is the visit of one switch. -/
def simulatorPath : Network.Spec ι (Fin T) SwitchReading (AgentCommon Bytes) (FanIn Bytes)
    (Publication Bytes) :=
  dataPath S producer root
    (fun i reading a => simulate S getsizeof (args i) (args i).uuid reading a)
    fun i reading a => publications_simulate S getsizeof (args i) (args i).uuid reading a

/-- The state reached from the start, FanIn being run with `--batching` and
`--enableMQTTbatchesCounter`. -/
def simulatorRun (acts : List (Action ι (Fin T) SwitchReading)) :
    State ι (Fin T) (AgentCommon Bytes) (FanIn Bytes) (Publication Bytes) :=
  run (simulatorPath S getsizeof args producer root)
    (State.start (fun i => AgentCommon.start true T (s i)) (fanIns T root true true false)) acts

/-- The agents of a run: where they start, how long a full batch is, who they are. -/
structure Fleet (T : ℕ) (getsizeof : ℕ → ℕ) (args : ι → SendArgs) (root : String) (s N : ι → ℕ) :
    Prop where
  start_lt : ∀ i, s i < T
  fills : ∀ i, Fills getsizeof (args i) (N i)
  two_le : ∀ i, 2 ≤ N i
  topic : ∀ i, (args i).topic = root
  uuid : ∀ i j, (args i).uuid = (args j).uuid → i = j

/-- No batch counter has left the range an Avro `float` carries exactly. -/
def CountersExact (w : State ι (Fin T) (AgentCommon Bytes) (FanIn Bytes) (Publication Bytes)) :
    Prop :=
  ∀ i, ∀ c ∈ (w.sender i).myBatchCounter, c ≤ 2 ^ 24

/-! ## What a process hears from one agent -/

/-- The counts of the settled batches of an agent on a subtopic, and whether they arrived. -/
def heard (u : UUID) (l : List (Publication Bytes × Fate)) : List (List ℤ × Bool) :=
  l.map fun x => (FanIn.countsOf u (FanIn.recordsOf S x.1), x.2 = .received)

variable {S getsizeof args producer root s} {N : ι → ℕ}

lemma received_heard (u : UUID) (l : List (Publication Bytes × Fate)) :
    Monitor.received (heard S u l)
      = FanIn.countsOf u ((delivered l).flatMap (FanIn.recordsOf S)) := by
  induction l using List.reverseRecOn with
  | nil => rfl
  | append_singleton l x ih =>
      obtain ⟨m, fate⟩ := x
      have hheard : heard S u (l ++ [(m, fate)]) = heard S u l
          ++ [(FanIn.countsOf u (FanIn.recordsOf S m), decide (fate = .received))] := by
        simp [heard]
      rw [hheard, Monitor.received_concat, ih]
      cases fate <;> simp [delivered, FanIn.countsOf]

/-- Only the records of the agent with uuid `u` count for `u`. -/
lemma countsOf_log (uuid : ι → UUID) (huuid : ∀ i j, uuid i = uuid j → i = j) (i : ι)
    (l : List (ι × Publication Bytes))
    (hl : ∀ x ∈ l, ∀ r ∈ FanIn.recordsOf S x.2, r.sensorUuid = uuid x.1) :
    FanIn.countsOf (uuid i) ((l.map Prod.snd).flatMap (FanIn.recordsOf S))
      = FanIn.countsOf (uuid i)
        (((l.filter fun x => x.1 = i).map Prod.snd).flatMap (FanIn.recordsOf S)) := by
  induction l with
  | nil => rfl
  | cons x l ih =>
      have ih' := ih fun y hy => hl y (List.mem_cons_of_mem x hy)
      have hx := hl x List.mem_cons_self
      rw [List.map_cons, List.flatMap_cons, FanIn.countsOf_append, ih']
      by_cases hi : x.1 = i
      · simp [hi, FanIn.countsOf_append]
      · have hnone : FanIn.countsOf (uuid i) (FanIn.recordsOf S x.2) = [] := by
          refine List.filterMap_eq_nil_iff.mpr fun r hr => ?_
          rw [hx r hr, if_neg fun h => hi (huuid _ _ h)]
        simp [hi, hnone]

/-! ## Every reachable state -/

/-- `Lib.Network.Wired`, with every sender's stream being that of a simulator. -/
structure Tracked (S : MessageSerializer Bytes) (getsizeof : ℕ → ℕ) (args : ι → SendArgs)
    (producer : Fin T → ℕ → ProduceOutcome) (root : String) (s N : ι → ℕ)
    (acts : List (Action ι (Fin T) SwitchReading))
    (w : State ι (Fin T) (AgentCommon Bytes) (FanIn Bytes) (Publication Bytes))
    (log : Fin T → List (ι × Publication Bytes)) : Prop where
  wired : Wired (simulatorPath S getsizeof args producer root)
    (fun i => AgentCommon.start true T (s i)) (fanIns T root true true false) acts w log
  sent : ∀ i, ∃ readings batches, Sent S getsizeof (args i) T (s i)
    (stampedStream (args i).uuid T (N i) readings) batches (w.sender i)

variable (S producer) in
/-- **Every run** is tracked: the network is wired, and every sender has the stream of a
simulator. -/
lemma tracked_run (fleet : Fleet T getsizeof args root s N)
    (acts : List (Action ι (Fin T) SwitchReading)) :
    ∃ log, Tracked S getsizeof args producer root s N acts
      (simulatorRun S getsizeof args producer root s acts) log := by
  obtain ⟨log, hw⟩ := wired_run (N := simulatorPath S getsizeof args producer root)
    (a := fun i => AgentCommon.start true T (s i)) (b := fanIns T root true true false)
    (fun _ => rfl) acts
  refine ⟨log, hw, fun i => ?_⟩
  have hb : 0 < (args i).byteBatchSize :=
    Nat.zero_lt_of_lt ((fleet.fills i).2.2 1 Nat.one_pos (fleet.two_le i))
  have hfollows : Follows S (args i) _
      (stampedStream (args i).uuid T (N i) (callsOf i acts)) _ := follows_simulate
    (Nat.zero_lt_of_lt (fleet.start_lt i)) (fleet.start_lt i) hb (fleet.fills i) (callsOf i acts)
  obtain ⟨batches, hsent⟩ := (hfollows.mono fun h => h.1).sent hb
  have hagent : (simulatorRun S getsizeof args producer root s acts).sender i = _ := hw.senders i
  rw [hagent]
  exact ⟨_, batches, hsent⟩

variable {acts : List (Action ι (Fin T) SwitchReading)}
  {w : State ι (Fin T) (AgentCommon Bytes) (FanIn Bytes) (Publication Bytes)}
  {log : Fin T → List (ι × Publication Bytes)}

omit [DecidableEq ι] in
/-- The counter of the subtopic whose turn it is bounds the round of every batch. -/
lemma round_le {i : ι} {stream : List SendTimeSeriesDruid}
    {batches : List (List SendTimeSeriesDruid)} (hT : 0 < T) (hexact : CountersExact w)
    (hsent : Sent S getsizeof (args i) T (s i) stream batches (w.sender i)) {k : ℕ}
    (hk : k < batches.length) : k / T + 1 ≤ 2 ^ 24 := by
  have hmem : 1 + publishedOn T (s i) ((s i + batches.length) % T) batches.length
      ∈ (w.sender i).myBatchCounter := by
    rw [hsent.counters]
    exact List.mem_map_of_mem (List.mem_range.mpr (Nat.mod_lt _ hT))
  have hle := hexact i _ hmem
  rw [publishedOn_current hT] at hle
  have hmono : k / T ≤ batches.length / T := Nat.div_le_div_right hk.le
  omega

/-- The messages of an agent are batches of readable records under its own uuid. -/
lemma Tracked.messages (h : Tracked S getsizeof args producer root s N acts w log)
    (fleet : Fleet T getsizeof args root s N) (hexact : CountersExact w) (i : ι) :
    ∀ m ∈ (w.sender i).publications, FanIn.BatchOn S m.topic m ∧
      ∀ r ∈ FanIn.recordsOf S m, r.sensorUuid = (args i).uuid ∧ r.sensorValue.int?.isSome := by
  intro m hm
  obtain ⟨readings, batches, hsent⟩ := h.sent i
  rw [hsent.published] at hm
  obtain ⟨x, hx, rfl⟩ := List.mem_map.mp hm
  refine ⟨⟨x.1, rfl⟩, fun r hr => ?_⟩
  rw [FanIn.recordsOf_encodeBatch] at hr
  obtain ⟨r', hr', rfl⟩ := List.mem_map.mp hr
  obtain ⟨hlt, hb⟩ := List.mem_zipIdx' hx
  rw [hb] at hr'
  obtain ⟨k, hk, rfl⟩ := List.mem_iff_getElem.mp hr'
  obtain ⟨hu, hv⟩ := carried_batch hsent (fleet.fills i) hlt hk
    (round_le (Nat.zero_lt_of_lt (fleet.start_lt i)) hexact hsent hlt)
  exact ⟨hu, by rw [hv]; rfl⟩

/-- What a process has heard and will hear from an agent is a sequence of bursts. -/
lemma Tracked.bursts_heard (h : Tracked S getsizeof args producer root s N acts w log)
    (fleet : Fleet T getsizeof args root s N) (hexact : CountersExact w) (i : ι) (t : Fin T) :
    Monitor.Bursts (lateOn T (N i) (s i) t)
      ((heard S (args i).uuid (w.settled i t)).map Prod.fst
        ++ (w.inFlight i t).map fun m => FanIn.countsOf (args i).uuid (FanIn.recordsOf S m)) := by
  obtain ⟨readings, batches, hsent⟩ := h.sent i
  have hbursts := bursts_deal (S := S) hsent (fleet.fills i) (fleet.two_le i) (fleet.start_lt i)
    t.isLt fun k hk => round_le (Nat.zero_lt_of_lt (fleet.start_lt i)) hexact hsent hk
  have hqueue : (w.settled i t).map Prod.fst ++ w.inFlight i t
      = (deal T (s i) t batches).map fun b => ⟨subtopic root t, S.encodeBatch b⟩ := by
    have := h.wired.queues i t
    rw [← fleet.topic i, ← filter_numbered, ← hsent.published, fleet.topic i]
    exact this
  have hcounts : (heard S (args i).uuid (w.settled i t)).map Prod.fst
      ++ (w.inFlight i t).map (fun m => FanIn.countsOf (args i).uuid (FanIn.recordsOf S m))
      = (deal T (s i) t batches).map fun b => FanIn.countsOf (args i).uuid (b.map S.carried) := by
    have := congrArg (List.map fun m => FanIn.countsOf (args i).uuid (FanIn.recordsOf S m)) hqueue
    simpa [heard, Function.comp_def, FanIn.recordsOf_encodeBatch] using this
  rwa [hcounts]

/-- A process has run one monitor for each sender. -/
lemma Tracked.observes (h : Tracked S getsizeof args producer root s N acts w log)
    (fleet : Fleet T getsizeof args root s N) (hexact : CountersExact w) (t : Fin T) :
    FanIn.Observes S (fanIns T root true true false t) (w.receiver t)
      (((log t).map Prod.snd).flatMap (FanIn.recordsOf S)) :=
  receiver_observes h.wired (fun i m hm => (h.messages fleet hexact i m hm).1)
    (fun _ i m hm r hr => ((h.messages fleet hexact i m hm).2 r hr).2) t

/-- The counts of agent `i` among all a process has received are those it heard from `i`. -/
lemma Tracked.countsOf_eq (h : Tracked S getsizeof args producer root s N acts w log)
    (fleet : Fleet T getsizeof args root s N) (hexact : CountersExact w) (i : ι) (t : Fin T) :
    FanIn.countsOf (args i).uuid (((log t).map Prod.snd).flatMap (FanIn.recordsOf S))
      = Monitor.received (heard S (args i).uuid (w.settled i t)) := by
  rw [received_heard, ← h.wired.logs i t]
  exact countsOf_log (fun i => (args i).uuid) fleet.uuid i (log t) fun x hx r hr =>
    ((h.messages fleet hexact x.1 x.2 (h.wired.mem_log hx).1).2 r hr).1

/-! ## No false alarm -/

/-- **No false alarm.**  If the network loses nothing, no process ever prints an `ATTENTION`
line. -/
theorem no_false_alarm (fleet : Fleet T getsizeof args root s N)
    (acts : List (Action ι (Fin T) SwitchReading)) (hlossless : Lossless acts)
    (hexact : CountersExact (simulatorRun S getsizeof args producer root s acts)) (t : Fin T)
    (u : UUID) (topic : String) (missing : ℤ) :
    .attention u topic missing ∉
      ((simulatorRun S getsizeof args producer root s acts).receiver t).effects := by
  obtain ⟨log, h⟩ := tracked_run S producer fleet acts
  have hobs := h.observes fleet hexact t
  have hquiet : ((simulatorRun S getsizeof args producer root s acts).receiver t).attentionsFor u
      = [] := by
    rw [hobs.attentions rfl u]
    suffices hnone : Monitor.alarms none (FanIn.countsOf u
        (((log t).map Prod.snd).flatMap (FanIn.recordsOf S))) = [] by
      show [] ++ (Monitor.alarms none _).map _ = []
      rw [hnone]
      rfl
    by_cases hu : ∃ i, u = (args i).uuid
    · obtain ⟨i, rfl⟩ := hu
      rw [h.countsOf_eq fleet hexact i t]
      refine Monitor.alarms_received_of_all (by simp [lateOn]) _
        (h.bursts_heard fleet hexact i t).of_append ?_
      intro x hx
      obtain ⟨y, hy, rfl⟩ := List.mem_map.mp hx
      exact decide_eq_true (h.wired.lossless hlossless i t y hy)
    · -- no agent has this uuid, so no record counts for it
      have hnil : FanIn.countsOf u (((log t).map Prod.snd).flatMap (FanIn.recordsOf S)) = [] := by
        refine List.filterMap_eq_nil_iff.mpr fun r hr => ?_
        obtain ⟨m, hm, hr⟩ := List.mem_flatMap.mp hr
        obtain ⟨x, hx, rfl⟩ := List.mem_map.mp hm
        have hr' := ((h.messages fleet hexact x.1 x.2 (h.wired.mem_log hx).1).2 r hr).1
        rw [if_neg fun heq => hu ⟨x.1, heq.symm.trans hr'⟩]
      rw [hnil]
      rfl
  intro hmem
  have : FanInEffect.attention u topic missing ∈
      ((simulatorRun S getsizeof args producer root s acts).receiver t).attentionsFor u :=
    List.mem_filter.mpr ⟨hmem, by simp [FanInEffect.attentionFor]⟩
  rw [hquiet] at this
  exact absurd this List.not_mem_nil

/-- One agent without a limit whose batches hold five records. -/
lemma fleet_of_five {T s : ℕ} (hs : s < T) :
    Fleet T listSizeof (fun _ : Unit => ⟨"ibswitch", -1, 100, ⟨7⟩, true⟩) "ibswitch" (fun _ => s)
      fun _ => 5 := by
  refine ⟨fun _ => hs, fun _ => ⟨by decide, by decide, fun j h0 hj => ?_⟩, by simp, fun _ => rfl,
    fun _ _ _ => rfl⟩
  interval_cases j <;> decide

/-- One agent with batches of five on two subtopics, starting on the second one, so that the first
round begins there. -/
theorem no_false_alarm_two_topics :
    let args : Unit → SendArgs := fun _ => ⟨"ibswitch", -1, 100, ⟨7⟩, true⟩
    let visit : Action Unit (Fin 2) SwitchReading := .perform () ⟨∅, ⟨600, 0, 0, 18235298⟩, 0⟩
    let acts := List.replicate 8 visit ++ [.deliver () 1, .deliver () 0, .deliver () 1]
    ∀ t u topic missing, .attention u topic missing ∉ ((simulatorRun structuralSerializer listSizeof
      args (fun _ _ => .accepted) "ibswitch" (fun _ => 1) acts).receiver t).effects := by
  intro args visit acts t u topic missing
  have fleet : Fleet 2 listSizeof args "ibswitch" (fun _ => 1) fun _ => 5 :=
    fleet_of_five (by decide)
  refine no_false_alarm fleet acts ?_ ?_ t u topic missing
  · simp [acts, visit, Lossless]
  · unfold CountersExact
    decide

/-! ## Losses -/

variable (S getsizeof args producer root s) in
/-- Delivering the oldest message in flight from agent `i` makes process `t` print an `ATTENTION`
line for `i`. -/
def Reports (w : State ι (Fin T) (AgentCommon Bytes) (FanIn Bytes) (Publication Bytes)) (i : ι)
    (t : Fin T) : Prop :=
  ((step (simulatorPath S getsizeof args producer root) w (.deliver i t)).receiver t).attentionsFor
    (args i).uuid ≠ (w.receiver t).attentionsFor (args i).uuid

/-- A batch of agent `i` for process `t` is in flight, and the one before it was lost. -/
def AfterLoss (w : State ι (Fin T) (AgentCommon Bytes) (FanIn Bytes) (Publication Bytes)) (i : ι)
    (t : Fin T) : Prop :=
  w.inFlight i t ≠ [] ∧ (w.settled i t).getLast?.map Prod.snd = some .lost

/-- The loss does not show in the counts: `T` and `N` are odd, the subtopic is the one the agent
started with, the batch in flight has an odd number there, and of the batches before it only the
last one was lost since the first or since the last that arrived. -/
def Masked (T N s : ℕ)
    (w : State ι (Fin T) (AgentCommon Bytes) (FanIn Bytes) (Publication Bytes)) (i : ι)
    (t : Fin T) : Prop :=
  T % 2 = 1 ∧ N % 2 = 1 ∧ (t : ℕ) = s ∧ (w.settled i t).length % 2 = 1 ∧
    ∀ x, (w.settled i t).dropLast.getLast? = some x → x.2 = .received

lemma lateOn_iff (T N s t j : ℕ) :
    lateOn T N s t j = true ↔ t = s ∧ j % 2 = 1 ∧ T % 2 = 1 ∧ N % 2 = 1 := by
  rw [lateOn, decide_eq_true_iff, ← Nat.odd_iff, ← Nat.odd_iff, ← Nat.odd_iff, ← Nat.odd_iff,
    Nat.odd_mul, Nat.odd_mul, and_assoc]

/-- What delivering a message adds to the `ATTENTION` lines for agent `k`. -/
lemma attentionsFor_deliver {log : Fin T → List (ι × Publication Bytes)}
    (h : Tracked S getsizeof args producer root s N acts w log)
    (fleet : Fleet T getsizeof args root s N) (hexact : CountersExact w) {i k : ι} {t : Fin T}
    {m : Publication Bytes} {ms : List (Publication Bytes)} (hq : w.inFlight i t = m :: ms) :
    ((step (simulatorPath S getsizeof args producer root) w (.deliver i t)).receiver
        t).attentionsFor (args k).uuid
      = (w.receiver t).attentionsFor (args k).uuid
        ++ (Monitor.alarms (Monitor.lastSeen none
            (Monitor.received (heard S (args k).uuid (w.settled k t))))
          (FanIn.countsOf (args k).uuid (FanIn.recordsOf S m))).map
          (.attention (args k).uuid (w.receiver t).topic) := by
  have hobs := h.observes fleet hexact t
  have hsent : m ∈ (w.sender i).publications ∧ m.topic = subtopic root t := by
    obtain ⟨hpub, htopic⟩ := h.wired.mem_inFlight (hq ▸ List.mem_cons_self)
    exact ⟨hpub, of_decide_eq_true htopic⟩
  obtain ⟨⟨rs, hrs⟩, hread⟩ := h.messages fleet hexact i m hsent.1
  have hm : m = ⟨(w.receiver t).topic, S.encodeBatch rs⟩ := by
    rw [hobs.topic]
    rw [hsent.2] at hrs
    exact hrs
  have hstep : (step (simulatorPath S getsizeof args producer root) w (.deliver i t)).receiver t
      = FanIn.mqttOnMessage S (producer t) m (w.receiver t) := by
    simp [step, settle, hq, simulatorPath, dataPath]
  have hmode : FanIn.DecodeMode (w.receiver t) := ⟨hobs.batching, hobs.passthrough⟩
  have hrec : FanIn.recordsOf S m = rs.map S.carried := by
    rw [hrs]
    exact FanIn.recordsOf_encodeBatch _ _
  have hcountable : FanIn.Countable (w.receiver t) (rs.map S.carried) :=
    fun _ r hr => (hread r (hrec ▸ hr)).2
  have hone := FanIn.observes_mqttOnMessage (producer t) hmode hcountable
  rw [← hm, ← hstep, ← hrec] at hone
  have hlast := hobs.counters rfl (args k).uuid
  rw [h.countsOf_eq fleet hexact k t] at hlast
  rw [hone.attentions hobs.batchCount, hlast]
  rfl

/-- **Which losses are reported.**  A batch is in flight and the one before it was lost: delivering
it makes the process print an `ATTENTION` line exactly if the loss is not masked. -/
theorem reports_iff (fleet : Fleet T getsizeof args root s N)
    (acts : List (Action ι (Fin T) SwitchReading))
    (hexact : CountersExact (simulatorRun S getsizeof args producer root s acts)) {i : ι}
    {t : Fin T} (hloss : AfterLoss (simulatorRun S getsizeof args producer root s acts) i t) :
    Reports S getsizeof args producer root
        (simulatorRun S getsizeof args producer root s acts) i t
      ↔ ¬ Masked T (N i) (s i) (simulatorRun S getsizeof args producer root s acts) i t := by
  obtain ⟨log, h⟩ := tracked_run S producer fleet acts
  obtain ⟨hflight, hlost⟩ := hloss
  obtain ⟨⟨m₀, _⟩, hlast, rfl⟩ := Option.map_eq_some_iff.mp hlost
  obtain ⟨m, ms, hq⟩ := List.exists_cons_of_ne_nil hflight
  obtain ⟨old, hold⟩ := List.getLast?_eq_some_iff.mp hlast
  have hheard : heard S (args i).uuid (old ++ [(m₀, .lost)]) = heard S (args i).uuid old
      ++ [(FanIn.countsOf (args i).uuid (FanIn.recordsOf S m₀), false)] := by
    simp [heard]
  have hbursts := h.bursts_heard fleet hexact i t
  rw [hq, hold, hheard, List.map_cons] at hbursts
  have hkey := Monitor.alarms_after_loss_iff hbursts
  have hnew : Reports S getsizeof args producer root
        (simulatorRun S getsizeof args producer root s acts) i t
      ↔ Monitor.alarms (Monitor.lastSeen none (Monitor.received (heard S (args i).uuid old
          ++ [(FanIn.countsOf (args i).uuid (FanIn.recordsOf S m₀), false)])))
        (FanIn.countsOf (args i).uuid (FanIn.recordsOf S m)) ≠ [] := by
    rw [Reports, attentionsFor_deliver h fleet hexact hq, hold, hheard]
    simp
  rw [hnew, hkey, lateOn_iff, Masked, hold]
  have hlen : (heard S (args i).uuid old).length + 1 = (old ++ [(m₀, Fate.lost)]).length := by
    simp [heard]
  have hprev : (∀ x, (heard S (args i).uuid old).getLast? = some x → x.2 = true)
      ↔ ∀ x, old.getLast? = some x → x.2 = .received := by
    simp only [heard, List.getLast?_map, Option.map_eq_some_iff]
    constructor
    · intro hx x hget
      exact of_decide_eq_true (hx _ ⟨x, hget, rfl⟩)
    · rintro hx _ ⟨x, hget, rfl⟩
      exact decide_eq_true (hx x hget)
  rw [hlen, hprev, List.dropLast_concat]
  refine not_congr ⟨?_, ?_⟩
  · rintro ⟨⟨ht, hodd, hT, hN⟩, hlast⟩
    exact ⟨hT, hN, ht, hodd, hlast⟩
  · rintro ⟨hT, hN, ht, hodd, hlast⟩
    exact ⟨⟨ht, hodd, hT, hN⟩, hlast⟩

/-- With an even number of subtopics, as `entrypoint.sh` sets it, or of records in a batch, no loss
can be masked. -/
theorem reports_of_even (fleet : Fleet T getsizeof args root s N)
    (acts : List (Action ι (Fin T) SwitchReading))
    (hexact : CountersExact (simulatorRun S getsizeof args producer root s acts)) {i : ι}
    {t : Fin T} (hloss : AfterLoss (simulatorRun S getsizeof args producer root s acts) i t)
    (heven : T % 2 = 0 ∨ N i % 2 = 0) :
    Reports S getsizeof args producer root
      (simulatorRun S getsizeof args producer root s acts) i t := by
  refine (reports_iff fleet acts hexact hloss).mpr fun hmasked => ?_
  rcases heven with hT | hN
  · exact absurd hmasked.1 (by omega)
  · exact absurd hmasked.2.1 (by omega)

variable (S getsizeof args producer root s) in
/-- Whenever a loss is followed by a batch that arrives, it is reported when that batch is
handled. -/
def LossesReported (acts : List (Action ι (Fin T) SwitchReading)) : Prop :=
  ∀ pre i t, pre ++ [.deliver i t] <+: acts →
    AfterLoss (simulatorRun S getsizeof args producer root s pre) i t →
    Reports S getsizeof args producer root (simulatorRun S getsizeof args producer root s pre) i t

variable (S getsizeof args producer root s) in
/-- Whenever a loss is followed by a batch that arrives, the counts show it. -/
def NoLossMasked (N : ι → ℕ) (acts : List (Action ι (Fin T) SwitchReading)) : Prop :=
  ∀ pre i t, pre ++ [.deliver i t] <+: acts →
    AfterLoss (simulatorRun S getsizeof args producer root s pre) i t →
    ¬ Masked T (N i) (s i) (simulatorRun S getsizeof args producer root s pre) i t

/-- **The losses of a run** are all reported exactly when none of them is masked, at the delivery
that could have shown it. -/
theorem losses_reported_iff (fleet : Fleet T getsizeof args root s N)
    (acts : List (Action ι (Fin T) SwitchReading))
    (hexact : ∀ pre, pre <+: acts →
      CountersExact (simulatorRun S getsizeof args producer root s pre)) :
    LossesReported S getsizeof args producer root s acts
      ↔ NoLossMasked S getsizeof args producer root s N acts := by
  have hstep : ∀ pre i t, pre ++ [.deliver i t] <+: acts →
      CountersExact (simulatorRun S getsizeof args producer root s pre) := fun pre i t h =>
    hexact pre ((List.prefix_append _ _).trans h)
  constructor
  · intro h pre i t hpre hloss
    exact (reports_iff fleet pre (hstep pre i t hpre) hloss).mp (h pre i t hpre hloss)
  · intro h pre i t hpre hloss
    exact (reports_iff fleet pre (hstep pre i t hpre) hloss).mpr (h pre i t hpre hloss)

/-- One agent with batches of five on two subtopics: the loss of the first batch is reported when
the third one arrives. -/
theorem losses_reported_two_topics :
    let args : Unit → SendArgs := fun _ => ⟨"ibswitch", -1, 100, ⟨7⟩, true⟩
    let visit : Action Unit (Fin 2) SwitchReading := .perform () ⟨∅, ⟨600, 0, 0, 18235298⟩, 0⟩
    let acts := List.replicate 8 visit ++ [.lose () 0, .deliver () 1, .deliver () 0]
    LossesReported structuralSerializer listSizeof args (fun _ _ => .accepted) "ibswitch"
      (fun _ => 0) acts := by
  intro args visit acts
  have fleet : Fleet 2 listSizeof args "ibswitch" (fun _ => 0) fun _ => 5 :=
    fleet_of_five (by decide)
  have hexact : ∀ pre ∈ acts.inits, CountersExact (simulatorRun structuralSerializer listSizeof args
      (fun _ _ => .accepted) "ibswitch" (fun _ => 0) pre) := by
    unfold CountersExact
    decide
  refine (losses_reported_iff fleet acts fun pre hpre => hexact pre ?_).mpr ?_
  · exact (List.mem_inits pre acts).mpr hpre
  · exact fun pre i t _ _ hmasked => absurd hmasked.1 (by decide)

/-- One subtopic and batches of five: the first batch is lost and the second one handled, and no
`ATTENTION` line is ever printed. -/
theorem loss_unreported_one_topic :
    let args : Unit → SendArgs := fun _ => ⟨"ibswitch", -1, 100, ⟨7⟩, true⟩
    let visit : Action Unit (Fin 1) SwitchReading := .perform () ⟨∅, ⟨600, 0, 0, 18235298⟩, 0⟩
    let acts := List.replicate 5 visit ++ [.lose () 0, .deliver () 0]
    Fleet 1 listSizeof args "ibswitch" (fun _ => 0) (fun _ => 5) ∧
      (∀ pre ∈ acts.inits, CountersExact (simulatorRun structuralSerializer listSizeof args
        (fun _ _ => .accepted) "ibswitch" (fun _ => 0) pre)) ∧
      ((simulatorRun structuralSerializer listSizeof args (fun _ _ => .accepted) "ibswitch"
        (fun _ => 0) acts).receiver 0).attentionsFor ⟨7⟩ = [] ∧
      ¬ LossesReported structuralSerializer listSizeof args (fun _ _ => .accepted) "ibswitch"
        (fun _ => 0) acts := by
  intro args visit acts
  refine ⟨fleet_of_five (by decide), ?_, ?_, ?_⟩
  · unfold CountersExact
    decide
  · decide
  · intro h
    have hreport := h (List.replicate 5 visit ++ [.lose () 0]) () 0 (by simp [acts])
    rw [AfterLoss, Reports] at hreport
    exact absurd (hreport (by decide)) (by decide)

end KrakenMare
