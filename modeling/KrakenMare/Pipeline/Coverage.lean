import KrakenMare.FanIn.Main
import KrakenMare.Pipeline.Conservation
import Mathlib.Algebra.Order.BigOperators.Group.Finset
import Mathlib.Data.Multiset.OrderedMonoid

/-!
# The topics of the two sides

The agents deal their batches to as many subtopics as their own `--numberOfTopic` says, each agent
to its own number, and `main` of FanIn starts processes for as many as its own option says.
Nothing makes the numbers agree.  A batch on a subtopic without a process is delivered to nobody.

FanIn is run with `--batching` and without `--mqttPassthrough`; without `--batching` its handler
raises at every message (`Pipeline.Unbatched`), and Kafka gets nothing from any subtopic.  If the
batch counter check is on, the values are taken to be ones that `int` can read.

* `Publishers` — agents that batch and publish below one root, each with a number of subtopics and
  a first one of its own.
* `coveredRecords`, `uncoveredRecords` — the records of the batches that an agent has put on
  subtopics with a process, and without.
* `produced_eq_sum` — in a lossless run with nothing in flight a process has handed over the
  records of its subtopic, those of all agents.
* `covering_run` — together they have the records of the batches on the subtopics that have a
  process.
* **`topics_covered`** — with the processes of `main`: nothing is missing when no agent has more
  subtopics than there are processes, and otherwise only as long as no agent has come to one
  without.

Records are counted with their multiplicity and without an order, since the processes share one
topic in Kafka.
-/

namespace KrakenMare

open Lib Network AgentCommon

/-- The batches that an agent has put on subtopics below `n`, as records for Kafka. -/
def coveredRecords {Bytes : Type} (S : MessageSerializer Bytes) (T s n : ℕ)
    (batches : List (List SendTimeSeriesDruid)) : List Bytes :=
  (batches.zipIdx.filter fun x => (s + x.2) % T < n).flatMap fun x => x.1.map S.encodeRecord

section
variable {Bytes ι : Type} {n : ℕ}

/-- Agents that batch, each with its own arguments; a call is one `record_list`. -/
def agentsPath (S : MessageSerializer Bytes) (getsizeof : ℕ → ℕ) (args : ι → SendArgs)
    (producer : Fin n → ℕ → ProduceOutcome) (root : String) :
    Network.Spec ι (Fin n) (List SendTimeSeriesDruid) (AgentCommon Bytes) (FanIn Bytes)
      (Publication Bytes) :=
  dataPath S producer root (fun i l a => a.send S getsizeof (args i) l)
    fun i l a => publications_send S getsizeof (args i) a l

/-- Agents that publish below one root, agent `i` on `T i` subtopics, beginning with `s i`. -/
structure Publishers (args : ι → SendArgs) (root : String) (T s : ι → ℕ) : Prop where
  start_lt : ∀ i, s i < T i
  batching : ∀ i, 0 < (args i).byteBatchSize
  topic : ∀ i, (args i).topic = root

variable [DecidableEq ι] {S : MessageSerializer Bytes} {getsizeof : ℕ → ℕ} {args : ι → SendArgs}
  {producer : Fin n → ℕ → ProduceOutcome} {root : String} {T s : ι → ℕ} {enable mqttcounter : Bool}
  {acts : List (Action ι (Fin n) (List SendTimeSeriesDruid))}
  {w : State ι (Fin n) (AgentCommon Bytes) (FanIn Bytes) (Publication Bytes)}
  {log : Fin n → List (ι × Publication Bytes)}

/-- The records that process `t` has handed to Kafka, agent by agent. -/
lemma produced_eq_sum [Fintype ι]
    (hw : Wired (agentsPath S getsizeof args producer root)
      (fun i => AgentCommon.start enable (T i) (s i)) (fanIns n root true mqttcounter false) acts w
      log) (hagents : Publishers args root T s) {batches : ι → List (List SendTimeSeriesDruid)}
    (hsent : ∀ i, (w.sender i).publications = numbered S (args i) (T i) (s i) (batches i))
    (hcount : mqttcounter = true → ∀ i, ∀ b ∈ batches i, ∀ r ∈ b,
      (S.carried r).sensorValue.int?.isSome)
    (hlossless : Lossless acts) (hempty : ∀ i t, w.inFlight i t = []) (t : Fin n) :
    ((w.receiver t).produced : Multiset Bytes) = ∑ i,
      (((deal (T i) (s i) t (batches i)).flatten.map S.encodeRecord : List Bytes) :
        Multiset Bytes) := by
  have hnumbered : ∀ i, ∀ m ∈ (w.sender i).publications, FanIn.BatchOn S m.topic m ∧
      ∃ b ∈ batches i, FanIn.recordsOf S m = b.map S.carried := fun i m hm =>
    recordsOf_numbered (hsent i ▸ hm)
  have hobs := receiver_observes hw (fun i m hm => (hnumbered i m hm).1) (by
    intro hmode i m hm r hr
    obtain ⟨b, hb, heq⟩ := (hnumbered i m hm).2
    obtain ⟨r', hr', rfl⟩ := List.mem_map.mp (heq ▸ hr)
    exact hcount hmode i b hb r' hr') t
  have hproduced : (w.receiver t).produced
      = (log t).flatMap fun x => (FanIn.recordsOf S x.2).map S.encodeRecord := by
    rw [hobs.produced, List.flatMap_map, List.map_flatMap]
    rfl
  have hkey := sum_flatMap_key (fun x : ι × Publication Bytes => some x.1)
    (fun x => (FanIn.recordsOf S x.2).map S.encodeRecord) (log t)
  simp only [Option.isSome_some, List.filter_true, Option.some.injEq] at hkey
  rw [hproduced, ← hkey]
  refine Finset.sum_congr rfl fun i _ => congrArg _ ?_
  have hqueue : (w.settled i t).map Prod.fst
      = (w.sender i).publications.filter fun m => m.topic = subtopic root t := by
    have hall := hw.queues i t
    rw [hempty i t, List.append_nil] at hall
    exact hall
  have hone : ((log t).filter fun x => x.1 = i).map Prod.snd
      = (numbered S (args i) (T i) (s i) (batches i)).filter fun m =>
        m.topic = subtopic (args i).topic t := by
    rw [hw.logs i t, hw.delivered_eq hlossless, hqueue, hsent i, hagents.topic i]
  rw [← @records_of_deal _ _ S (args i), ← hone, List.flatMap_map, List.map_flatMap]

/-! ## What an agent has put where -/

/-- The batches that an agent has put on the subtopics from `n` on, as records. -/
def uncoveredRecords (S : MessageSerializer Bytes) (T s n : ℕ)
    (batches : List (List SendTimeSeriesDruid)) : List Bytes :=
  (batches.zipIdx.filter fun x => n ≤ (s + x.2) % T).flatMap fun x => x.1.map S.encodeRecord

variable (S) in
/-- The records dealt to the subtopics with a process are the covered ones, in another order. -/
lemma sum_deal (T s n : ℕ) (batches : List (List SendTimeSeriesDruid)) :
    ∑ t : Fin n, (((deal T s t batches).flatten.map S.encodeRecord : List Bytes) : Multiset Bytes)
      = (coveredRecords S T s n batches : Multiset Bytes) := by
  let key : List SendTimeSeriesDruid × ℕ → Option (Fin n) := fun x =>
    if hx : (s + x.2) % T < n then some ⟨(s + x.2) % T, hx⟩ else none
  have hkey : ∀ x (t : Fin n), key x = some t ↔ (s + x.2) % T = t := by
    intro x t
    by_cases hx : (s + x.2) % T < n
    · simp [key, hx, Fin.ext_iff]
    · have hne : (s + x.2) % T ≠ t := fun heq => hx (heq ▸ t.isLt)
      simp [key, hx, hne]
  have hsome : ∀ x, (key x).isSome = decide ((s + x.2) % T < n) := by
    intro x
    by_cases hx : (s + x.2) % T < n <;> simp [key, hx]
  have hsum := sum_flatMap_key key (fun x => x.1.map S.encodeRecord) batches.zipIdx
  simp only [hkey, hsome] at hsum
  rw [coveredRecords, ← hsum]
  refine Finset.sum_congr rfl fun t _ => congrArg _ ?_
  rw [deal, List.map_flatten, List.map_map, ← List.flatMap_def]
  rfl

variable (S) in
lemma covered_add_uncovered (T s n : ℕ) (batches : List (List SendTimeSeriesDruid)) :
    (coveredRecords S T s n batches : Multiset Bytes) + uncoveredRecords S T s n batches
      = (batches.flatten.map S.encodeRecord : List Bytes) := by
  have hsplit := List.filter_append_perm (fun x : List SendTimeSeriesDruid × ℕ =>
    decide ((s + x.2) % T < n)) batches.zipIdx
  simp only [← decide_not, not_lt] at hsplit
  have hall := hsplit.flatMap_right fun x => x.1.map S.encodeRecord
  rw [List.flatMap_append, flatMap_zipIdx (List.map S.encodeRecord)] at hall
  rw [Multiset.coe_add, Multiset.coe_eq_coe, List.map_flatten, ← List.flatMap_def]
  exact hall

/-- Nothing is uncovered just when every batch has gone to a subtopic with a process. -/
lemma uncoveredRecords_eq_nil_iff {T s n : ℕ} {batches : List (List SendTimeSeriesDruid)}
    (hnonempty : ∀ b ∈ batches, b ≠ []) :
    uncoveredRecords S T s n batches = [] ↔ ∀ j < batches.length, (s + j) % T < n := by
  rw [uncoveredRecords, List.flatMap_eq_nil_iff]
  constructor
  · intro hnil j hj
    by_contra hlt
    have hmem : (batches[j], j) ∈ batches.zipIdx.filter fun x => n ≤ (s + x.2) % T :=
      List.mem_filter.mpr ⟨List.mk_mem_zipIdx_iff_getElem?.mpr (List.getElem?_eq_getElem hj),
        by simpa using hlt⟩
    exact hnonempty _ (List.getElem_mem hj) (List.map_eq_nil_iff.mp (hnil _ hmem))
  · intro hall x hx
    obtain ⟨hmem, hlt⟩ := List.mem_filter.mp hx
    obtain ⟨hj, -⟩ := List.mem_zipIdx' hmem
    exact absurd (hall x.2 hj) (by simpa using hlt)

/-! ## Every run -/

/-- The state reached from the start by a list of actions, FanIn being run with `--batching`. -/
def agentsRun (S : MessageSerializer Bytes) (getsizeof : ℕ → ℕ) (args : ι → SendArgs)
    (producer : Fin n → ℕ → ProduceOutcome) (root : String) (T s : ι → ℕ)
    (enable mqttcounter : Bool) (acts : List (Action ι (Fin n) (List SendTimeSeriesDruid))) :
    State ι (Fin n) (AgentCommon Bytes) (FanIn Bytes) (Publication Bytes) :=
  run (agentsPath S getsizeof args producer root)
    (State.start (fun i => AgentCommon.start enable (T i) (s i))
      (fanIns n root true mqttcounter false)) acts

/-- All that the processes have handed to Kafka, without an order but with multiplicities. -/
def inKafka (w : State ι (Fin n) (AgentCommon Bytes) (FanIn Bytes) (Publication Bytes)) :
    Multiset Bytes := ∑ t, ((w.receiver t).produced : Multiset Bytes)

/-- All that the agents have published, encoded record by record as Kafka gets it. -/
def published [Fintype ι] (S : MessageSerializer Bytes)
    (batches : ι → List (List SendTimeSeriesDruid)) : Multiset Bytes :=
  ∑ i, (((batches i).flatten.map S.encodeRecord : List Bytes) : Multiset Bytes)

/-- No agent has put a batch on a subtopic without a process. -/
def AllCovered (T s : ι → ℕ) (n : ℕ) (batches : ι → List (List SendTimeSeriesDruid)) : Prop :=
  ∀ i, ∀ j < (batches i).length, (s i + j) % T i < n

omit [DecidableEq ι] in
lemma covered_eq_published_iff [Fintype ι] {batches : ι → List (List SendTimeSeriesDruid)}
    (hnonempty : ∀ i, ∀ b ∈ batches i, b ≠ []) :
    ∑ i, (coveredRecords S (T i) (s i) n (batches i) : Multiset Bytes) = published S batches
      ↔ AllCovered T s n batches := by
  have hall : published S batches
      = ∑ i, (coveredRecords S (T i) (s i) n (batches i) : Multiset Bytes)
        + ∑ i, (uncoveredRecords S (T i) (s i) n (batches i) : Multiset Bytes) := by
    rw [published, ← Finset.sum_add_distrib]
    exact Finset.sum_congr rfl fun i _ => (covered_add_uncovered S (T i) (s i) n (batches i)).symm
  rw [hall, left_eq_add, Finset.sum_eq_zero_iff]
  simp only [Finset.mem_univ, true_implies, Multiset.coe_eq_zero]
  exact forall_congr' fun i => uncoveredRecords_eq_nil_iff (hnonempty i)

omit [DecidableEq ι] in
/-- Once every agent has been round, it is the numbers of topics that count. -/
lemma allCovered_iff_of_round (hagents : Publishers args root T s)
    {batches : ι → List (List SendTimeSeriesDruid)} (hround : ∀ i, T i ≤ (batches i).length) :
    AllCovered T s n batches ↔ ∀ i, T i ≤ n := by
  constructor
  · intro hall i
    have hs := hagents.start_lt i
    have hlast := hall i (T i - 1 - s i) (by have := hround i; omega)
    rw [Nat.add_sub_cancel' (by omega), Nat.mod_eq_of_lt (by omega)] at hlast
    omega
  · intro hle i j _
    exact (Nat.mod_lt _ (Nat.zero_lt_of_lt (hagents.start_lt i))).trans_le (hle i)

/-- What the processes have made of the batches of the agents. -/
structure Covering [Fintype ι] (S : MessageSerializer Bytes) (T s : ι → ℕ)
    (batches : ι → List (List SendTimeSeriesDruid))
    (w : State ι (Fin n) (AgentCommon Bytes) (FanIn Bytes) (Publication Bytes)) : Prop where
  records : inKafka w = ∑ i, (coveredRecords S (T i) (s i) n (batches i) : Multiset Bytes)
  complete : inKafka w = published S batches ↔ AllCovered T s n batches
  round : (∀ i, T i ≤ (batches i).length) → (inKafka w = published S batches ↔ ∀ i, T i ≤ n)

/-- **Every run**, for any number of processes: what is in Kafka, when it is everything, and what
the numbers of topics have to do with it. -/
theorem covering_run [Fintype ι] (hagents : Publishers args root T s)
    (acts : List (Action ι (Fin n) (List SendTimeSeriesDruid)))
    (hcount : mqttcounter = true → ∀ i, ∀ l ∈ callsOf i acts, ∀ r ∈ l,
      (S.carried r).sensorValue.int?.isSome) :
    let w := agentsRun S getsizeof args producer root T s enable mqttcounter acts
    ∃ batches : ι → List (List SendTimeSeriesDruid),
      (∀ i, Sent S getsizeof (args i) (T i) (s i) (callsOf i acts).flatten (batches i)
        (w.sender i)) ∧
      (Lossless acts → (∀ i t, w.inFlight i t = []) → Covering S T s batches w) := by
  intro w
  obtain ⟨log, hw⟩ : ∃ log, Wired (agentsPath S getsizeof args producer root)
      (fun i => AgentCommon.start enable (T i) (s i)) (fanIns n root true mqttcounter false) acts w
      log := wired_run (fun _ => rfl) acts
  have hexists : ∀ i, ∃ batches, Sent S getsizeof (args i) (T i) (s i)
      (callsOf i acts).flatten batches (w.sender i) := by
    intro i
    have hloop : Accepting S getsizeof (args i) (Batched S getsizeof (args i) (T i) (s i)) :=
      accepting_batched (Nat.zero_lt_of_lt (hagents.start_lt i)) (hagents.batching i)
    have hagent : w.sender i
      = (AgentCommon.start enable (T i) (s i)).sendAll S getsizeof (args i) (callsOf i acts) :=
        hw.senders i
    rw [hagent]
    exact (follows_sendAll hloop (batched_start enable (hagents.start_lt i)) _).sent
      (hagents.batching i)
  choose batches hsent using hexists
  refine ⟨batches, hsent, fun hlossless hempty => ?_⟩
  have hproduced := produced_eq_sum hw hagents (fun i => (hsent i).published) (by
    intro hmode i b hb r hr
    obtain ⟨l, hl, hrl⟩ := List.mem_flatten.mp ((hsent i).mem_stream hb hr)
    exact hcount hmode i l hl r hrl) hlossless hempty
  have hrecords : inKafka w
      = ∑ i, (coveredRecords S (T i) (s i) n (batches i) : Multiset Bytes) := by
    rw [inKafka, Finset.sum_congr rfl fun t _ => hproduced t, Finset.sum_comm]
    exact Finset.sum_congr rfl fun i _ => sum_deal S (T i) (s i) n (batches i)
  have hcomplete : inKafka w = published S batches ↔ AllCovered T s n batches := by
    rw [hrecords]
    exact covered_eq_published_iff fun i => (hsent i).nonempty
  exact ⟨hrecords, hcomplete, fun hround =>
    hcomplete.trans (allCovered_iff_of_round hagents hround)⟩

/-- **Topics and processes.**  FanIn is run with `--batching` and without `--mqttPassthrough`, and
if it checks the batch counters, it can read the values.  `main` starts processes for the subtopics
below `n`, the number in its option and at least one.  For agents that batch and publish below the
root in the configuration, when nothing is lost or in flight, Kafka has the records of all the
batches that went to these, and of no others: everything, just when no agent has come to a subtopic
from `n` on.  Once every agent has been round, that is when none has been given more than `n`
topics. -/
theorem topics_covered [Fintype ι] {int : String → Option ℤ} {config : FanInConfig}
    (hconfig : FanIn.SoundConfig int config) (options : FanInOptions) {k : ℤ}
    (hoption : FanIn.numberOfMqttTopics int options = some k) (hn : max 1 k.toNat = n)
    (hbatching : options.batching = true) (hdecode : options.mqttPassthrough = false)
    (hagents : Publishers args config.mqttMultiProcessRootTopic T s)
    (acts : List (Action ι (Fin n) (List SendTimeSeriesDruid)))
    (hcount : options.checkmqtt = true → ∀ i, ∀ l ∈ callsOf i acts, ∀ r ∈ l,
      (S.carried r).sensorValue.int?.isSome) :
    let fanIn : Fin n → FanIn Bytes :=
      fanIns n config.mqttMultiProcessRootTopic true options.checkmqtt false
    let w := agentsRun S getsizeof args producer config.mqttMultiProcessRootTopic T s enable
      options.checkmqtt acts
    (FanIn.main int config options).map (Option.map Launched.self)
        = (List.finRange n).map (fun t => some (fanIn t)) ∧
      ∃ batches : ι → List (List SendTimeSeriesDruid),
        (∀ i, Sent S getsizeof (args i) (T i) (s i) (callsOf i acts).flatten (batches i)
          (w.sender i)) ∧
        (Lossless acts → (∀ i t, w.inFlight i t = []) → Covering S T s batches w) := by
  intro fanIn w
  refine ⟨?_, covering_run hagents acts hcount⟩
  obtain ⟨q, result, hmain⟩ := @FanIn.main_eq Bytes int config options hconfig k hoption
  rw [hmain, hn, List.map_map, ← List.map_coe_finRange_eq_range, List.map_map]
  refine List.map_congr_left fun t _ => ?_
  simp only [Function.comp_apply, Option.map_some, hbatching, hdecode]
  rfl

end

/-- The shipped `FanIn.cfg` and an agent with two subtopics: two processes get both batches of five,
and the one process that is started without the option gets the first. -/
theorem topics_covered_two :
    let int : String → Option ℤ := fun text =>
      if text = "0" then some 0 else if text = "2" then some 2 else none
    let config : FanInConfig := ⟨"ibswitch/0:0", "registration-result:0", "ibswitch", "0"⟩
    let args : Unit → SendArgs := fun _ => ⟨"ibswitch", -1, 100, ⟨7⟩, false⟩
    let visit {n : ℕ} : Action Unit (Fin n) (List SendTimeSeriesDruid) :=
      .perform () (List.replicate 10 ⟨1570135369000, ⟨7⟩, .ofNat 600⟩)
    let final := fun (n : ℕ) (acts : List (Action Unit (Fin n) (List SendTimeSeriesDruid))) =>
      agentsRun structuralSerializer listSizeof args (fun _ _ => .accepted) "ibswitch" (fun _ => 2)
        (fun _ => 0) false false acts
    let two := final 2 [visit, .deliver () 1, .deliver () 0]
    let one := final 1 [visit, .deliver () 0]
    (FanIn.main int config ⟨some "2", true, false, false⟩ : List (Option (Launched Message))).length
        = 2 ∧
      (∃ batches, Covering structuralSerializer (fun _ => 2) (fun _ => 0) batches two) ∧
      (inKafka two).card = 10 ∧
      (∃ batches, Covering structuralSerializer (fun _ => 2) (fun _ => 0) batches one) ∧
      (inKafka one).card = 5 := by
  intro int config args visit final two one
  have hconfig : FanIn.SoundConfig int config := by
    refine ⟨by decide, by decide, by decide, ⟨"0", by decide, by decide, by decide, by decide⟩,
      "registration-result", "0", by decide, by decide, by decide, by decide⟩
  have hagents : Publishers args "ibswitch" (fun _ => 2) fun _ => 0 :=
    ⟨by decide, by decide, fun _ => rfl⟩
  obtain ⟨hmain, batches, -, htwo⟩ := topics_covered (S := structuralSerializer) hconfig
    ⟨some "2", true, false, false⟩ (show _ = some 2 by decide) (show _ = 2 by decide) rfl rfl
    hagents [visit, .deliver () 1, .deliver () 0] (fun h => absurd h (by decide))
  obtain ⟨-, batches', -, hone⟩ := topics_covered (S := structuralSerializer) hconfig
    ⟨none, true, false, false⟩ (show _ = some 1 by decide) (show _ = 1 by decide) rfl rfl
    hagents [visit, .deliver () 0] (fun h => absurd h (by decide))
  refine ⟨?_, ⟨batches, htwo ?_ ?_⟩, ?_, ⟨batches', hone ?_ ?_⟩, ?_⟩
  · have hlength := congrArg List.length hmain
    simpa using hlength
  · simp [Lossless, visit]
  · decide +kernel
  · decide +kernel
  · simp [Lossless, visit]
  · decide +kernel
  · decide +kernel

end KrakenMare
