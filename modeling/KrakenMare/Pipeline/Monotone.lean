import KrakenMare.Pipeline.Conservation
import KrakenMare.Pipeline.SensorValues
import KrakenMare.Simulator.Counters

/-!
# Counters on their way to Kafka

The counters of a switch only grow: `send_data` adds random amounts to the ones it has, which begin
as in the seed files.  So a consumer may expect that the values of one sensor do not go down.  The
setting is any number of simulators with the batch counter off, FanIn processes that decode, and a
network that keeps the order of each agent's batches on a subtopic but may lose some.

A simulator visits its switches in any order here, which covers the order of its own loop
(`visited_sendData`).  Its sensors have UUIDs of their own, within an agent and between agents
(`SensorFleet`).

* `Number.AtMost` — `<=` of floats, with infinities and `nan`.
* `single_mono` — rounding to singles keeps the order of the values.
* `FanIn.consumed_receive` — a process hands over no more than was in the batches, and in that
  order.
* `IBswitchSimulator.Climbing.published` — what a simulator has published is one rising stream, cut
  into batches.
* **`counters_monotone`** — among the records that one process hands to Kafka, the values of a
  sensor never go down.
* `counters_monotone_lossy` — a run in which the first batch is lost.

Between two processes nothing is said.  The batches of an agent go to all subtopics in turn, and a
process may be behind another one, so in the Kafka topic that they share an older value of a sensor
may well come after a newer one.
-/

namespace KrakenMare

open Lib Network AgentCommon IBswitchSimulator

/-! ## The order of values -/

/-- `x <= y`, as IEEE has it: infinities are at the ends, and `nan` compares with nothing. -/
def Number.AtMost : Number → Number → Prop
  | finite p, finite q => p ≤ q
  | finite _, infinity negative => negative = false
  | infinity negative, finite _ => negative = true
  | infinity negative, infinity negative' => negative = true ∨ negative' = false
  | nan, _ => False
  | _, nan => False

/-- Rounding keeps the order, also where the larger value, or both, become infinite. -/
lemma single_mono {z w : ℤ} (h : z ≤ w) : (single z).AtMost (single w) := by
  have hmono : Rounding.roundInt 24 z ≤ Rounding.roundInt 24 w :=
    Rounding.roundInt_mono (by omega) h
  have hsign : ∀ v : ℤ, (v < 0 → Rounding.roundInt 24 v ≤ 0) ∧
      (0 ≤ v → 0 ≤ Rounding.roundInt 24 v) := by
    intro v
    rw [Rounding.roundInt]
    split_ifs <;> omega
  have hz := hsign z
  have hw := hsign w
  simp only [single, abs_lt]
  split_ifs with h₁ h₂ h₂ <;> simp only [Number.AtMost, decide_eq_true_eq, decide_eq_false_iff_not]
  · exact_mod_cast hmono
  · omega
  · omega
  · omega

/-- If they are of one sensor, the later record has a value that is no lower. -/
def NoDrop (r r' : SendTimeSeriesDruid) : Prop :=
  r.sensorUuid = r'.sensorUuid → r.sensorValue.AtMost r'.sensorValue

variable {Bytes : Type} {S : MessageSerializer Bytes}

lemma noDrop_carried (hS : CarriesSingles S) {r r' : SendTimeSeriesDruid} (h : Climbs r r') :
    NoDrop (S.carried r) (S.carried r') := by
  intro heq
  obtain ⟨v, w, hv, hw, hle⟩ := h heq
  show (S.float r.sensorValue).AtMost (S.float r'.sensorValue)
  rw [hv, hw, hS v, hS w]
  exact single_mono hle

/-! ## What a process has produced -/

/-- A consumer reads no more than was in the batches, and that in order. -/
lemma FanIn.consumed_receive {producer : ℕ → ProduceOutcome} {f : FanIn Bytes}
    (hmode : FanIn.DecodeMode f) {messages : List (Publication Bytes)}
    (hbatch : ∀ m ∈ messages, FanIn.BatchOn S f.topic m) :
    (FanIn.consumed S (FanIn.receive S producer f messages)).Sublist
      (FanIn.consumed S f ++ messages.flatMap (FanIn.recordsOf S)) := by
  have hands : FanIn.Hands f (FanIn.receive S producer f messages) _ :=
    FanIn.hands_receive messages hmode fun m hm => by
      obtain ⟨rs, rfl⟩ := hbatch m hm
      exact ⟨rfl, _, S.decode_encodeBatch rs⟩
  rw [FanIn.consumed, hands.produced, List.filterMap_append, List.filterMap_flatMap]
  refine (List.Sublist.refl _).append (List.Sublist.flatMap_right messages fun m hm => ?_)
  obtain ⟨rs, rfl⟩ := hbatch m hm
  rw [FanIn.recordsOf_encodeBatch, List.takeWhile_map]
  simp only [List.map_map, Function.comp_def, MessageSerializer.encodeRecord_carried,
    List.filterMap_map, MessageSerializer.decode_encodeRecord, List.filterMap_eq_map']
  exact (List.takeWhile_prefix _).sublist.map _

/-! ## The network -/

/-- A visit takes back nothing that was published. -/
lemma publications_attempt (S : MessageSerializer Bytes) (getsizeof : ℕ → ℕ) (args : SendArgs)
    (myAgent_uuid : UUID) (draws : ℕ → Draw) (maps : UuidMaps) (call : String × String)
    (s : Sending Bytes) : s.agent.publications <+:
      (attempt S getsizeof args myAgent_uuid draws maps call s).agent.publications := by
  rw [attempt]
  cases hvisit : visit S getsizeof args myAgent_uuid draws maps call.1 call.2 s with
  | none => exact List.prefix_refl _
  | some t =>
      rcases visit_cases hvisit with rfl | ⟨_, _, record_list, -, -, -, hagent, -⟩
      · exact List.prefix_refl _
      · rw [Option.getD_some, hagent]
        exact publications_send S getsizeof args s.agent record_list

section
variable {ι : Type} {T : ℕ}

/-- Simulators with the batch counter off; a call is the visit of a switch. -/
def counterPath (S : MessageSerializer Bytes) (getsizeof : ℕ → ℕ) (args : ι → SendArgs)
    (draws : ι → ℕ → Draw) (maps : ι → UuidMaps) (producer : Fin T → ℕ → ProduceOutcome)
    (root : String) : Network.Spec ι (Fin T) (String × String) (Sending Bytes) (FanIn Bytes)
      (Publication Bytes) where
  perform i call s := attempt S getsizeof (args i) (args i).uuid (draws i) (maps i) call s
  sent s := s.agent.publications
  sent_perform i call s :=
    publications_attempt S getsizeof (args i) (args i).uuid (draws i) (maps i) call s
  accepts t m := m.topic = subtopic root t
  handle t m f := FanIn.mqttOnMessage S (producer t) m f

/-- The state reached from the start by a list of actions, FanIn being run with `--batching`. -/
def counterRun [DecidableEq ι] (S : MessageSerializer Bytes) (getsizeof : ℕ → ℕ)
    (args : ι → SendArgs) (draws : ι → ℕ → Draw) (maps : ι → UuidMaps)
    (producer : Fin T → ℕ → ProduceOutcome) (root : String) (mqttcounter : Bool)
    (seeds : ι → Dict String (Dict String PerfQuery)) (first : ι → ℕ)
    (acts : List (Action ι (Fin T) (String × String))) :
    State ι (Fin T) (Sending Bytes) (FanIn Bytes) (Publication Bytes) :=
  run (counterPath S getsizeof args draws maps producer root)
    (State.start (fun i => ⟨seeds i, AgentCommon.start false T (first i), 0, []⟩)
      (fanIns T root true mqttcounter false)) acts

/-- Simulators that batch, and have sensors of their own: no UUID stands for two sensors, of one
agent or of two. -/
structure SensorFleet (T : ℕ) (args : ι → SendArgs) (maps : ι → UuidMaps) (first : ι → ℕ) :
    Prop where
  first_lt : ∀ i, first i < T
  batching : ∀ i, 0 < (args i).byteBatchSize
  distinct : ∀ i, (maps i).Distinct
  apart : ∀ {i j cmc guid m cmc' guid' m' u}, (maps i).sensor? cmc guid m = some u →
    (maps j).sensor? cmc' guid' m' = some u → i = j

variable {getsizeof : ℕ → ℕ} {args : ι → SendArgs} {draws : ι → ℕ → Draw} {maps : ι → UuidMaps}
  {producer : Fin T → ℕ → ProduceOutcome} {root : String} {mqttcounter : Bool}
  {seeds : ι → Dict String (Dict String PerfQuery)} {first : ι → ℕ}

/-- What a simulator has published is one rising stream, cut into batches. -/
lemma IBswitchSimulator.Climbing.published {args : SendArgs} {maps : UuidMaps} {first : ℕ}
    {s : Sending Bytes} (hS : CarriesSingles S) (h : Climbing S getsizeof args T first maps s)
    (hb : 0 < args.byteBatchSize) :
    (∀ m ∈ s.agent.publications, FanIn.BatchOn S m.topic m ∧ ∀ r ∈ FanIn.recordsOf S m,
        ∃ cmc guid metric, maps.sensor? cmc guid metric = some r.sensorUuid) ∧
      (s.agent.publications.flatMap (FanIn.recordsOf S)).Pairwise NoDrop := by
  obtain ⟨batches, hsent⟩ := h.agent.sent hb
  have hstream : batches.flatten <+: s.records :=
    (List.prefix_append _ _).trans (hsent.conserved ▸ limited_isPrefix _ _)
  rw [hsent.published]
  constructor
  · intro m hm
    obtain ⟨hbatch, b, hmem, heq⟩ := recordsOf_numbered hm
    refine ⟨hbatch, fun r hr => ?_⟩
    rw [heq] at hr
    obtain ⟨r', hr', rfl⟩ := List.mem_map.mp hr
    obtain ⟨cmc, guid, metric, hsensor, -⟩ :=
      h.seeds r' (hstream.subset (List.mem_flatten_of_mem hmem hr'))
    exact ⟨cmc, guid, metric, hsensor⟩
  · have hcarried : (numbered S args T first batches).flatMap (FanIn.recordsOf S)
        = batches.flatten.map S.carried := by
      rw [numbered, List.flatMap_map]
      simp only [FanIn.recordsOf_encodeBatch]
      rw [flatMap_zipIdx (List.map S.carried), List.map_flatten, List.flatMap_def]
    rw [hcarried, List.pairwise_map]
    exact (h.climbs.sublist hstream.sublist).imp (noDrop_carried hS)

variable [DecidableEq ι] {acts : List (Action ι (Fin T) (String × String))}
  {w : State ι (Fin T) (Sending Bytes) (FanIn Bytes) (Publication Bytes)}
  {log : Fin T → List (ι × Publication Bytes)}

/-- In every reachable state the records of each simulator climb. -/
lemma climbing_sender (fleet : SensorFleet T args maps first)
    (hw : Wired (counterPath S getsizeof args draws maps producer root)
      (fun i => ⟨seeds i, AgentCommon.start false T (first i), 0, []⟩)
      (fanIns T root true mqttcounter false) acts w log) (i : ι) :
    Climbing S getsizeof (args i) T (first i) (maps i) (w.sender i) := by
  have hvisited : Visited S getsizeof (args i) (args i).uuid (draws i) (maps i)
      ⟨seeds i, AgentCommon.start false T (first i), 0, []⟩ (w.sender i) :=
    ⟨callsOf i acts, hw.senders i⟩
  exact climbing_visited (climbing_start (fleet.first_lt i) (seeds i))
    (Nat.zero_lt_of_lt (fleet.first_lt i)) (fleet.batching i) (fleet.distinct i) hvisited

/-- What a process was handed. -/
lemma noDrop_log (hS : CarriesSingles S) (fleet : SensorFleet T args maps first)
    (hw : Wired (counterPath S getsizeof args draws maps producer root)
      (fun i => ⟨seeds i, AgentCommon.start false T (first i), 0, []⟩)
      (fanIns T root true mqttcounter false) acts w log) (t : Fin T) :
    (((log t).map Prod.snd).flatMap (FanIn.recordsOf S)).Pairwise NoDrop := by
  have hpublished := fun i => (climbing_sender fleet hw i).published hS (fleet.batching i)
  -- the records of one simulator
  have hone : ∀ i, (((log t).filter fun x => x.1 = i).flatMap fun x =>
      FanIn.recordsOf S x.2).Pairwise NoDrop := by
    intro i
    have hsub : (((log t).filter fun x => x.1 = i).map Prod.snd).Sublist
        ((w.sender i).agent.publications) := by
      have hqueue : (w.settled i t).map Prod.fst ++ w.inFlight i t
        = (w.sender i).agent.publications.filter _ := hw.queues i t
      rw [hw.logs i t]
      refine (List.filter_sublist.map Prod.fst).trans ?_
      exact (List.sublist_append_left _ _).trans (hqueue ▸ List.filter_sublist)
    have hrecords := (hpublished i).2.sublist (hsub.flatMap (FanIn.recordsOf S))
    rwa [List.flatMap_map] at hrecords
  rw [List.flatMap_map]
  refine List.pairwise_flatMap.mpr ⟨fun x hx => ?_, @pairwise_of_filter _ _ _ Prod.fst _ _
    (fun i => (List.pairwise_flatMap.mp (hone i)).2) ?_⟩
  · exact (List.pairwise_flatMap.mp (hone x.1)).1 x (List.mem_filter.mpr ⟨hx, by simp⟩)
  · -- no sensor belongs to two simulators
    intro x hx y hy hne r hr r' hr' heq
    obtain ⟨_, _, _, hsensor⟩ := ((hpublished x.1).1 x.2 (hw.mem_log hx).1).2 r hr
    obtain ⟨_, _, _, hsensor'⟩ := ((hpublished y.1).1 y.2 (hw.mem_log hy).1).2 r' hr'
    rw [heq] at hsensor
    exact absurd (fleet.apart hsensor hsensor') hne

/-- **Counters in Kafka.**  Whatever is lost on the way, and in whatever order the switches are
visited, the values of a sensor never go down among the records that one process hands to Kafka. -/
theorem counters_monotone (hS : CarriesSingles S) (fleet : SensorFleet T args maps first)
    (acts : List (Action ι (Fin T) (String × String))) (t : Fin T) :
    (FanIn.consumed S ((counterRun S getsizeof args draws maps producer root mqttcounter seeds first
      acts).receiver t)).Pairwise NoDrop := by
  obtain ⟨log, hw⟩ := wired_run (N := counterPath S getsizeof args draws maps producer root)
    (a := fun i => ⟨seeds i, AgentCommon.start false T (first i), 0, []⟩)
    (b := fanIns T root true mqttcounter false) (fun _ => rfl) acts
  have hreceiver : (counterRun S getsizeof args draws maps producer root mqttcounter seeds first
      acts).receiver t = _ := hw.receivers t
  refine List.Pairwise.sublist ?_ (noDrop_log hS fleet hw t)
  rw [hreceiver]
  refine FanIn.consumed_receive (f := fanIns T root true mqttcounter false t) ⟨rfl, rfl⟩
    fun m hm => ?_
  obtain ⟨x, hx, rfl⟩ := List.mem_map.mp hm
  obtain ⟨hpub, htopic⟩ := hw.mem_log hx
  have hbatch := (((climbing_sender fleet hw x.1).published hS (fleet.batching x.1)).1 x.2 hpub).1
  have hon : x.2.topic = subtopic root t := by simpa [counterPath] using htopic
  rwa [hon] at hbatch

end

/-- One switch, batches of one record, and the first of them lost: the symbol errors arrive as they
were, the data as its single. -/
theorem counters_monotone_lossy :
    let sensor_uuid : Dict String UUID :=
      .ofEntries [("SymbolErrorCounter", ⟨5⟩), ("PortXmitData", ⟨6⟩)]
    let final := counterRun singleSerializer listSizeof
      (fun _ : Unit => ⟨"ibswitch", -1, 1, ⟨7⟩, false⟩) (fun _ n => ⟨n, 1, 0, 0⟩)
      (fun _ => ⟨∅, .ofEntries [("cmc", .ofEntries [("guid", sensor_uuid)])]⟩)
      (fun (_ : Fin 1) _ => .accepted) "ibswitch" true
      (fun _ => .ofEntries [("cmc", .ofEntries [("guid", ⟨0, 0, 0, 48235298⟩)])]) (fun _ => 0)
      (List.replicate 3 (.perform () ("cmc", "guid"))
        ++ .lose () 0 :: List.replicate 5 (.deliver () 0))
    (FanIn.consumed singleSerializer (final.receiver 0)).Pairwise NoDrop ∧
      (FanIn.consumed singleSerializer (final.receiver 0)).map (fun r =>
          (r.sensorUuid, r.sensorValue)) =
        [(⟨6⟩, .finite 48235296), (⟨5⟩, .finite 2000), (⟨6⟩, .finite 48235296),
          (⟨5⟩, .finite 3000), (⟨6⟩, .finite 48235296)] := by
  intro sensor_uuid final
  have fleet : SensorFleet 1 (fun _ : Unit => ⟨"ibswitch", -1, 1, ⟨7⟩, false⟩)
      (fun _ => ⟨∅, .ofEntries [("cmc", .ofEntries [("guid", sensor_uuid)])]⟩) (fun _ => 0) := by
    refine ⟨fun _ => Nat.one_pos, fun _ => Nat.one_pos, fun _ => ?_, fun _ _ => rfl⟩
    have hentry : ∀ {cmc guid m u}, UuidMaps.sensor? ⟨∅, .ofEntries [("cmc", .ofEntries [("guid",
        sensor_uuid)])]⟩ cmc guid m = some u → cmc = "cmc" ∧ guid = "guid" ∧
        (m, u) ∈ [("SymbolErrorCounter", (⟨5⟩ : UUID)), ("PortXmitData", ⟨6⟩)] := by
      intro cmc guid m u h
      obtain ⟨metrics, hmetrics, hm⟩ := Option.bind_eq_some_iff.mp h
      obtain ⟨switches, hswitches, hguid⟩ := Option.bind_eq_some_iff.mp hmetrics
      have hcmc := List.mem_singleton.mp (Dict.mem_of_get?_ofEntries hswitches)
      obtain ⟨rfl, rfl⟩ := Prod.mk.inj hcmc
      have hguid := List.mem_singleton.mp (Dict.mem_of_get?_ofEntries hguid)
      obtain ⟨rfl, rfl⟩ := Prod.mk.inj hguid
      exact ⟨rfl, rfl, Dict.mem_of_get?_ofEntries hm⟩
    intro cmc guid m cmc' guid' m' u h h'
    obtain ⟨rfl, rfl, hm⟩ := hentry h
    obtain ⟨rfl, rfl, hm'⟩ := hentry h'
    refine ⟨rfl, rfl, ?_⟩
    rw [List.mem_pair, Prod.mk.injEq, Prod.mk.injEq] at hm hm'
    rcases hm with ⟨rfl, rfl⟩ | ⟨rfl, rfl⟩ <;> rcases hm' with ⟨rfl, hu⟩ | ⟨rfl, hu⟩
    · rfl
    · exact absurd hu (by decide)
    · exact absurd hu (by decide)
    · rfl
  exact ⟨counters_monotone carriesSingles_singleSerializer fleet _ 0, by decide +kernel⟩

end KrakenMare
