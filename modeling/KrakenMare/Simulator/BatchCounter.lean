import KrakenMare.Agent.Batching
import KrakenMare.FanIn.Forwarding
import KrakenMare.Lib.Streams
import KrakenMare.Simulator.SendData

/-!
# The batch counts a simulator sends

A simulator with the batch counter enabled stamps both records of a switch with the count of the
subtopic whose turn it is, read before the call.  The call may flush between the two, so that the
second record opens a batch of the next subtopic with a count that is not its own.

A batch counter starts at 1, so batch `i`, which is the `i / T`-th of its subtopic, should show `i
/ T + 1`.

* `follows_simulate` — the stream a simulator sends is `stampedStream`, a function of its calls: no
  lookup fails, and the stamp depends on the number of the call only.
* `stamp_batch` — **every record of batch `i` carries `i / T + 1`**, except that the first one
  carries `i / T` when it was stamped before the flush (`i * N` odd) and the batch is the first of
  a round.
* `counts_batch` — so FanIn sees every batch as one burst of `Lib.Monitor`, which is late in just
  these cases.
* `bursts_deal` — and the batches of one subtopic as the bursts `0, 1, 2, …`.

`N` is the number of records in a full batch.  It is at least 2 in the last result, since a late
batch of one record would show nothing but the count before.  The counts must fit into an Avro
float.
-/

namespace KrakenMare

open Lib AgentCommon

namespace AgentCommon

variable {Bytes : Type} {S : MessageSerializer Bytes} {getsizeof : ℕ → ℕ} {args : SendArgs}

/-- A running agent has published a batch for every `N` records. -/
lemma Running.length_batches {T s N : ℕ} {records : List SendTimeSeriesDruid}
    {batches : List (List SendTimeSeriesDruid)} {a : AgentCommon Bytes}
    (h : Running S args T s records batches a) (hcut : Cut getsizeof args batches a.myByteBatch)
    (hN : Fills getsizeof args N) : batches.length = records.length / N := by
  have hfull : ∀ b ∈ batches, b.length = N := fun b hb => (hcut.full b hb).unique hN
  have hrest : a.myByteBatch.length < N := hcut.length_pending hN
  have hlen := congrArg List.length h.conserved
  rw [List.length_append, length_flatten_of_length_eq hfull] at hlen
  rw [← hlen, Nat.add_comm, Nat.add_mul_div_right _ _ hN.1, Nat.div_eq_of_lt hrest, Nat.zero_add]

/-- Sending does not switch the batch counter on or off. -/
lemma enable_acceptRecord (a : AgentCommon Bytes) (r : SendTimeSeriesDruid) :
    (a.acceptRecord S getsizeof args r).myEnableMQTTbatchesCounter
      = a.myEnableMQTTbatchesCounter := by
  have hsave : (a.saveSender args r).myEnableMQTTbatchesCounter = a.myEnableMQTTbatchesCounter := by
    rw [saveSender_eq]
  have hnext : ∀ c : AgentCommon Bytes,
      c.nextSubtopic.myEnableMQTTbatchesCounter = c.myEnableMQTTbatchesCounter := by
    intro c
    rw [nextSubtopic_eq]
  unfold acceptRecord
  dsimp only
  split_ifs
  · simp [hnext, publishBatch, mqttSendByteBatchAvroTsMsg, countBatch, appendRecord, hsave]
  · simp [appendRecord, hsave]
  · simp [mqttSendByteBatchAvroTsMsg, countBatch, hsave]

lemma enable_mqttSendTripletBatch : ∀ (l : List SendTimeSeriesDruid) (a : AgentCommon Bytes),
    (a.mqttSendTripletBatch S getsizeof args l).myEnableMQTTbatchesCounter
      = a.myEnableMQTTbatchesCounter
  | [], _ => rfl
  | r :: l, a => by
      rw [mqttSendTripletBatch]
      split_ifs
      · simp only [atLimit]
        split_ifs <;> rfl
      · rw [enable_mqttSendTripletBatch l, enable_acceptRecord]

/-- Sending does not switch the batch counter on or off. -/
lemma enable_send (a : AgentCommon Bytes) (l : List SendTimeSeriesDruid) :
    (a.send S getsizeof args l).myEnableMQTTbatchesCounter = a.myEnableMQTTbatchesCounter := by
  rw [send]
  split_ifs
  · rfl
  · exact enable_mqttSendTripletBatch l a

/-- A running agent that batches and counts, so that its records carry batch counts. -/
def Counting (S : MessageSerializer Bytes) (getsizeof : ℕ → ℕ) (args : SendArgs) (T s : ℕ)
    (records : List SendTimeSeriesDruid) (a : AgentCommon Bytes) : Prop :=
  Batched S getsizeof args T s records a ∧ a.myEnableMQTTbatchesCounter = true

lemma accepting_counting {T s : ℕ} (hT : 0 < T) (hb : 0 < args.byteBatchSize) :
    Accepting S getsizeof args (Counting S getsizeof args T s) := by
  have h : Accepting S getsizeof args (Batched S getsizeof args T s) := accepting_batched hT hb
  refine ⟨fun hP => h.counted hP.1, fun hP => h.running hP.1, fun hP r => ⟨h.accept hP.1 r, ?_⟩⟩
  rw [enable_acceptRecord]
  exact hP.2

end AgentCommon

/-! ## The stream of a simulator -/

/-- The count read before call number `c` when a full batch has `N` records. -/
def stamp (T N c : ℕ) : ℕ := 1 + 2 * c / N / T

/-- The records of a simulator, two for each call, both with the stamp of the call and under its own
uuid. -/
def stampedStream (u : UUID) (T N : ℕ) (readings : List SwitchReading) :
    List SendTimeSeriesDruid :=
  readings.zipIdx.flatMap fun x => List.replicate 2 ⟨x.1.timestamp, u, .ofNat (stamp T N x.2)⟩

lemma stampedStream_concat (u : UUID) (T N : ℕ) (readings : List SwitchReading)
    (r : SwitchReading) :
    stampedStream u T N (readings ++ [r]) = stampedStream u T N readings
      ++ List.replicate 2 ⟨r.timestamp, u, .ofNat (stamp T N readings.length)⟩ := by
  simp [stampedStream, List.zipIdx_append]

lemma length_stampedStream (u : UUID) (T N : ℕ) (readings : List SwitchReading) :
    (stampedStream u T N readings).length = 2 * readings.length := by
  induction readings using List.reverseRecOn with
  | nil => rfl
  | append_singleton readings r ih =>
      rw [stampedStream_concat, List.length_append, ih, List.length_replicate, List.length_append,
        List.length_singleton]
      ring

/-- Each record of the stream carries the stamp of its call, two records of the stream being one
call. -/
lemma getElem?_stampedStream {u : UUID} {T N : ℕ} (readings : List SwitchReading) :
    ∀ {g : ℕ} {r : SendTimeSeriesDruid}, (stampedStream u T N readings)[g]? = some r →
      r.sensorUuid = u ∧ r.sensorValue = .ofNat (stamp T N (g / 2)) := by
  induction readings using List.reverseRecOn with
  | nil => intro g r h; simp [stampedStream] at h
  | append_singleton readings reading ih =>
      intro g r h
      rw [stampedStream_concat] at h
      rcases Nat.lt_or_ge g (2 * readings.length) with hlt | hge
      · rw [List.getElem?_append_left (by rwa [length_stampedStream])] at h
        exact ih h
      · rw [List.getElem?_append_right (by rwa [length_stampedStream]), length_stampedStream,
          List.getElem?_replicate] at h
        split_ifs at h with hg
        obtain rfl := Option.some.inj h
        have hhalf : g / 2 = readings.length := by omega
        exact ⟨rfl, by rw [hhalf]⟩

namespace IBswitchSimulator

variable {Bytes : Type} (S : MessageSerializer Bytes) (getsizeof : ℕ → ℕ) (args : SendArgs)
  (myAgent_uuid : UUID)

/-- `sendSwitch`, an exception leaving the agent as it was, since it comes before anything is
sent. -/
def simulate (reading : SwitchReading) (a : AgentCommon Bytes) : AgentCommon Bytes :=
  (sendSwitch S getsizeof args myAgent_uuid reading a).getD a

variable {S getsizeof args myAgent_uuid} {T s N : ℕ} {a : AgentCommon Bytes}

/-- An agent that is gone sends nothing. -/
lemma simulate_of_exited (hexit : a.exited = true) (reading : SwitchReading) :
    simulate S getsizeof args myAgent_uuid reading a = a := by
  unfold simulate sendSwitch
  cases recordList myAgent_uuid reading a with
  | none => rfl
  | some l =>
      show a.send S getsizeof args l = a
      rw [send, if_pos hexit]

/-- **What a simulator sends.**  No lookup fails, and its records are those of `stampedStream`,
whatever else `P` says of an agent that counts. -/
theorem follows_simulate_of {P : List SendTimeSeriesDruid → AgentCommon Bytes → Prop}
    (hloop : Accepting S getsizeof args P)
    (hP : ∀ {records a}, P records a → Counting S getsizeof args T s records a)
    (hstart : P [] (start true T s)) (hT : 0 < T) (hN : Fills getsizeof args N)
    (readings : List SwitchReading) :
    Follows S args P (stampedStream myAgent_uuid T N readings)
      (readings.foldl (fun a r => simulate S getsizeof args myAgent_uuid r a)
        (start true T s)) := by
  induction readings using List.reverseRecOn with
  | nil => exact follows_start hstart
  | append_singleton readings reading ih =>
      rw [List.foldl_append, stampedStream_concat]
      have hcall := ih.send hloop (List.replicate 2
        ⟨reading.timestamp, myAgent_uuid, .ofNat (stamp T N readings.length)⟩)
      by_cases hlim : LimitHit args.sendNumberOfMessages (stampedStream myAgent_uuid T N readings)
      · obtain ⟨a₀, -, ha⟩ := ih.gone hlim
        have hexit : (readings.foldl (fun a r => simulate S getsizeof args myAgent_uuid r a)
            (start true T s)).exited = true := by rw [ha]; rfl
        rw [send, if_pos hexit] at hcall
        rwa [List.foldl_cons, List.foldl_nil, simulate_of_exited hexit]
      · obtain ⟨⟨batches, hrun, hcut⟩, henable⟩ := hP (ih.running hlim)
        have hcount := hrun.currentCounter hT
        rw [hrun.length_batches hcut hN, length_stampedStream] at hcount
        rw [List.foldl_cons, List.foldl_nil, simulate, sendSwitch,
          recordList_counting myAgent_uuid henable hcount]
        exact hcall

/-- What a simulator sends, starting from a new agent: the stream is a function of its calls. -/
theorem follows_simulate (hT : 0 < T) (hs : s < T) (hb : 0 < args.byteBatchSize)
    (hN : Fills getsizeof args N) (readings : List SwitchReading) :
    Follows S args (Counting S getsizeof args T s) (stampedStream myAgent_uuid T N readings)
      (readings.foldl (fun a r => simulate S getsizeof args myAgent_uuid r a)
        (start true T s)) :=
  follows_simulate_of (accepting_counting hT hb) id ⟨batched_start true hs, rfl⟩ hT hN readings

end IBswitchSimulator

/-! ## Batches are bursts -/

/-- The count carried by record `k` of batch `i`: that of its round, but for a first record that is
late. -/
def batchCount (T N i k : ℕ) : ℕ :=
  if k = 0 ∧ i * N % 2 = 1 ∧ T ∣ i then i / T else i / T + 1

/-- The stamp of record `k` of batch `i`.  The call that made the record began before the batch
if the record is the first one and the second of its call; then its stamp is that of the batch
before. -/
theorem stamp_batch {T N i k : ℕ} (hk : k < N) :
    stamp T N ((i * N + k) / 2) = batchCount T N i k := by
  unfold batchCount
  have hN : 0 < N := Nat.zero_lt_of_lt hk
  by_cases hearly : k = 0 ∧ i * N % 2 = 1
  · -- stamped before the flush: `i - 1` batches were out
    obtain ⟨rfl, hodd⟩ := hearly
    have hi : 0 < i := by
      rcases Nat.eq_zero_or_pos i with rfl | hi
      · simp at hodd
      · exact hi
    obtain ⟨p, rfl⟩ : ∃ p, i = p + 1 := ⟨i - 1, by omega⟩
    have hdiv : 2 * (((p + 1) * N + 0) / 2) / N = p := by
      rw [Nat.add_mul, Nat.one_mul] at hodd ⊢
      refine Nat.div_eq_of_lt_le ?_ ?_
      · omega
      · rw [Nat.add_mul, Nat.one_mul]
        omega
    rw [stamp, hdiv, Nat.succ_div]
    by_cases hdvd : T ∣ p + 1
    · rw [if_pos hdvd, if_pos ⟨rfl, hodd, hdvd⟩, Nat.add_comm]
    · rw [if_neg hdvd, if_neg fun h => hdvd h.2.2, Nat.add_zero, Nat.add_comm]
  · have hdiv : 2 * ((i * N + k) / 2) / N = i := by
      refine Nat.div_eq_of_lt_le ?_ ?_
      · omega
      · rw [Nat.add_mul, Nat.one_mul]
        omega
    rw [stamp, hdiv, if_neg fun h => hearly ⟨h.1, h.2.1⟩, Nat.add_comm]

/-- The first record of batch `i` was stamped before the flush and shows the count of the round
before. -/
def lateBatch (T N i : ℕ) : Bool := i * N % 2 = 1 ∧ T ∣ i

lemma batchCount_burst (T N i L : ℕ) :
    (List.range (L + 1)).map (fun k => (batchCount T N i k : ℤ))
      = Monitor.burst (lateBatch T N i) (i / T) L := by
  have htail : (List.range L).map ((fun k => (batchCount T N i k : ℤ)) ∘ Nat.succ)
      = List.replicate L (((i / T : ℕ) : ℤ) + 1) := by
    refine List.eq_replicate_iff.mpr ⟨by simp, fun v hv => ?_⟩
    obtain ⟨k, -, rfl⟩ := List.mem_map.mp hv
    simp [batchCount]
  rw [List.range_succ_eq_map, List.map_cons, List.map_map, htail, Monitor.burst]
  by_cases h : i * N % 2 = 1 ∧ T ∣ i
  · simp [batchCount, lateBatch, h]
  · simp [batchCount, lateBatch, h]

section
variable {Bytes : Type} {S : MessageSerializer Bytes} {getsizeof : ℕ → ℕ} {args : SendArgs}
  {u : UUID} {T s N : ℕ} {readings : List SwitchReading}
  {batches : List (List SendTimeSeriesDruid)} {a : AgentCommon Bytes}

/-- Record `k` of batch `i`. -/
lemma getElem_batch (hsent : Sent S getsizeof args T s (stampedStream u T N readings) batches a)
    (hN : Fills getsizeof args N) {i k : ℕ} (hi : i < batches.length) (hk : k < batches[i].length) :
    k < N ∧ batches[i][k].sensorUuid = u ∧
      batches[i][k].sensorValue = .ofNat (stamp T N ((i * N + k) / 2)) := by
  have hkN : k < N := by
    by_contra hge
    have hlt : N < batches[i].length := by omega
    exact absurd hN.2.1 (not_le.mpr (hsent.atMostFull _ (List.getElem_mem hi) N hN.1 hlt))
  have hget := getElem?_flatten a.pending i k hi hk fun j hj hji =>
    (hsent.full j (by omega)).unique hN
  rw [hsent.conserved] at hget
  obtain ⟨rest, hrest⟩ := limited_isPrefix args.sendNumberOfMessages (stampedStream u T N readings)
  have hlt := (List.getElem?_eq_some_iff.mp hget).1
  have hstream : (stampedStream u T N readings)[i * N + k]? = some batches[i][k] := by
    rw [← hrest, List.getElem?_append_left hlt, hget]
  exact ⟨hkN, getElem?_stampedStream readings hstream⟩

/-- What the batch counter check reads from record `k` of batch `i`. -/
lemma carried_batch (hsent : Sent S getsizeof args T s (stampedStream u T N readings) batches a)
    (hN : Fills getsizeof args N) {i k : ℕ} (hi : i < batches.length) (hk : k < batches[i].length)
    (hbound : i / T + 1 ≤ 2 ^ 24) :
    (S.carried batches[i][k]).sensorUuid = u ∧
      (S.carried batches[i][k]).sensorValue.int? = some (batchCount T N i k : ℤ) := by
  obtain ⟨hkN, hu, hv⟩ := getElem_batch hsent hN hi hk
  rw [stamp_batch hkN] at hv
  have hle : batchCount T N i k ≤ 2 ^ 24 := by
    unfold batchCount
    split_ifs <;> omega
  refine ⟨hu, ?_⟩
  show (S.float batches[i][k].sensorValue).int? = _
  rw [hv, S.float_ofNat hle, Number.int?_ofNat]

/-- **A batch is a burst** as far as the batch counter check is concerned: one count throughout, or
the one before it once and then that count. -/
theorem counts_batch (hsent : Sent S getsizeof args T s (stampedStream u T N readings) batches a)
    (hN : Fills getsizeof args N) {i : ℕ} (hi : i < batches.length)
    (hbound : i / T + 1 ≤ 2 ^ 24) :
    FanIn.countsOf u (batches[i].map S.carried)
      = Monitor.burst (lateBatch T N i) (i / T) (batches[i].length - 1) := by
  have hpos : 0 < batches[i].length :=
    List.length_pos_iff.mpr (hsent.nonempty _ (List.getElem_mem hi))
  have hcount : ∀ k (hk : k < batches[i].length),
      (if (S.carried batches[i][k]).sensorUuid = u
        then (S.carried batches[i][k]).sensorValue.int? else none)
        = some (batchCount T N i k : ℤ) := by
    intro k hk
    obtain ⟨hu, hv⟩ := carried_batch hsent hN hi hk hbound
    rw [if_pos hu, hv]
  rw [FanIn.countsOf, List.filterMap_map,
    filterMap_eq_map_range _ _ (fun k => (batchCount T N i k : ℤ)) hcount, ← batchCount_burst,
    Nat.sub_add_cancel hpos]

/-- The first record of the `j`-th batch of subtopic `t` shows the count of the batch before. -/
def lateOn (T N s t j : ℕ) : Bool := t = s ∧ j * T * N % 2 = 1

/-- **The batches of one subtopic** are bursts `0, 1, 2, …`, late where the first record was stamped
a round before. -/
theorem bursts_deal (hsent : Sent S getsizeof args T s (stampedStream u T N readings) batches a)
    (hN : Fills getsizeof args N) (hN2 : 2 ≤ N) (hs : s < T) {t : ℕ} (ht : t < T)
    (hbound : ∀ i < batches.length, i / T + 1 ≤ 2 ^ 24) :
    Monitor.Bursts (lateOn T N s t)
      ((deal T s t batches).map fun b => FanIn.countsOf u (b.map S.carried)) := by
  have hT : 0 < T := Nat.zero_lt_of_lt hs
  intro j hj
  rw [List.length_map] at hj
  have hget := getElem?_deal hT ht batches s j
  rw [List.getElem?_eq_getElem hj] at hget
  obtain ⟨hi, hb⟩ := List.getElem?_eq_some_iff.mp hget.symm
  have hdiv : (turn T s t + j * T) / T = j := by
    rw [Nat.add_mul_div_right _ _ hT, Nat.div_eq_of_lt (turn_lt hT s t), Nat.zero_add]
  have hlate : lateBatch T N (turn T s t + j * T) = lateOn T N s t j := by
    have hdvd : T ∣ turn T s t + j * T ↔ turn T s t = 0 := by
      rw [Nat.dvd_add_left (Nat.dvd_mul_left T j)]
      exact ⟨fun h => Nat.eq_zero_of_dvd_of_lt h (turn_lt hT s t), fun h => h ▸ Nat.dvd_zero T⟩
    have hturn : turn T s t = 0 ↔ t = s := by
      constructor
      · intro h
        by_contra hne
        have := turn_pos hT ht (s := s) (by rw [Nat.mod_eq_of_lt hs]; exact Ne.symm hne)
        omega
      · rintro rfl
        exact turn_of_mod_eq hT ht (Nat.mod_eq_of_lt ht)
    refine decide_eq_decide.mpr ⟨fun ⟨hodd, h⟩ => ?_, fun ⟨h, hodd⟩ => ?_⟩
    · have h0 := hdvd.mp h
      rw [h0, Nat.zero_add] at hodd
      exact ⟨hturn.mp h0, hodd⟩
    · have h0 := hturn.mpr h
      refine ⟨?_, hdvd.mpr h0⟩
      rwa [h0, Nat.zero_add]
  refine ⟨batches[turn T s t + j * T].length - 1, ?_, fun hnext => ?_⟩
  · rw [List.getElem_map, ← hb, counts_batch hsent hN hi (hbound _ hi), hdiv, hlate]
  · rw [List.length_map] at hnext
    have hget' := getElem?_deal hT ht batches s (j + 1)
    rw [List.getElem?_eq_getElem hnext] at hget'
    obtain ⟨hi', -⟩ := List.getElem?_eq_some_iff.mp hget'.symm
    rw [Nat.succ_mul] at hi'
    rw [(hsent.full (turn T s t + j * T) (by omega)).unique hN]
    omega

end

end KrakenMare
