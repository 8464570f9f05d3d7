import KrakenMare.Agent.SendLoop
import Mathlib.Data.Nat.Count
import Mathlib.Data.Int.CardIntervalMod
import Mathlib.Data.List.Flatten
import Mathlib.Tactic.Ring

/-!
# What the batching sender has done so far

`Running` relates an agent that has not hit its limit to the records it accepted and to the batches
it cut them into.  Everything said about batched sending follows from it: the batches and
`myByteBatch` together are the accepted records in order, the `i`-th batch went to subtopic `(s +
i) % T`, and the batch counters count the batches of each subtopic.

**When a batch is cut** is said separately, by `Cut`: every batch is full, and the pending records
are not.  Full means that the list has just grown to `byteBatchSize` (`Fills`); there is at most
one such length, and none if `getsizeof` never gets there, in which case nothing is published
before the limit.

* `Running.accept` — **accepting one record keeps the relation**: it joins the pending ones, and
  these become a batch exactly when the list has grown to `byteBatchSize`.
* `accepting_batched` — so it holds along the loop, whatever lists the records come in.
* `Follows.sent` — what others can see of it (`Sent`), the left-over batch at the limit included.

The batch counters are closed forms here: after `p` publications the counter of a subtopic is 1
plus the number of turns it has had, which `publishedOn_eq` computes.
-/

namespace KrakenMare

namespace AgentCommon

variable {Bytes : Type} (S : MessageSerializer Bytes) (getsizeof : ℕ → ℕ) (args : SendArgs)

/-! ## Round robin -/

/-- How many of the first `p` publications, starting from subtopic `s`, go to subtopic `t`. -/
def publishedOn (T s t p : ℕ) : ℕ := p.count fun i => (s + i) % T = t

lemma publishedOn_succ (T s t p : ℕ) :
    publishedOn T s t (p + 1) = publishedOn T s t p + if (s + p) % T = t then 1 else 0 :=
  Nat.count_succ ..

/-- The subtopic `v` turns after `s` has had every `T`-th publication, and one more if its turn in
the unfinished round is over. -/
lemma publishedOn_eq {T : ℕ} (hT : 0 < T) (s v p : ℕ) :
    publishedOn T s ((s + v) % T) p = p / T + if v % T < p % T then 1 else 0 := by
  have hmod : (fun i => (s + i) % T = (s + v) % T) = (· ≡ v [MOD T]) := by
    funext i
    exact propext ⟨Nat.ModEq.add_left_cancel' s, fun h => Nat.ModEq.add_left s h⟩
  rw [← Nat.count_modEq_card p hT v, publishedOn]
  simp only [hmod]

/-- The subtopic whose turn it is. -/
lemma publishedOn_current {T : ℕ} (hT : 0 < T) (s p : ℕ) :
    publishedOn T s ((s + p) % T) p = p / T := by
  rw [publishedOn_eq hT, if_neg (lt_irrefl _), Nat.add_zero]

lemma modify_map_range (T c : ℕ) (f : ℕ → ℕ) :
    ((List.range T).map f).modify c (· + 1)
      = (List.range T).map fun t => f t + if c = t then 1 else 0 := by
  refine List.ext_getElem (by simp) fun i hi _ => ?_
  simp only [List.length_modify, List.length_map, List.length_range] at hi
  rw [List.getElem_modify]
  split_ifs with h <;> simp [h]

/-- The publications of a list of batches, the first of them on subtopic `s`. -/
def numbered (T s : ℕ) (batches : List (List SendTimeSeriesDruid)) : List (Publication Bytes) :=
  batches.zipIdx.map fun x => ⟨subtopic args.topic ((s + x.2) % T), S.encodeBatch x.1⟩

lemma numbered_concat (T s : ℕ) (batches : List (List SendTimeSeriesDruid))
    (b : List SendTimeSeriesDruid) :
    numbered S args T s (batches ++ [b]) = numbered S args T s batches
      ++ [⟨subtopic args.topic ((s + batches.length) % T), S.encodeBatch b⟩] := by
  simp [numbered, List.zipIdx_append]

/-! ## The relation -/

/-- A list grown record by record is flushed at length `k`, and at no shorter one. -/
def Fills (k : ℕ) : Prop :=
  0 < k ∧ getsizeof k ≥ args.byteBatchSize ∧
    ∀ j, 0 < j → j < k → getsizeof j < args.byteBatchSize

/-- `a` is an agent below its limit that accepted `records` and published `batches`. -/
structure Running (T s : ℕ) (records : List SendTimeSeriesDruid)
    (batches : List (List SendTimeSeriesDruid)) (a : AgentCommon Bytes) : Prop where
  topics : a.myAgentMqttNumberOfPublishingTopics = T
  current : a.myCurrentSubtopic = (s + batches.length) % T
  counters : a.myBatchCounter
    = (List.range T).map fun t => 1 + publishedOn T s t batches.length
  published : a.publications = numbered S args T s batches
  conserved : batches.flatten ++ a.myByteBatch = records
  counted : a.myMessageCounter = records.length
  running : a.exited = false

/-- The batches after one more record, which ends the one it belongs to if the list is then large
enough. -/
def batchesAfter (batches : List (List SendTimeSeriesDruid)) (pending : List SendTimeSeriesDruid)
    (r : SendTimeSeriesDruid) : List (List SendTimeSeriesDruid) :=
  if getsizeof (pending.length + 1) ≥ args.byteBatchSize then batches ++ [pending ++ [r]]
  else batches

/-- `myByteBatch` after one more record: empty again if it has been flushed. -/
def pendingAfter (pending : List SendTimeSeriesDruid) (r : SendTimeSeriesDruid) :
    List SendTimeSeriesDruid :=
  if getsizeof (pending.length + 1) ≥ args.byteBatchSize then [] else pending ++ [r]

/-- Every batch was cut as soon as it was full, and the pending records are not a full one. -/
structure Cut (batches : List (List SendTimeSeriesDruid)) (pending : List SendTimeSeriesDruid) :
    Prop where
  full : ∀ b ∈ batches, Fills getsizeof args b.length
  growing : ∀ j, 0 < j → j ≤ pending.length → getsizeof j < args.byteBatchSize

variable {S getsizeof args} {T s : ℕ} {records : List SendTimeSeriesDruid}
  {batches : List (List SendTimeSeriesDruid)} {a : AgentCommon Bytes}

lemma Fills.unique {j k : ℕ} (hj : Fills getsizeof args j) (hk : Fills getsizeof args k) :
    j = k := by
  rcases Nat.lt_trichotomy j k with h | h | h
  · exact absurd hj.2.1 (not_le.mpr (hk.2.2 j hj.1 h))
  · exact h
  · exact absurd hk.2.1 (not_le.mpr (hj.2.2 k hk.1 h))

/-- Records that have not been flushed are fewer than a full batch. -/
lemma Cut.length_pending {pending : List SendTimeSeriesDruid}
    (h : Cut getsizeof args batches pending) {N : ℕ} (hN : Fills getsizeof args N) :
    pending.length < N := by
  by_contra hge
  exact absurd hN.2.1 (not_le.mpr (h.growing N hN.1 (not_lt.mp hge)))

lemma running_start (enable : Bool) (hs : s < T) :
    Running S args T s [] [] (start enable T s : AgentCommon Bytes) where
  topics := rfl
  current := by simp [start, setMqttNumberOfPublishingTopics, Nat.mod_eq_of_lt hs]
  counters := by simp [start, setMqttNumberOfPublishingTopics, init, publishedOn]
  published := rfl
  conserved := rfl
  counted := rfl
  running := rfl

lemma cut_start : Cut getsizeof args [] [] where
  full := by simp
  growing := fun j h0 hj => absurd hj (by simpa using h0.ne')

/-- The counter an agent stamps on a record: batches already sent on the current subtopic, plus
one. -/
lemma Running.currentCounter (h : Running S args T s records batches a) (hT : 0 < T) :
    a.myBatchCounter[a.myCurrentSubtopic]? = some (1 + batches.length / T) := by
  have hlt : (s + batches.length) % T < T := Nat.mod_lt _ hT
  rw [h.counters, h.current, List.getElem?_map, List.getElem?_range hlt, Option.map_some,
    publishedOn_current hT]

lemma Running.saveSender (h : Running S args T s records batches a) (r : SendTimeSeriesDruid) :
    Running S args T s records batches (a.saveSender args r) := by
  rw [saveSender_eq]
  exact ⟨h.topics, h.current, h.counters, h.published, h.conserved, h.counted, h.running⟩

lemma Running.appendRecord (h : Running S args T s records batches a) (r : SendTimeSeriesDruid) :
    Running S args T s (records ++ [r]) batches (a.appendRecord r) where
  topics := h.topics
  current := h.current
  counters := h.counters
  published := h.published
  conserved := by rw [← h.conserved]; exact (List.append_assoc ..).symm
  counted := by simp [AgentCommon.appendRecord, h.counted]
  running := h.running

/-! ### Publishing a batch -/

lemma publications_publishBatch (a : AgentCommon Bytes) :
    (a.publishBatch S args).publications = a.publications
      ++ [⟨subtopic args.topic a.myCurrentSubtopic, S.encodeBatch a.myByteBatch⟩] := by
  simp [publishBatch, mqttSendByteBatchAvroTsMsg, countBatch, publications,
    AgentEffect.publication?]

lemma publications_nextSubtopic (a : AgentCommon Bytes) :
    a.nextSubtopic.publications = a.publications := by
  rw [nextSubtopic_eq]
  rfl

lemma counters_publishBatch (h : Running S args T s records batches a) :
    (a.publishBatch S args).myBatchCounter
      = (List.range T).map fun t => 1 + publishedOn T s t (batches.length + 1) := by
  show a.myBatchCounter.modify a.myCurrentSubtopic (· + 1) = _
  rw [h.counters, h.current, modify_map_range]
  simp only [publishedOn_succ, Nat.add_assoc]

/-- The rotation is addition modulo `T`. -/
lemma current_nextSubtopic (hT : 0 < T) (htopics : a.myAgentMqttNumberOfPublishingTopics = T)
    {p : ℕ} (hcur : a.myCurrentSubtopic = p % T) :
    a.nextSubtopic.myCurrentSubtopic = (p + 1) % T := by
  have hlt := Nat.mod_lt p hT
  unfold nextSubtopic
  rw [htopics]
  split_ifs with h1 h2
  · rw [hcur] at h2
    simp only [hcur]
    rw [Nat.add_mod, Nat.mod_eq_of_lt (a := 1) h1, Nat.mod_eq_of_lt (a := p % T + 1) (by omega)]
  · have hlast : p % T = T - 1 := by omega
    show 0 = (p + 1) % T
    rw [Nat.add_mod, hlast, Nat.mod_eq_of_lt (a := 1) h1, Nat.sub_add_cancel hT, Nat.mod_self]
  · have hone : T = 1 := by omega
    subst hone
    rw [hcur, Nat.mod_one, Nat.mod_one]

/-- The size-triggered flush cuts one more batch off the accepted records. -/
lemma Running.flush (h : Running S args T s records batches a) (hT : 0 < T) :
    Running S args T s records (batches ++ [a.myByteBatch])
      { (a.publishBatch S args).nextSubtopic with myByteBatch := [] } where
  topics := by
    show (a.publishBatch S args).nextSubtopic.myAgentMqttNumberOfPublishingTopics = T
    rw [nextSubtopic_eq]
    exact h.topics
  current := by
    rw [List.length_append, List.length_singleton, ← Nat.add_assoc]
    exact current_nextSubtopic (a := a.publishBatch S args) hT h.topics h.current
  counters := by
    show (a.publishBatch S args).nextSubtopic.myBatchCounter = _
    rw [List.length_append, List.length_singleton, ← counters_publishBatch h, nextSubtopic_eq]
  published := by
    rw [numbered_concat, ← h.current, ← h.published]
    show (a.publishBatch S args).nextSubtopic.publications = _
    rw [publications_nextSubtopic, publications_publishBatch]
  conserved := by
    rw [← h.conserved]
    simp
  counted := by
    show (a.publishBatch S args).nextSubtopic.myMessageCounter = _
    rw [nextSubtopic_eq]
    exact h.counted
  running := by
    show (a.publishBatch S args).nextSubtopic.exited = false
    rw [nextSubtopic_eq]
    exact h.running

variable (getsizeof) in
/-- **The step.**  A record below the limit is accepted: it joins the pending ones, and these
become a batch exactly when the list has grown to `byteBatchSize`. -/
theorem Running.accept (h : Running S args T s records batches a) (hT : 0 < T)
    (hb : 0 < args.byteBatchSize) (r : SendTimeSeriesDruid) :
    Running S args T s (records ++ [r])
      (batchesAfter getsizeof args batches a.myByteBatch r)
      (a.acceptRecord S getsizeof args r) := by
  have hbatch : (a.saveSender args r).myByteBatch = a.myByteBatch := by
    rw [saveSender_eq]
  have happ := (h.saveSender r).appendRecord r
  have hlen : ((a.saveSender args r).appendRecord r).myByteBatch = a.myByteBatch ++ [r] := by
    rw [← hbatch]
    rfl
  unfold acceptRecord batchesAfter
  rw [if_pos hb]
  simp only [hlen, List.length_append, List.length_singleton]
  split_ifs
  · exact hlen ▸ happ.flush hT
  · exact happ

variable (getsizeof) in
lemma myByteBatch_acceptRecord (hb : 0 < args.byteBatchSize) (a : AgentCommon Bytes)
    (r : SendTimeSeriesDruid) :
    (a.acceptRecord S getsizeof args r).myByteBatch
      = pendingAfter getsizeof args a.myByteBatch r := by
  have hbatch : (a.saveSender args r).myByteBatch = a.myByteBatch := by
    rw [saveSender_eq]
  unfold acceptRecord
  rw [if_pos hb]
  simp only [appendRecord, hbatch, pendingAfter, List.length_append, List.length_singleton]
  split_ifs <;> rfl

/-- One more record, cut as the flush test says: it ends a batch that has just become full, or
waits. -/
lemma Cut.accept {pending : List SendTimeSeriesDruid} (h : Cut getsizeof args batches pending)
    (r : SendTimeSeriesDruid) :
    Cut getsizeof args (batchesAfter getsizeof args batches pending r)
      (pendingAfter getsizeof args pending r) := by
  unfold batchesAfter pendingAfter
  split_ifs with hsize
  · refine ⟨?_, cut_start.growing⟩
    intro b hb
    rcases List.mem_append.mp hb with hb | hb
    · exact h.full b hb
    · obtain rfl := List.mem_singleton.mp hb
      refine ⟨by simp, by simpa using hsize, ?_⟩
      intro j h0 hj
      exact h.growing j h0 (by simpa [Nat.lt_succ_iff] using hj)
  · refine ⟨h.full, ?_⟩
    intro j h0 hj
    rcases Nat.lt_or_ge j (pending.length + 1) with hlt | hge
    · exact h.growing j h0 (by omega)
    · have : j = pending.length + 1 := by
        simp only [List.length_append, List.length_singleton] at hj
        omega
      subst this
      exact not_le.mp hsize

/-! ## Every stream -/

/-- Running, with some batches cut so far, all of them where the flush test says. -/
def Batched (S : MessageSerializer Bytes) (getsizeof : ℕ → ℕ) (args : SendArgs) (T s : ℕ)
    (records : List SendTimeSeriesDruid) (a : AgentCommon Bytes) : Prop :=
  ∃ batches, Running S args T s records batches a ∧ Cut getsizeof args batches a.myByteBatch

lemma batched_start (enable : Bool) (hs : s < T) :
    Batched S getsizeof args T s [] (start enable T s : AgentCommon Bytes) :=
  ⟨[], running_start enable hs, cut_start⟩

/-- The relation goes along the loop: it is one that every accepted record keeps, so that it holds
after any calls. -/
theorem accepting_batched (hT : 0 < T) (hb : 0 < args.byteBatchSize) :
    Accepting S getsizeof args (Batched S getsizeof args T s) where
  counted := fun ⟨_, h, _⟩ => h.counted
  running := fun ⟨_, h, _⟩ => h.running
  accept := by
    rintro records a ⟨batches, h, hcut⟩ r
    have hcut' := hcut.accept r
    rw [← myByteBatch_acceptRecord (S := S) getsizeof hb a r] at hcut'
    exact ⟨_, h.accept getsizeof hT hb r, hcut'⟩

/-! ## What others can see

Once the limit has been hit the process is gone and what it left in `myByteBatch` with it, so that
only a living agent has pending records.
-/

/-- The records that the agent still holds and may publish.  When it is gone, what is left in the
list does not count. -/
def pending (a : AgentCommon Bytes) : List SendTimeSeriesDruid :=
  if a.exited then [] else a.myByteBatch

/-- What an agent has published and kept after a stream of records.  All batches but the last are
full, and the last is no more than full. -/
structure Sent (S : MessageSerializer Bytes) (getsizeof : ℕ → ℕ) (args : SendArgs) (T s : ℕ)
    (stream : List SendTimeSeriesDruid) (batches : List (List SendTimeSeriesDruid))
    (a : AgentCommon Bytes) : Prop where
  published : a.publications = numbered S args T s batches
  conserved : batches.flatten ++ a.pending = limited args.sendNumberOfMessages stream
  counted : a.myMessageCounter = (limited args.sendNumberOfMessages stream).length
  counters : a.myBatchCounter
    = (List.range T).map fun t => 1 + publishedOn T s t batches.length
  exited : a.exited = true ↔ LimitHit args.sendNumberOfMessages stream
  nonempty : ∀ b ∈ batches, b ≠ []
  full : ∀ i (hi : i + 1 < batches.length), Fills getsizeof args batches[i].length
  atMostFull : ∀ b ∈ batches, ∀ j, 0 < j → j < b.length → getsizeof j < args.byteBatchSize

variable {stream : List SendTimeSeriesDruid}

lemma Sent.mem_stream (h : Sent S getsizeof args T s stream batches a)
    {b : List SendTimeSeriesDruid} (hb : b ∈ batches) {r : SendTimeSeriesDruid} (hr : r ∈ b) :
    r ∈ stream := by
  refine (limited_isPrefix args.sendNumberOfMessages stream).subset ?_
  rw [← h.conserved]
  exact List.mem_append_left _ (List.mem_flatten_of_mem hb hr)

lemma Fills.ne_nil {b : List SendTimeSeriesDruid} (h : Fills getsizeof args b.length) : b ≠ [] :=
  List.ne_nil_of_length_pos h.1

/-- At the limit the left-over batch is published, if there is one, and nothing else. -/
lemma publications_atLimit (hb : 0 < args.byteBatchSize) (a : AgentCommon Bytes) :
    (a.atLimit S args).publications = a.publications ++ if a.myByteBatch = [] then []
      else [⟨subtopic args.topic a.myCurrentSubtopic, S.encodeBatch a.myByteBatch⟩] := by
  have hreport : ∀ c : AgentCommon Bytes,
      (c.batchCountReport args).filterMap AgentEffect.publication? = [] := by
    intro c
    simp [batchCountReport, AgentEffect.publication?]
  by_cases hp : a.myByteBatch = []
  · by_cases hm : args.mqttBatchCountEnabled = true
    · simp [atLimit, hp, hm, publications, hreport, AgentEffect.publication?]
    · simp [atLimit, hp, hm, publications, AgentEffect.publication?]
  · have hpub : (a.publishBatch S args).publications = _ := publications_publishBatch a
    have hlen : args.byteBatchSize > 0 ∧ a.myByteBatch.length > 0 :=
      ⟨hb, List.length_pos_of_ne_nil hp⟩
    rw [if_neg hp, ← hpub]
    by_cases hm : args.mqttBatchCountEnabled = true
    · simp [atLimit, if_pos hlen, hm, publications, hreport, AgentEffect.publication?]
    · simp [atLimit, if_pos hlen, hm, publications, AgentEffect.publication?]

/-- The left-over records become the last batch. -/
lemma Running.sent_atLimit (hrun : Running S args T s (limited args.sendNumberOfMessages stream)
      batches a) (hcut : Cut getsizeof args batches a.myByteBatch) (hb : 0 < args.byteBatchSize)
    (hlim : LimitHit args.sendNumberOfMessages stream) :
    Sent S getsizeof args T s stream
      (if a.myByteBatch = [] then batches else batches ++ [a.myByteBatch])
      (a.atLimit S args) := by
  have hpending : (a.atLimit S args).pending = [] := rfl
  by_cases hp : a.myByteBatch = []
  · rw [if_pos hp]
    have hskip : ¬ (args.byteBatchSize > 0 ∧ a.myByteBatch.length > 0) := by simp [hp]
    refine ⟨?_, ?_, ?_, ?_, by simp [atLimit, hlim], ?_, ?_, ?_⟩
    · rw [publications_atLimit hb, if_pos hp, List.append_nil, hrun.published]
    · rw [← hrun.conserved, hpending, hp]
    · rw [← hrun.counted, atLimit, if_neg hskip]
    · rw [← hrun.counters, atLimit, if_neg hskip]
    · exact fun b hmem => (hcut.full b hmem).ne_nil
    · exact fun i hi => hcut.full _ (List.getElem_mem _)
    · exact fun b hmem => (hcut.full b hmem).2.2
  · rw [if_neg hp]
    have hleft : args.byteBatchSize > 0 ∧ a.myByteBatch.length > 0 :=
      ⟨hb, List.length_pos_of_ne_nil hp⟩
    refine ⟨?_, ?_, ?_, ?_, by simp [atLimit, hlim], ?_, ?_, ?_⟩
    · rw [publications_atLimit hb, if_neg hp, numbered_concat, hrun.published, hrun.current]
    · rw [← hrun.conserved, hpending]
      simp
    · rw [← hrun.counted, atLimit, if_pos hleft]
      rfl
    · rw [List.length_append, List.length_singleton, ← counters_publishBatch hrun, atLimit,
        if_pos hleft]
    · intro b hmem
      rcases List.mem_append.mp hmem with hmem | hmem
      · exact (hcut.full b hmem).ne_nil
      · exact List.mem_singleton.mp hmem ▸ hp
    · intro i hi
      have hi' : i < batches.length := by simpa using hi
      rw [List.getElem_append_left hi']
      exact hcut.full _ (List.getElem_mem _)
    · intro b hmem j h0 hj
      rcases List.mem_append.mp hmem with hmem | hmem
      · exact (hcut.full b hmem).2.2 j h0 hj
      · obtain rfl := List.mem_singleton.mp hmem
        exact hcut.growing j h0 hj.le

/-- What an agent has sent after a stream of records, whether it is still running or gone at its
limit. -/
theorem Follows.sent (h : Follows S args (Batched S getsizeof args T s) stream a)
    (hb : 0 < args.byteBatchSize) : ∃ batches, Sent S getsizeof args T s stream batches a := by
  by_cases hlim : LimitHit args.sendNumberOfMessages stream
  · obtain ⟨a₀, ⟨batches, hrun, hcut⟩, rfl⟩ := h.gone hlim
    exact ⟨_, hrun.sent_atLimit hcut hb hlim⟩
  · obtain ⟨batches, hrun, hcut⟩ := h.running hlim
    refine ⟨batches, hrun.published, ?_, ?_, hrun.counters, ?_, ?_, ?_, ?_⟩
    · rw [limited_of_not_hit hlim, ← hrun.conserved, pending, hrun.running]
      rfl
    · rw [limited_of_not_hit hlim, hrun.counted]
    · simp [hrun.running, hlim]
    · exact fun b hmem => (hcut.full b hmem).ne_nil
    · exact fun i hi => hcut.full _ (List.getElem_mem _)
    · exact fun b hmem => (hcut.full b hmem).2.2

end AgentCommon

end KrakenMare
