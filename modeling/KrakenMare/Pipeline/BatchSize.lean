import KrakenMare.Agent.Batching
import KrakenMare.FanIn.Acceptance
import Mathlib.Data.Nat.Find

/-!
# The size of a batch

The flush test of `mqtt_send_triplet_batch` looks at `sys.getsizeof(self.myByteBatch)`, the
allocation of the list object and not the size of what is in it, and the allocation jumps as the
list grows.  Since every batch starts from an empty list, the test nevertheless fires at the same
length each time: the least length, of at least one record, whose list reaches `byteBatchSize`.

All that is used of `sys.getsizeof` is that a list long enough reaches any size.  The one of
CPython is in `Agent.AgentCommon`, and `listSizeof_grows` shows that it does so.

* `fullLength` — the length of a full batch; it grows with `byteBatchSize` (`fullLength_mono`).
* `OneSize` — what an agent has published and left over, in terms of that length.
* `sampleCount_batch` — FanIn counts the samples of a batch that its producer accepts, at most as
  many as there are.
* **`one_batch_size`** — all batches cut by the flush test have the same length, a left-over batch
  is shorter, and so are the records that wait between two calls; FanIn counts just as many samples
  for a full batch if its producer accepts them all.
* `sample_count_full_queue` — a batch of five that is counted as four.

How the records come in does not matter, nor how they are cut into calls: a batch may span several
calls, and one call may fill several batches.
-/

namespace KrakenMare

namespace AgentCommon

/-! ## The length of a full batch -/

section
variable {getsizeof : ℕ → ℕ}

/-- A size beyond that of the empty list is reached by a list with a record in it. -/
lemma exists_full (hgrow : ∀ b, ∃ n, b ≤ getsizeof n) (b : ℕ) : ∃ n, 0 < n ∧ b ≤ getsizeof n := by
  obtain ⟨n, hn⟩ := hgrow (max b (getsizeof 0 + 1))
  refine ⟨n, ?_, (le_max_left _ _).trans hn⟩
  rcases Nat.eq_zero_or_pos n with rfl | hpos
  · have := (le_max_right b (getsizeof 0 + 1)).trans hn
    omega
  · exact hpos

/-- The least `n ≥ 1` such that a list of `n` records reaches `byteBatchSize`. -/
def fullLength (hgrow : ∀ b, ∃ n, b ≤ getsizeof n) (byteBatchSize : ℕ) : ℕ :=
  Nat.find (exists_full hgrow byteBatchSize)

lemma fills_fullLength (hgrow : ∀ b, ∃ n, b ≤ getsizeof n) (args : SendArgs) :
    Fills getsizeof args (fullLength hgrow args.byteBatchSize) := by
  obtain ⟨hpos, hsize⟩ := Nat.find_spec (exists_full hgrow args.byteBatchSize)
  refine ⟨hpos, hsize, fun j h0 hj => ?_⟩
  have hmin := Nat.find_min (exists_full hgrow args.byteBatchSize) hj
  by_contra hge
  exact hmin ⟨h0, not_lt.mp hge⟩

/-- **A larger size** never makes the batches shorter. -/
theorem fullLength_mono (hgrow : ∀ b, ∃ n, b ≤ getsizeof n) : Monotone (fullLength hgrow) := by
  intro b b' hle
  obtain ⟨hpos, hsize⟩ := Nat.find_spec (exists_full hgrow b')
  exact Nat.find_min' (exists_full hgrow b) ⟨hpos, hle.trans hsize⟩

end

/-! ## `sys.getsizeof` of CPython -/

lemma le_listCapacity : ∀ k, k ≤ listCapacity k
  | 0 => Nat.zero_le _
  | k + 1 => by
      rw [listCapacity]
      split_ifs <;> omega

lemma listSizeof_grows (b : ℕ) : ∃ n, b ≤ listSizeof n := by
  have := le_listCapacity b
  exact ⟨b, by rw [listSizeof]; omega⟩

lemma fullLength_hundred : fullLength listSizeof_grows 100 = 5 :=
  (Nat.find_eq_iff _).mpr ⟨⟨by decide, by decide⟩, by decide⟩

/-! ## Every run -/

variable {Bytes : Type} (S : MessageSerializer Bytes) (getsizeof : ℕ → ℕ) (args : SendArgs)

/-- The passes of the loop that stay below the limit, for one record after the other. -/
def acceptAll (a : AgentCommon Bytes) (records : List SendTimeSeriesDruid) : AgentCommon Bytes :=
  records.foldl (fun a r => a.acceptRecord S getsizeof args r) a

/-- The batch that `atLimit` publishes, if anything is left over; at most one. -/
def leftOver (a : AgentCommon Bytes) : List (List SendTimeSeriesDruid) :=
  if a.myByteBatch = [] then [] else [a.myByteBatch]

variable {S getsizeof args} {T s : ℕ} {a : AgentCommon Bytes}

variable (S getsizeof args) in
lemma accepting_acceptAll (enable : Bool) (hT : 0 < T) (hb : 0 < args.byteBatchSize) :
    Accepting S getsizeof args fun records a => Batched S getsizeof args T s records a ∧
      a = (start enable T s).acceptAll S getsizeof args records where
  counted := fun ⟨⟨_, h, _⟩, _⟩ => h.counted
  running := fun ⟨⟨_, h, _⟩, _⟩ => h.running
  accept := by
    rintro records a ⟨h, rfl⟩ r
    refine ⟨(accepting_batched hT hb).accept h r, ?_⟩
    rw [acceptAll, acceptAll, List.foldl_append]
    rfl

/-- What an agent that has accepted some records has published, and what it has left over. -/
structure OneSize (S : MessageSerializer Bytes) (args : SendArgs) (T s N : ℕ)
    (batches : List (List SendTimeSeriesDruid)) (a : AgentCommon Bytes) : Prop where
  published : a.publications = numbered S args T s batches
  full : ∀ b ∈ batches, b.length = N
  pending : a.myByteBatch.length < N
  atLimit : (a.atLimit S args).publications = numbered S args T s (batches ++ a.leftOver)
  left : ∀ b ∈ a.leftOver, 1 ≤ b.length ∧ b.length ≤ N - 1

/-- Batches cut by the flush test have the one length that it fires at. -/
lemma Batched.oneSize {records : List SendTimeSeriesDruid}
    (h : Batched S getsizeof args T s records a) (hb : 0 < args.byteBatchSize) {N : ℕ}
    (hN : Fills getsizeof args N) : ∃ batches, OneSize S args T s N batches a := by
  obtain ⟨batches, hrun, hcut⟩ := h
  have hpending := hcut.length_pending hN
  refine ⟨batches, hrun.published, fun b hmem => (hcut.full b hmem).unique hN, hpending, ?_, ?_⟩
  · rw [publications_atLimit hb, leftOver, hrun.published]
    split_ifs with hempty
    · rw [List.append_nil, List.append_nil]
    · rw [numbered_concat, hrun.current]
  · intro b hmem
    rw [leftOver] at hmem
    split_ifs at hmem with hempty
    · exact absurd hmem List.not_mem_nil
    · obtain rfl := List.mem_singleton.mp hmem
      have := List.length_pos_of_ne_nil hempty
      omega

/-! ### What FanIn counts -/

/-- FanIn's sample count for a message with the records `b`. -/
lemma sampleCount_batch {m : Publication Bytes} {b : List SendTimeSeriesDruid}
    (hm : m.payload = S.encodeBatch b) {producer : ℕ → ProduceOutcome} {f : FanIn Bytes}
    (hf : FanIn.Handled S producer m f) :
    FanIn.sampleCount S producer m f ≤ b.length ∧
      (FanIn.sampleCount S producer m f = b.length
        ↔ ∀ j < b.length, producer (f.produced.length + j) = .accepted) := by
  have hlen : (FanIn.recordsOf S m).length = b.length := by
    have hm' : m = ⟨m.topic, S.encodeBatch b⟩ := by rw [← hm]
    rw [hm', FanIn.recordsOf_encodeBatch, List.length_map]
  rw [← hlen]
  exact ⟨FanIn.sampleCount_le hf, FanIn.sampleCount_eq_length_iff hf⟩

/-- **One size.**  After any calls the agent has accepted records up to its limit, and is perhaps
gone.  All batches that the flush test cut hold exactly `N` records, the left-over batch holds
fewer, fewer than `N` records are pending, and `N` grows with `byteBatchSize`.  A FanIn process
that decodes a message and comes to its end counts the samples its producer accepts: `N` for a full
batch exactly if these are all of them, and fewer than `N` for a left-over one. -/
theorem one_batch_size (hgrow : ∀ b, ∃ n, b ≤ getsizeof n) (enable : Bool) (hs : s < T)
    (hb : 0 < args.byteBatchSize) (lists : List (List SendTimeSeriesDruid)) :
    let N := fullLength hgrow args.byteBatchSize
    let a := (start enable T s).sendAll S getsizeof args lists
    let a₀ := (start enable T s).acceptAll S getsizeof args
      (limited args.sendNumberOfMessages lists.flatten)
    ∃ full : List (List SendTimeSeriesDruid),
      (a₀.publications = numbered S args T s full ∧ ∀ b ∈ full, b.length = N) ∧
      (a = if LimitHit args.sendNumberOfMessages lists.flatten then a₀.atLimit S args else a₀) ∧
      ((a₀.atLimit S args).publications = numbered S args T s (full ++ a₀.leftOver) ∧
        ∀ b ∈ a₀.leftOver, 1 ≤ b.length ∧ b.length ≤ N - 1) ∧
      a.myByteBatch.length < N ∧
      (∀ byteBatchSize', args.byteBatchSize ≤ byteBatchSize' →
        N ≤ fullLength hgrow byteBatchSize') ∧
      ∀ producer m f, FanIn.Handled S producer m f →
        (∀ b ∈ full, m.payload = S.encodeBatch b → (FanIn.sampleCount S producer m f = N
          ↔ ∀ j < N, producer (f.produced.length + j) = .accepted)) ∧
        ∀ b ∈ a₀.leftOver, m.payload = S.encodeBatch b → FanIn.sampleCount S producer m f < N := by
  intro N a a₀
  have hN : Fills getsizeof args N := fills_fullLength hgrow args
  have hloop := accepting_acceptAll S getsizeof args (s := s) enable (Nat.zero_lt_of_lt hs) hb
  obtain ⟨_, ⟨hbatched, rfl⟩, hgone⟩ :=
    follows_sendAll hloop ⟨batched_start enable hs, rfl⟩ lists
  obtain ⟨full, h⟩ := hbatched.oneSize hb hN
  refine ⟨full, ⟨h.published, h.full⟩, hgone, ⟨h.atLimit, h.left⟩, ?_,
    fun b' hle => fullLength_mono hgrow hle, fun producer m f hf => ⟨?_, ?_⟩⟩
  · have hkept : a.myByteBatch = a₀.myByteBatch := by
      show (sendAll S getsizeof args _ lists).myByteBatch = _
      rw [hgone]
      split_ifs
      · rw [AgentCommon.atLimit]
        split_ifs <;> rfl
      · rfl
    rw [hkept]
    exact h.pending
  · intro b hmem hm
    have hcount := (sampleCount_batch hm hf).2
    rwa [h.full b hmem] at hcount
  · intro b hmem hm
    have hle := (sampleCount_batch hm hf).1
    have hleft := h.left b hmem
    exact (hle.trans hleft.2).trans_lt (Nat.sub_lt hN.1 Nat.one_pos)

/-- CPython, batches of at least a hundred bytes: they hold five records, and the six records of a
run limited to six leave one over. -/
theorem one_batch_size_cpython :
    let r : SendTimeSeriesDruid := ⟨1570135369000, ⟨7⟩, .ofNat 1⟩
    let args : SendArgs := ⟨"ibswitch", 6, 100, ⟨7⟩, true⟩
    let a₀ := (start true 2 1).acceptAll structuralSerializer listSizeof args
      (limited 6 [List.replicate 4 r, List.replicate 3 r].flatten)
    fullLength listSizeof_grows 100 = 5 ∧ ∃ full : List (List SendTimeSeriesDruid),
      a₀.publications = numbered structuralSerializer args 2 1 full ∧ (∀ b ∈ full, b.length = 5) ∧
      ∀ b ∈ a₀.leftOver, 1 ≤ b.length ∧ b.length ≤ 4 := by
  intro r args a₀
  obtain ⟨full, hfull, -, ⟨-, hleft⟩, -⟩ := one_batch_size (S := structuralSerializer)
    listSizeof_grows true (s := 1) (T := 2) (by decide) (by decide : 0 < args.byteBatchSize)
    [List.replicate 4 r, List.replicate 3 r]
  have hfive : fullLength listSizeof_grows args.byteBatchSize = 5 := fullLength_hundred
  rw [hfive] at hfull hleft
  exact ⟨hfive, full, hfull.1, hfull.2, hleft⟩

/-- A full queue at the third of five samples of a full batch: FanIn counts four, and goes on with
the fourth. -/
theorem sample_count_full_queue :
    let r : SendTimeSeriesDruid := ⟨1570135369000, ⟨7⟩, .ofNat 1⟩
    let args : SendArgs := ⟨"ibswitch", -1, 100, ⟨7⟩, true⟩
    let producer : ℕ → ProduceOutcome := fun n => if n = 2 then .bufferError else .accepted
    let m : Publication Message :=
      ⟨"ibswitch/0", structuralSerializer.encodeBatch (List.replicate 5 r)⟩
    let f : FanIn Message := FanIn.start "ibswitch/0" true true false
    ((start true 1 0).sendAll structuralSerializer listSizeof args
        [List.replicate 5 r]).publications = [m] ∧
      fullLength listSizeof_grows args.byteBatchSize = 5 ∧
      FanIn.Handled structuralSerializer producer m f ∧
      FanIn.sampleCount structuralSerializer producer m f = 4 := by
  intro r args producer m f
  exact ⟨by decide, fullLength_hundred, ⟨rfl, rfl, by decide⟩, by decide⟩

end AgentCommon

end KrakenMare
