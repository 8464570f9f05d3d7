import KrakenMare.Pipeline.Unbatched

/-!
# Which subtopic a message goes to

An agent that batches turns to the next subtopic after every batch, in the flush branch of
`mqtt_send_triplet_batch`, so its messages are spread evenly over the subtopics.  An agent that
does not batch counts every message for the current subtopic but never turns, so its messages all
go to the subtopic it started with, which is drawn at random.

* `publishedOn_bounds` — after `p` messages in turn no subtopic is ahead of another by more than
  one.
* `RoundRobin` — the property: the `i`-th message goes to the subtopic whose turn it is, and the
  batch counters count the messages of their subtopics, from 1 on.
* `Batched.roundRobin` — what keeps it for an agent that batches.
* `Stationary` — an agent that does not batch, with its counters; `Stationary.roundRobin_iff` says
  that the rotation is kept only where there is nothing to rotate.
* **`round_robin_iff`** — at all times of a run the messages go round exactly when the agent
  batches, or there is one subtopic, or at most one record is sent.
* `unbatched_stays` — two records on two subtopics, both of them on the first.

The left-over batch at the limit goes to the subtopic whose turn it is, too, but the agent counts
it without turning, because nothing follows; the equivalence is about agents without a limit, which
leave none over.
-/

namespace KrakenMare

namespace AgentCommon

variable {Bytes : Type}

/-! ## Counting -/

/-- Every subtopic has its turn. -/
lemma exists_turn {T t : ℕ} (ht : t < T) (s : ℕ) : ∃ v, (s + v) % T = t := by
  have hlt := Nat.mod_lt s (Nat.zero_lt_of_lt ht)
  have hsplit := Nat.div_add_mod s T
  refine ⟨t + (T - s % T), ?_⟩
  have hsum : s + (t + (T - s % T)) = t + T * (s / T + 1) := by
    rw [Nat.mul_add, Nat.mul_one]
    omega
  rw [hsum, Nat.add_mul_mod_self_left, Nat.mod_eq_of_lt ht]

lemma publishedOn_bounds {T t : ℕ} (ht : t < T) (s p : ℕ) :
    p / T ≤ publishedOn T s t p ∧ publishedOn T s t p ≤ p / T + 1 := by
  obtain ⟨v, rfl⟩ := exists_turn ht s
  rw [publishedOn_eq (Nat.zero_lt_of_lt ht)]
  split_ifs <;> omega

lemma publishedOn_still {T s t : ℕ} : ∀ {p : ℕ}, (∀ i < p, (s + i) % T = s) →
    publishedOn T s t p = if s = t then p else 0
  | 0, _ => by simp [publishedOn]
  | p + 1, h => by
      rw [publishedOn_succ, publishedOn_still fun i hi => h i (Nat.lt_succ_of_lt hi),
        h p (Nat.lt_succ_self p)]
      split_ifs <;> rfl

/-- The number of messages an agent has published on a subtopic. -/
def messagesOn (topic : String) (t : ℕ) (a : AgentCommon Bytes) : ℕ :=
  (a.publications.map Publication.topic).count (subtopic topic t)

lemma count_topics (topic : String) (T s t : ℕ) : ∀ p : ℕ,
    ((List.range p).map fun i => subtopic topic ((s + i) % T)).count (subtopic topic t)
      = publishedOn T s t p
  | 0 => by simp [publishedOn]
  | p + 1 => by
      rw [List.range_succ, List.map_append, List.count_append, count_topics topic T s t p,
        publishedOn_succ]
      by_cases h : (s + p) % T = t
      · simp [h]
      · have hne : subtopic topic ((s + p) % T) ≠ subtopic topic t := fun he =>
          h (subtopic_injective he)
        simp [h, hne]

/-! ## The property -/

/-- The `i`-th message goes to subtopic `(s + i) % T`, which spreads the messages evenly, and the
counters count them. -/
structure RoundRobin (topic : String) (T s : ℕ) (a : AgentCommon Bytes) : Prop where
  turns : ∀ i p, a.publications[i]? = some p → p.topic = subtopic topic ((s + i) % T)
  balanced : ∀ t < T, ∀ t' < T, messagesOn topic t a ≤ messagesOn topic t' a + 1
  current : a.myCurrentSubtopic < T
  counters : ∀ t < T, ∃ c, a.myBatchCounter[t]? = some c ∧ c - 1 = messagesOn topic t a

variable {topic : String} {T s p : ℕ} {a : AgentCommon Bytes}

/-- Messages whose topics go round, with counters that count them, go round evenly. -/
theorem roundRobin_of_topics (hcurrent : a.myCurrentSubtopic < T)
    (htopics : a.publications.map Publication.topic
      = (List.range p).map fun i => subtopic topic ((s + i) % T))
    (hcounters : a.myBatchCounter = (List.range T).map fun t => 1 + publishedOn T s t p) :
    RoundRobin topic T s a := by
  have hon : ∀ t, messagesOn topic t a = publishedOn T s t p := fun t => by
    rw [messagesOn, htopics, count_topics]
  refine ⟨fun i x hx => ?_, fun t ht t' ht' => ?_, hcurrent, fun t ht => ?_⟩
  · have htopic : (a.publications.map Publication.topic)[i]? = some x.topic := by simp [hx]
    have hi : i < p := by
      by_contra hge
      rw [htopics, List.getElem?_eq_none (by simpa using hge)] at htopic
      exact absurd htopic (by simp)
    rw [htopics, List.getElem?_map, List.getElem?_range hi] at htopic
    exact (Option.some.inj htopic).symm
  · rw [hon, hon]
    have h := publishedOn_bounds ht s p
    have h' := publishedOn_bounds ht' s p
    omega
  · refine ⟨1 + publishedOn T s t p, ?_, ?_⟩
    · rw [hcounters, List.getElem?_map, List.getElem?_range ht]
      rfl
    · rw [hon, Nat.add_sub_cancel_left]

/-! ## The two modes -/

variable {S : MessageSerializer Bytes} {getsizeof : ℕ → ℕ} {args : SendArgs}
  {records : List SendTimeSeriesDruid}

lemma topics_numbered (T s : ℕ) (batches : List (List SendTimeSeriesDruid)) :
    (numbered S args T s batches).map Publication.topic
      = (List.range batches.length).map fun i => subtopic args.topic ((s + i) % T) := by
  induction batches using List.reverseRecOn with
  | nil => rfl
  | append_singleton batches b ih =>
      rw [numbered_concat, List.map_append, ih, List.length_append, List.length_singleton,
        List.range_succ, List.map_append]
      rfl

/-- Batches go round. -/
lemma Batched.roundRobin (h : Batched S getsizeof args T s records a) (hT : 0 < T) :
    RoundRobin args.topic T s a := by
  obtain ⟨batches, hrun, -⟩ := h
  refine roundRobin_of_topics (p := batches.length) ?_ ?_ hrun.counters
  · rw [hrun.current]
    exact Nat.mod_lt _ hT
  · rw [hrun.published, topics_numbered]

/-- A running agent that does not batch, with its counters, of which only that of the subtopic it
began with has moved. -/
structure Stationary (S : MessageSerializer Bytes) (args : SendArgs) (T s : ℕ)
    (records : List SendTimeSeriesDruid) (a : AgentCommon Bytes) : Prop extends
    Single S args s records a where
  counters : a.myBatchCounter
    = (List.range T).map fun t => 1 + if s = t then records.length else 0

lemma stationary_start (enable : Bool) :
    Stationary S args T s [] (start enable T s : AgentCommon Bytes) :=
  ⟨⟨rfl, rfl, rfl, rfl⟩, by simp [start, setMqttNumberOfPublishingTopics, init]⟩

/-- **One record** leaves the agent on the subtopic it started with, and counts one more message
there. -/
theorem accepting_stationary (hb : args.byteBatchSize = 0) :
    Accepting S getsizeof args (Stationary S args T s) where
  counted := fun h => h.counted
  running := fun h => h.running
  accept := by
    rintro records a h r
    refine ⟨h.toSingle.accept hb r, ?_⟩
    have hsave := (h.toSingle.saveSender r).current
    have hcounter : (a.saveSender args r).myBatchCounter = a.myBatchCounter := by
      rw [saveSender_eq]
    unfold acceptRecord
    rw [if_neg (by omega)]
    show (a.saveSender args r).myBatchCounter.modify (a.saveSender args r).myCurrentSubtopic _ = _
    rw [hsave, hcounter, h.counters, modify_map_range]
    refine List.map_congr_left fun t _ => ?_
    rw [List.length_append, List.length_singleton]
    split_ifs <;> omega

/-- Without batching the messages go round if there is one subtopic, or no more than one message. -/
lemma Stationary.roundRobin_iff (h : Stationary S args T s records a) (hs : s < T) :
    RoundRobin args.topic T s a ↔ T = 1 ∨ records.length ≤ 1 := by
  have htopics : a.publications.map Publication.topic
      = List.replicate records.length (subtopic args.topic s) := by
    rw [h.published, singles, List.map_map]
    exact List.map_const' ..
  constructor
  · intro hrobin
    by_contra hmany
    rw [not_or, not_le] at hmany
    have hsecond : (a.publications.map Publication.topic)[1]? = some (subtopic args.topic s) := by
      rw [htopics, List.getElem?_replicate, if_pos hmany.2]
    rw [List.getElem?_map] at hsecond
    obtain ⟨p, hp, htopic⟩ := Option.map_eq_some_iff.mp hsecond
    have hturn : (s + 1) % T = s := subtopic_injective ((hrobin.turns 1 p hp).symm.trans htopic)
    rcases Nat.lt_or_ge (s + 1) T with hlt | hge
    · rw [Nat.mod_eq_of_lt hlt] at hturn
      omega
    · have hlast : s + 1 = T := by omega
      rw [hlast, Nat.mod_self] at hturn
      omega
  · intro hfew
    have hturn : ∀ i < records.length, (s + i) % T = s := by
      intro i hi
      rcases hfew with rfl | hfew
      · omega
      · obtain rfl : i = 0 := by omega
        exact Nat.mod_eq_of_lt hs
    refine roundRobin_of_topics (p := records.length) (h.current ▸ hs) ?_ ?_
    · have hsame : ∀ i ∈ List.range records.length,
          subtopic args.topic ((s + i) % T) = subtopic args.topic s := fun i hi => by
        rw [hturn i (List.mem_range.mp hi)]
      rw [htopics, List.map_congr_left hsame, List.map_const', List.length_range]
    · rw [h.counters]
      exact List.map_congr_left fun t _ => by rw [publishedOn_still hturn]

/-! ## Any sequence of calls -/

/-- **Round robin.**  Without a send limit the messages are spread in turn at all times exactly when
the agent batches, or there is only one subtopic, or no more than one record is sent. -/
theorem round_robin_iff (S : MessageSerializer Bytes) (getsizeof : ℕ → ℕ) (args : SendArgs)
    (enable : Bool) {T s : ℕ} (hs : s < T) (hlimit : args.sendNumberOfMessages < 0)
    (lists : List (List SendTimeSeriesDruid)) :
    (∀ done, done <+: lists →
      RoundRobin args.topic T s ((start enable T s).sendAll S getsizeof args done)) ↔
    0 < args.byteBatchSize ∨ T = 1 ∨ lists.flatten.length ≤ 1 := by
  have hnever : ∀ records, ¬ LimitHit args.sendNumberOfMessages records := fun _ hhit =>
    absurd hhit.1 (not_le.mpr hlimit)
  rcases Nat.eq_zero_or_pos args.byteBatchSize with hb | hb
  · have hrun : ∀ done : List (List SendTimeSeriesDruid), Stationary S args T s done.flatten
        ((start enable T s).sendAll S getsizeof args done) := fun done =>
      (follows_sendAll (accepting_stationary hb) (stationary_start enable) done).running (hnever _)
    constructor
    · intro h
      exact Or.inr (((hrun lists).roundRobin_iff hs).mp (h lists (List.prefix_refl lists)))
    · rintro h done ⟨rest, rfl⟩
      refine ((hrun done).roundRobin_iff hs).mpr ?_
      rw [List.flatten_append, List.length_append] at h
      omega
  · have hrun : ∀ done : List (List SendTimeSeriesDruid),
        Batched S getsizeof args T s done.flatten _ := fun done =>
      (follows_sendAll (accepting_batched (Nat.zero_lt_of_lt hs) hb) (batched_start enable hs)
        done).running (hnever _)
    exact ⟨fun _ => Or.inl hb, fun _ done _ => (hrun done).roundRobin (Nat.zero_lt_of_lt hs)⟩

/-- Seven batches of one record on three subtopics, beginning with the last one. -/
theorem round_robin_three_subtopics :
    RoundRobin "ibswitch" 3 2 ((start false 3 2).sendAll structuralSerializer listSizeof
      ⟨"ibswitch", -1, 80, ⟨7⟩, false⟩ [List.replicate 7 ⟨1570135369000, ⟨5⟩, .finite 0⟩]) :=
  (round_robin_iff structuralSerializer listSizeof ⟨"ibswitch", -1, 80, ⟨7⟩, false⟩ false
    (by decide) (by decide) _).mpr (Or.inl (by decide)) _ (List.prefix_refl _)

/-- The second record follows the first to subtopic 0, although it is the turn of subtopic 1. -/
theorem unbatched_stays :
    ¬ RoundRobin "ibswitch" 2 0 ((start false 2 0).sendAll structuralSerializer listSizeof
      ⟨"ibswitch", -1, 0, ⟨7⟩, false⟩ [List.replicate 2 ⟨1570135369000, ⟨5⟩, .finite 0⟩]) :=
  fun h => absurd (h.turns 1 _ rfl) (by decide)

end AgentCommon

end KrakenMare
