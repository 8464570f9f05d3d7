import KrakenMare.Agent.AgentCommon
import Mathlib.Data.List.Induction

/-!
# The loop of `mqtt_send_triplet_batch`

What the loop does with its limit is the same in every mode of the agent, so it is proved once for
any relation `P` between the records accepted so far and the agent (`Accepting`).  Such a relation
has three duties: it knows the message counter, it is about an agent that is still there, and one
more record keeps it.

`Follows P` adds the limit: the agent is either still running, in a state that `P` describes, or
gone from such a state.  Which of the two is decided by the stream of records alone (`LimitHit`):
the limit `n` is hit by the record after the `n`-th, and a negative one never.

* `Follows.send` — a call extends the stream of records; **how the stream is cut into calls does
  not show.**
* `follows_sendAll` — the same for any sequence of calls, starting from a new agent.

`Agent.Batching` has the relation for the batched mode and `Pipeline.Unbatched` the one for the
mode without batches.  Everything about whole runs of a sender goes through these two lemmas.
-/

namespace KrakenMare

namespace AgentCommon

/-! ## The limit -/

/-- What a limit `n` leaves of a stream of records; a negative limit never equals the message
counter. -/
def limited (n : ℤ) (l : List SendTimeSeriesDruid) : List SendTimeSeriesDruid :=
  if n < 0 then l else l.take n.toNat

/-- The limit is hit by the record after the `n`-th, which is not accepted; a negative limit never
is. -/
def LimitHit (n : ℤ) (l : List SendTimeSeriesDruid) : Prop := 0 ≤ n ∧ n < l.length

instance (n : ℤ) (l : List SendTimeSeriesDruid) : Decidable (LimitHit n l) :=
  inferInstanceAs (Decidable (_ ∧ _))

lemma limited_of_not_hit {n : ℤ} {l : List SendTimeSeriesDruid} (h : ¬ LimitHit n l) :
    limited n l = l := by
  unfold limited
  split_ifs with hn
  · rfl
  · refine List.take_of_length_le ?_
    simp only [LimitHit, not_and, not_lt] at h
    have := h (by omega)
    omega

lemma limited_append_of_hit {n : ℤ} {l : List SendTimeSeriesDruid} (h : LimitHit n l)
    (m : List SendTimeSeriesDruid) : limited n (l ++ m) = limited n l := by
  obtain ⟨h0, hlt⟩ := h
  unfold limited
  rw [if_neg (by omega), if_neg (by omega), List.take_append_of_le_length (by omega)]

lemma limited_isPrefix (n : ℤ) (l : List SendTimeSeriesDruid) : limited n l <+: l := by
  unfold limited
  split_ifs
  · exact List.prefix_refl l
  · exact List.take_prefix _ _

/-! ## Calls -/

variable {Bytes : Type} (S : MessageSerializer Bytes) (getsizeof : ℕ → ℕ) (args : SendArgs)

/-- A relation between the accepted records and a running agent that every record keeps. -/
structure Accepting (P : List SendTimeSeriesDruid → AgentCommon Bytes → Prop) : Prop where
  counted : ∀ {records a}, P records a → a.myMessageCounter = records.length
  running : ∀ {records a}, P records a → a.exited = false
  accept : ∀ {records a}, P records a → ∀ r,
    P (records ++ [r]) (a.acceptRecord S getsizeof args r)

/-- The agent after a stream of records: still running, or gone at the limit. -/
def Follows (P : List SendTimeSeriesDruid → AgentCommon Bytes → Prop)
    (stream : List SendTimeSeriesDruid) (a : AgentCommon Bytes) : Prop :=
  ∃ a₀, P (limited args.sendNumberOfMessages stream) a₀ ∧
    a = if LimitHit args.sendNumberOfMessages stream then a₀.atLimit S args else a₀

variable {S getsizeof args} {P : List SendTimeSeriesDruid → AgentCommon Bytes → Prop}
  {stream : List SendTimeSeriesDruid} {a : AgentCommon Bytes}

lemma Follows.running (h : Follows S args P stream a)
    (hlim : ¬ LimitHit args.sendNumberOfMessages stream) : P stream a := by
  obtain ⟨a₀, hP, rfl⟩ := h
  rw [limited_of_not_hit hlim] at hP
  rwa [if_neg hlim]

lemma Follows.gone (h : Follows S args P stream a)
    (hlim : LimitHit args.sendNumberOfMessages stream) :
    ∃ a₀, P (limited args.sendNumberOfMessages stream) a₀ ∧ a = a₀.atLimit S args := by
  obtain ⟨a₀, hP, ha⟩ := h
  exact ⟨a₀, hP, by rw [ha, if_pos hlim]⟩

lemma Follows.mono {Q : List SendTimeSeriesDruid → AgentCommon Bytes → Prop}
    (hPQ : ∀ {records a}, P records a → Q records a) (h : Follows S args P stream a) :
    Follows S args Q stream a := by
  obtain ⟨a₀, hP, ha⟩ := h
  exact ⟨a₀, hPQ hP, ha⟩

/-- **The loop.**  By induction on the list: a record below the limit keeps the relation, and the
first one at the limit ends the process. -/
lemma Accepting.mqttSendTripletBatch (hP : Accepting S getsizeof args P) :
    ∀ (l records : List SendTimeSeriesDruid) (a : AgentCommon Bytes), P records a →
      ¬ LimitHit args.sendNumberOfMessages records →
      Follows S args P (records ++ l) (a.mqttSendTripletBatch S getsizeof args l)
  | [], records, a, h, hlim => by
      refine ⟨a, ?_, ?_⟩
      · rwa [List.append_nil, limited_of_not_hit hlim]
      · rw [List.append_nil, if_neg hlim]
        rfl
  | r :: l, records, a, h, hlim => by
      unfold AgentCommon.mqttSendTripletBatch
      rw [hP.counted h]
      split_ifs with hn
      · have hit : LimitHit args.sendNumberOfMessages (records ++ r :: l) :=
          ⟨by omega, by simp [hn]⟩
        have hrec : limited args.sendNumberOfMessages (records ++ r :: l) = records := by
          simp [limited, hn]
        exact ⟨a, hrec.symm ▸ h, (if_pos hit).symm⟩
      · have hlim' : ¬ LimitHit args.sendNumberOfMessages (records ++ [r]) := by
          simp only [LimitHit, List.length_append, List.length_singleton] at hlim ⊢
          omega
        have hrest := hP.mqttSendTripletBatch l (records ++ [r]) _ (hP.accept h r) hlim'
        rwa [List.append_assoc] at hrest

/-- **The call.**  An agent that is gone makes none, and one that runs goes on with the stream. -/
theorem Follows.send (hP : Accepting S getsizeof args P) (h : Follows S args P stream a)
    (l : List SendTimeSeriesDruid) :
    Follows S args P (stream ++ l) (a.send S getsizeof args l) := by
  by_cases hlim : LimitHit args.sendNumberOfMessages stream
  · obtain ⟨a₀, ha₀, rfl⟩ := h.gone hlim
    have hlim' : LimitHit args.sendNumberOfMessages (stream ++ l) :=
      ⟨hlim.1, lt_of_lt_of_le hlim.2 (by simp)⟩
    refine ⟨a₀, by rwa [limited_append_of_hit hlim], ?_⟩
    rw [if_pos hlim']
    simp [AgentCommon.send, atLimit]
  · have hrun := h.running hlim
    rw [AgentCommon.send, hP.running hrun]
    exact hP.mqttSendTripletBatch l _ _ hrun hlim

lemma follows_start (h : P [] a) : Follows S args P [] a := by
  have hlim : ¬ LimitHit args.sendNumberOfMessages [] := by simp [LimitHit]
  refine ⟨a, ?_, (if_neg hlim).symm⟩
  rwa [limited_of_not_hit hlim]

/-- **The run.**  After any sequence of calls the agent stands where one stream of records, the
concatenation of the lists, takes it. -/
theorem follows_sendAll (hP : Accepting S getsizeof args P) (h : P [] a)
    (lists : List (List SendTimeSeriesDruid)) :
    Follows S args P lists.flatten (a.sendAll S getsizeof args lists) := by
  induction lists using List.reverseRecOn with
  | nil => exact follows_start h
  | append_singleton lists l ih =>
      rw [sendAll, List.foldl_append, List.flatten_append, List.flatten_singleton]
      exact ih.send hP l

end AgentCommon

end KrakenMare
