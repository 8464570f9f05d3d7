import KrakenMare.Pipeline.CounterCheck

/-!
# The number in an `ATTENTION` line

A FanIn process prints `v - 1` for an agent it hears for the first time and `v - c` for one it has
heard before, `v` being the count in the record at hand and `c` the last count it has read.  The
line calls it `Missing # of MQTTbatches`.  Of the batches that a subtopic has lost in between, the
first number is one too few if the record was stamped a round late, and the second one is one too
many unless it was.

The setting is that of `Pipeline.CounterCheck`: simulators that count their batches, with distinct
uuids and at least two records in a full batch, counters that an Avro `float` carries exactly, and
a network that may lose any batches.

* `newAttentions_deliver` — the lines that a step adds are the alarms of the sender's monitor.
* `MissingShown` — each of these lines carries the number of batches lost since the last one that
  arrived.
* `CountsShowLoss` — when the counts give that number, in terms of the batches that were lost and
  of the number of the next one.
* **`missing_shown_iff`** — **one step**: the lines are right exactly under that condition.
* **`missing_exact_iff`** — the same for all the lines of a run.
* `missing_count_wrong_one_topic` — one batch lost, and a line that says that two are missing.

An agent that is heard of for the first time is told apart from one heard before only by the counts
of the process, so what was lost before its first batch counts from 1.
-/

namespace KrakenMare

open Lib Network AgentCommon IBswitchSimulator

variable {Bytes ι : Type} [DecidableEq ι] {T : ℕ} (S : MessageSerializer Bytes)
  (getsizeof : ℕ → ℕ) (args : ι → SendArgs) (producer : Fin T → ℕ → ProduceOutcome) (root : String)
  (s : ι → ℕ)

/-- The `ATTENTION` lines for agent `k` that process `t` prints in a step. -/
def newAttentions (w : State ι (Fin T) (AgentCommon Bytes) (FanIn Bytes) (Publication Bytes))
    (act : Action ι (Fin T) SwitchReading) (t : Fin T) (k : ι) : List (FanInEffect Bytes) :=
  (((step (simulatorPath S getsizeof args producer root) w act).receiver t).attentionsFor
    (args k).uuid).drop ((w.receiver t).attentionsFor (args k).uuid).length

/-- The batches of agent `k` for process `t` lost since the last one that arrived. -/
def lostSince (w : State ι (Fin T) (AgentCommon Bytes) (FanIn Bytes) (Publication Bytes)) (k : ι)
    (t : Fin T) : ℕ :=
  ((w.settled k t).rtakeWhile fun x => x.2 = .lost).length

/-- The lines of a step carry the number of batches lost; a step without such lines has it as
well. -/
def MissingShown (w : State ι (Fin T) (AgentCommon Bytes) (FanIn Bytes) (Publication Bytes))
    (act : Action ι (Fin T) SwitchReading) : Prop :=
  ∀ t k topic (missing : ℤ), .attention (args k).uuid topic missing
    ∈ newAttentions S getsizeof args producer root w act t k → missing = lostSince w k t

/-- The first record of the next batch of agent `i` for process `t` was stamped a round late: `T`
and `N` are odd, the subtopic is the one the agent started with, and the batch has an odd number. -/
def NextLate (T N s : ℕ)
    (w : State ι (Fin T) (AgentCommon Bytes) (FanIn Bytes) (Publication Bytes)) (i : ι)
    (t : Fin T) : Prop :=
  (t : ℕ) = s ∧ (w.settled i t).length % 2 = 1 ∧ T % 2 = 1 ∧ N % 2 = 1

/-- The counts give the right number.  An agent heard before: the next batch is late, or nothing was
lost.  An agent not heard yet: the next batch is not late, or it is the second one. -/
def CountsShowLoss (T N s : ℕ)
    (w : State ι (Fin T) (AgentCommon Bytes) (FanIn Bytes) (Publication Bytes)) (i : ι)
    (t : Fin T) : Prop :=
  if ∃ x ∈ w.settled i t, x.2 = .received then NextLate T N s w i t ∨ lostSince w i t = 0
  else ¬ NextLate T N s w i t ∨ (w.settled i t).length = 1

variable {S getsizeof args producer root s} {N : ι → ℕ}
  {acts : List (Action ι (Fin T) SwitchReading)}
  {w : State ι (Fin T) (AgentCommon Bytes) (FanIn Bytes) (Publication Bytes)}

omit [DecidableEq ι] in
/-- What the monitor has missed of an agent are its batches lost since the last one that arrived. -/
lemma lost_heard (k : ι) (t : Fin T) :
    Monitor.lost (heard S (args k).uuid (w.settled k t)) = lostSince w k t := by
  rw [lostSince]
  induction w.settled k t using List.reverseRecOn with
  | nil => rfl
  | append_singleton l x ih =>
      obtain ⟨m, fate⟩ := x
      have hheard : heard S (args k).uuid (l ++ [(m, fate)]) = heard S (args k).uuid l
          ++ [(FanIn.countsOf (args k).uuid (FanIn.recordsOf S m), decide (fate = .received))] := by
        simp [heard]
      rw [hheard, Monitor.lost_concat, ih, List.rtakeWhile_concat]
      cases fate <;> simp

variable (S args) in
omit [DecidableEq ι] in
lemma exact_heard_iff (i : ι) (t : Fin T) (N : ℕ) :
    Monitor.Exact (lateOn T N (s i) t (heard S (args i).uuid (w.settled i t)).length)
        (heard S (args i).uuid (w.settled i t))
      ↔ CountsShowLoss T N (s i) w i t := by
  have hlen : (heard S (args i).uuid (w.settled i t)).length = (w.settled i t).length := by
    simp [heard]
  have harrived : (∃ x ∈ heard S (args i).uuid (w.settled i t), x.2 = true)
      ↔ ∃ x ∈ w.settled i t, x.2 = .received := by
    simp [heard]
  have hlate : lateOn T N (s i) t (w.settled i t).length = true ↔ NextLate T N (s i) w i t :=
    lateOn_iff ..
  simp only [Monitor.Exact, CountsShowLoss, lost_heard, hlen, ← Bool.not_eq_true, hlate, harrived]

/-- The messages of another agent do not count for `k`. -/
lemma Tracked.countsOf_other {log : Fin T → List (ι × Publication Bytes)}
    (h : Tracked S getsizeof args producer root s N acts w log)
    (fleet : Fleet T getsizeof args root s N) (hexact : CountersExact w) {i k : ι} (hik : i ≠ k)
    {m : Publication Bytes} (hm : m ∈ (w.sender i).publications) :
    FanIn.countsOf (args k).uuid (FanIn.recordsOf S m) = [] := by
  refine List.filterMap_eq_nil_iff.mpr fun r hr => ?_
  have hu : r.sensorUuid = (args i).uuid := ((h.messages fleet hexact i m hm).2 r hr).1
  rw [if_neg]
  intro heq
  exact hik (fleet.uuid i k (hu.symm.trans heq))

lemma receiver_lose (i : ι) (t t' : Fin T) :
    (step (simulatorPath S getsizeof args producer root) w (.lose i t')).receiver t
      = w.receiver t := by
  simp only [step, settle]
  cases w.inFlight i t' <;> rfl

lemma receiver_deliver_of_ne {t t' : Fin T} (ht : t ≠ t') (i : ι) :
    (step (simulatorPath S getsizeof args producer root) w (.deliver i t')).receiver t
      = w.receiver t := by
  simp only [step, settle]
  cases w.inFlight i t' with
  | nil => rfl
  | cons m ms => exact Function.update_of_ne ht _ _

lemma newAttentions_of_same {act : Action ι (Fin T) SwitchReading} {t : Fin T}
    (h : (step (simulatorPath S getsizeof args producer root) w act).receiver t = w.receiver t)
    (k : ι) : newAttentions S getsizeof args producer root w act t k = [] := by
  rw [newAttentions, h]
  exact List.drop_length

/-- The lines a delivery adds are the alarms of the monitor for its sender. -/
lemma newAttentions_deliver {log : Fin T → List (ι × Publication Bytes)}
    (h : Tracked S getsizeof args producer root s N acts w log)
    (fleet : Fleet T getsizeof args root s N) (hexact : CountersExact w) {i k : ι} {t : Fin T}
    {m : Publication Bytes} {ms : List (Publication Bytes)} (hq : w.inFlight i t = m :: ms) :
    newAttentions S getsizeof args producer root w (.deliver i t) t k
      = (Monitor.alarms (Monitor.lastSeen none
            (Monitor.received (heard S (args k).uuid (w.settled k t))))
          (FanIn.countsOf (args k).uuid (FanIn.recordsOf S m))).map
          (.attention (args k).uuid (w.receiver t).topic) := by
  rw [newAttentions, attentionsFor_deliver h fleet hexact hq]
  exact List.drop_left

/-- **One step.**  The lines a delivery adds carry the number of batches lost exactly when the
counts show it; a step that delivers nothing adds none. -/
theorem missing_shown_iff (fleet : Fleet T getsizeof args root s N)
    (acts : List (Action ι (Fin T) SwitchReading))
    (hexact : CountersExact (simulatorRun S getsizeof args producer root s acts)) (i : ι)
    (t : Fin T) (hflight : (simulatorRun S getsizeof args producer root s acts).inFlight i t ≠ []) :
    MissingShown S getsizeof args producer root
        (simulatorRun S getsizeof args producer root s acts) (.deliver i t)
      ↔ CountsShowLoss T (N i) (s i) (simulatorRun S getsizeof args producer root s acts) i t := by
  obtain ⟨log, h⟩ := tracked_run S producer fleet acts
  obtain ⟨m, ms, hq⟩ := List.exists_cons_of_ne_nil hflight
  have hbursts := h.bursts_heard fleet hexact i t
  rw [hq, List.map_cons] at hbursts
  rw [← exact_heard_iff S args, ← Monitor.alarms_exact_iff hbursts, lost_heard]
  constructor
  · intro hshown v hv
    refine hshown t i (((simulatorRun S getsizeof args producer root s acts).receiver t).topic) v ?_
    rw [newAttentions_deliver h fleet hexact hq]
    exact List.mem_map_of_mem hv
  · intro halarms t' k topic missing hmem
    by_cases ht : t' = t
    · subst ht
      rw [newAttentions_deliver h fleet hexact hq] at hmem
      obtain ⟨v, hv, heq⟩ := List.mem_map.mp hmem
      cases heq
      by_cases hik : i = k
      · subst hik
        exact halarms missing hv
      · have hpub := (h.wired.mem_inFlight (hq ▸ List.mem_cons_self)).1
        rw [h.countsOf_other fleet hexact hik hpub] at hv
        exact absurd hv List.not_mem_nil
    · rw [newAttentions_of_same (receiver_deliver_of_ne ht i)] at hmem
      exact absurd hmem List.not_mem_nil

lemma missingShown_of_same {act : Action ι (Fin T) SwitchReading}
    (h : ∀ t, (step (simulatorPath S getsizeof args producer root) w act).receiver t
      = w.receiver t) : MissingShown S getsizeof args producer root w act := by
  intro t k topic missing hmem
  rw [newAttentions_of_same (h t)] at hmem
  exact absurd hmem List.not_mem_nil

/-! ## Runs -/

variable (S getsizeof args producer root s) in
/-- Every `ATTENTION` line of a run carries the number of batches lost. -/
def MissingExact (acts : List (Action ι (Fin T) SwitchReading)) : Prop :=
  ∀ pre act, pre ++ [act] <+: acts → MissingShown S getsizeof args producer root
    (simulatorRun S getsizeof args producer root s pre) act

variable (S getsizeof args producer root s) in
/-- The counts show the number of batches lost at every delivery of a run. -/
def CountsShowLosses (N : ι → ℕ) (acts : List (Action ι (Fin T) SwitchReading)) : Prop :=
  ∀ pre i t, pre ++ [.deliver i t] <+: acts →
    (simulatorRun S getsizeof args producer root s pre).inFlight i t ≠ [] →
    CountsShowLoss T (N i) (s i) (simulatorRun S getsizeof args producer root s pre) i t

/-- **The lines of a run** all carry the number of batches lost exactly when the counts show it at
every delivery. -/
theorem missing_exact_iff (fleet : Fleet T getsizeof args root s N)
    (acts : List (Action ι (Fin T) SwitchReading))
    (hexact : ∀ pre, pre <+: acts →
      CountersExact (simulatorRun S getsizeof args producer root s pre)) :
    MissingExact S getsizeof args producer root s acts
      ↔ CountsShowLosses S getsizeof args producer root s N acts := by
  have hstep : ∀ pre act, pre ++ [act] <+: acts →
      CountersExact (simulatorRun S getsizeof args producer root s pre) := fun pre act h =>
    hexact pre ((List.prefix_append _ _).trans h)
  constructor
  · intro h pre i t hpre hflight
    exact (missing_shown_iff fleet pre (hstep pre _ hpre) i t hflight).mp (h pre _ hpre)
  · intro h pre act hpre
    cases act with
    | perform i reading => exact missingShown_of_same fun _ => rfl
    | lose i t => exact missingShown_of_same fun t' => receiver_lose i t' t
    | deliver i t =>
        by_cases hflight : (simulatorRun S getsizeof args producer root s pre).inFlight i t = []
        · refine missingShown_of_same fun t' => ?_
          simp only [step, settle, hflight]
        · exact (missing_shown_iff fleet pre (hstep pre _ hpre) i t hflight).mpr
            (h pre i t hpre hflight)

/-- One agent with batches of five on two subtopics: the first batch of subtopic `0` is lost, and
the line printed for the second one says so. -/
theorem missing_exact_two_topics :
    let args : Unit → SendArgs := fun _ => ⟨"ibswitch", -1, 100, ⟨7⟩, true⟩
    let visit : Action Unit (Fin 2) SwitchReading := .perform () ⟨∅, ⟨600, 0, 0, 18235298⟩, 0⟩
    let acts := List.replicate 8 visit ++ [.lose () 0, .deliver () 1, .deliver () 0]
    MissingExact structuralSerializer listSizeof args (fun _ _ => .accepted) "ibswitch"
      (fun _ => 0) acts := by
  intro args visit acts
  have fleet : Fleet 2 listSizeof args "ibswitch" (fun _ => 0) fun _ => 5 :=
    fleet_of_five (by decide)
  have hexact : ∀ pre ∈ acts.inits, CountersExact (simulatorRun structuralSerializer listSizeof args
      (fun _ _ => .accepted) "ibswitch" (fun _ => 0) pre) := by
    unfold CountersExact
    decide
  refine (missing_exact_iff fleet acts fun pre hpre => hexact pre ?_).mpr ?_
  · exact (List.mem_inits pre acts).mpr hpre
  · intro pre i t hpre hflight
    have hnolater : ∀ pre ∈ acts.inits, ∀ t, (∃ x ∈ (simulatorRun structuralSerializer listSizeof
        args (fun _ _ => .accepted) "ibswitch" (fun _ => 0) pre).settled () t,
        x.2 = .received) → lostSince (simulatorRun structuralSerializer listSizeof args
        (fun _ _ => .accepted) "ibswitch" (fun _ => 0) pre) () t = 0 := by
      decide
    have hpre' := (List.mem_inits pre acts).mpr ((List.prefix_append _ _).trans hpre)
    rw [CountsShowLoss]
    split_ifs with hbefore
    · exact Or.inr (hnolater pre hpre' t hbefore)
    · exact Or.inl fun hlate => absurd hlate.2.2.1 (by decide)

/-- One subtopic and batches of five: the second batch is lost, and the line printed for the third
one says that two are missing. -/
theorem missing_count_wrong_one_topic :
    let args : Unit → SendArgs := fun _ => ⟨"ibswitch", -1, 100, ⟨7⟩, true⟩
    let visit : Action Unit (Fin 1) SwitchReading := .perform () ⟨∅, ⟨600, 0, 0, 18235298⟩, 0⟩
    let acts := List.replicate 8 visit ++ [.deliver () 0, .lose () 0, .deliver () 0]
    Fleet 1 listSizeof args "ibswitch" (fun _ => 0) (fun _ => 5) ∧
      (∀ pre ∈ acts.inits, CountersExact (simulatorRun structuralSerializer listSizeof args
        (fun _ _ => .accepted) "ibswitch" (fun _ => 0) pre)) ∧
      ((simulatorRun structuralSerializer listSizeof args (fun _ _ => .accepted) "ibswitch"
        (fun _ => 0) acts).receiver 0).attentionsFor ⟨7⟩ = [.attention ⟨7⟩ "ibswitch/0" 2] ∧
      ¬ MissingExact structuralSerializer listSizeof args (fun _ _ => .accepted) "ibswitch"
        (fun _ => 0) acts := by
  intro args visit acts
  refine ⟨fleet_of_five (by decide), ?_, ?_, ?_⟩
  · unfold CountersExact
    decide
  · decide
  · intro h
    have hone := h (List.replicate 8 visit ++ [.deliver () 0, .lose () 0]) (.deliver () 0)
      (by simp [acts]) 0 () "ibswitch/0" 2
    exact absurd (hone (by decide)) (by decide)

end KrakenMare
