import KrakenMare.Agent.Batching
import KrakenMare.FanIn.Forwarding
import KrakenMare.Lib.Steps
import KrakenMare.Lib.Streams

/-!
# How the simulator stops

An agent stops itself in `mqtt_send_triplet_batch` when it has come to its limit, or in
`signal_handler`, which Python runs between any two statements of the sending loop.  Here the loop
is a program whose statements can be seen one by one.

The records of a batch are encoded into a local variable, so from the statement that publishes it
to the one that replaces the list the records are both published and in the list; everywhere else
they are in one place.  At the limit the loop publishes what is left over before it deregisters.
The signal handler does not look at the list.

* **`final_sendSteps`** — run to its end, it is the loop of `AgentCommon`.
* `kept_points` — between any two statements the records added so far are the published ones and
  the ones that wait in `myByteBatch`.
* **`shutdown_drops_nothing_iff`** — at its limit an agent publishes everything before it
  deregisters; in `signal_handler` only if nothing was waiting.
* `interrupt_between_calls_iff` — when nothing is waiting between two calls, in terms of the
  records handed over and the length of a full batch.

What `mqtt_deregistration` does once it has published the request is not part of this; it waits for
the answer, and no record is added meanwhile.  A signal during the deregistration at the limit runs
the handler as well, and it finds nothing waiting.
-/

namespace KrakenMare

open Lib

namespace AgentCommon

variable {Bytes : Type}

/-- The agent leaves one more effect. -/
def emit (e : AgentEffect Bytes) (a : AgentCommon Bytes) : AgentCommon Bytes :=
  { a with effects := a.effects ++ [e] }

end AgentCommon

/-- The effects that deregister the agent, after which the framework no longer counts on it. -/
def AgentEffect.isDeregistration {Bytes : Type} : AgentEffect Bytes → Bool
  | deregistration _ => true
  | _ => false

/-- An agent between two statements of its loop, which is where a signal finds it. -/
structure Sending (Bytes : Type) where
  agent : AgentCommon Bytes
  /-- all records that have been added to `myByteBatch`; not an attribute -/
  added : List SendTimeSeriesDruid
  /-- whether the loop is past the statement that publishes `myByteBatch` and has not come to the
  one that replaces it; not an attribute -/
  published : Bool
deriving DecidableEq

namespace Sending

variable {Bytes : Type}

/-- An agent that comes to its loop, with nothing added yet. -/
def watch (agent : AgentCommon Bytes) : Sending Bytes := ⟨agent, [], false⟩

/-- One statement about the attributes of the agent. -/
def update (f : AgentCommon Bytes → AgentCommon Bytes) (t : Sending Bytes) : Sending Bytes :=
  { t with agent := f t.agent }

/-- `self.myByteBatch.append(...)`, by which a record becomes one that is to be published. -/
def append (r : SendTimeSeriesDruid) (t : Sending Bytes) : Sending Bytes :=
  { t with
    agent := { t.agent with myByteBatch := t.agent.myByteBatch ++ [r] }
    added := t.added ++ [r] }

/-- `self.mqtt_send_byte_batch_avro_ts_msg(...)`, which leaves the list as it is. -/
def publish (topic : String) (raw_bytes : Bytes) (t : Sending Bytes) : Sending Bytes :=
  { t with
    agent := t.agent.mqttSendByteBatchAvroTsMsg topic raw_bytes
    published := true }

/-- `self.myByteBatch = []`, after which the published records are in one place only. -/
def reset (t : Sending Bytes) : Sending Bytes :=
  { t with
    agent := { t.agent with myByteBatch := [] }
    published := false }

end Sending

/-! ## The loop, statement by statement -/

namespace AgentCommon

variable {Bytes : Type} (S : MessageSerializer Bytes) (getsizeof : ℕ → ℕ) (args : SendArgs)

/-- A statement that changes the agent in one go, so that a signal finds it before or after, not in
between. -/
def statement (f : AgentCommon Bytes → AgentCommon Bytes) : Steps (Sending Bytes) Unit :=
  .assign (.update f)

/-- The batch is encoded into a local variable, published and counted. -/
def publishSteps : Steps (Sending Bytes) Unit := do
  let t ← .get
  .assign (.publish (subtopic args.topic t.agent.myCurrentSubtopic)
    (S.encodeBatch t.agent.myByteBatch))
  statement countBatch

/-- Some effects, one statement each. -/
def effectSteps : List (AgentEffect Bytes) → Steps (Sending Bytes) Unit
  | [] => pure ()
  | e :: es => do
      statement (emit e)
      effectSteps es

/-- `publish any left over messages`, at the limit; the list is not replaced afterwards. -/
def leftOverSteps : Steps (Sending Bytes) Unit := do
  let t ← .get
  if args.byteBatchSize > 0 ∧ t.agent.myByteBatch.length > 0 then publishSteps S args else pure ()

/-- One `print` for each subtopic, if the agent counts its batches. -/
def reportSteps : Steps (Sending Bytes) Unit := do
  let t ← .get
  effectSteps (if args.mqttBatchCountEnabled then t.agent.batchCountReport args else [])

/-- The branch at the limit; `sys.exit(0)` raises, so that nothing of the call follows. -/
def atLimitSteps : Steps (Sending Bytes) Unit := do
  leftOverSteps S args
  reportSteps args
  statement (emit (.deregistration args.uuid))
  statement (emit .close)
  statement fun a => { a with exited := true }
  .fail

/-- The rest of the loop body.  Unbatched, the list holds the encoded record, which is popped
before it is published; the record stands for it here. -/
def acceptRecordSteps (eachRecord : SendTimeSeriesDruid) : Steps (Sending Bytes) Unit := do
  statement (saveSender args · eachRecord)
  .assign (.append eachRecord)
  statement fun a => { a with myMessageCounter := a.myMessageCounter + 1 }
  let t ← .get
  if args.byteBatchSize > 0 then
    if getsizeof t.agent.myByteBatch.length ≥ args.byteBatchSize then do
      publishSteps S args
      statement nextSubtopic
      .assign .reset
    else pure ()
  else do
    statement fun a => { a with myByteBatch := a.myByteBatch.dropLast }
    .assign (.publish (subtopic args.topic t.agent.myCurrentSubtopic) (S.encodeRecord eachRecord))
    statement countBatch
    .assign .reset

/-- `mqtt_send_triplet_batch`: the limit is looked at before every record. -/
def mqttSendTripletBatchSteps : List SendTimeSeriesDruid → Steps (Sending Bytes) Unit
  | [] => pure ()
  | eachRecord :: record_list => do
      let t ← .get
      if args.sendNumberOfMessages = t.agent.myMessageCounter then atLimitSteps S args
      else do
        acceptRecordSteps S getsizeof args eachRecord
        mqttSendTripletBatchSteps record_list

/-- One call, when the process is still there to make it, statement by statement. -/
def sendSteps (record_list : List SendTimeSeriesDruid) : Steps (Sending Bytes) Unit := do
  let t ← .get
  if t.agent.exited then pure () else mqttSendTripletBatchSteps S getsizeof args record_list

/-- `signal_handler`: deregister, close and leave the process. -/
def signalHandler (a : AgentCommon Bytes) : AgentCommon Bytes :=
  { (emit .close (emit (.deregistration args.uuid) a)) with exited := true }

/-! ## Run to the end -/

variable {S getsizeof args} (t : Sending Bytes)

/-- A program that runs to its end and leaves the agent `b`. -/
def Leaves (p : Steps (Sending Bytes) Unit) (t : Sending Bytes) (b : AgentCommon Bytes) : Prop :=
  Steps.Goes (fun _ => True) p t fun r t' => r = some () ∧ t'.agent = b

lemma leaves_publishSteps :
    Leaves (publishSteps S args) t (t.agent.publishBatch S args) :=
  .get_bind (.assign_bind trivial (.assign trivial ⟨rfl, rfl⟩))

lemma leaves_effectSteps : ∀ (es : List (AgentEffect Bytes)) (t : Sending Bytes),
    Leaves (effectSteps es) t { t.agent with effects := t.agent.effects ++ es }
  | [], t => .pure ⟨rfl, by rw [List.append_nil]⟩
  | e :: es, t => by
      have hrest := leaves_effectSteps es (t.update (emit e))
      rw [Sending.update, emit, List.append_assoc] at hrest
      exact .assign_bind trivial hrest

/-- Run to their end, the statements for one record are `acceptRecord`. -/
lemma leaves_acceptRecordSteps (r : SendTimeSeriesDruid) :
    Leaves (acceptRecordSteps S getsizeof args r) t
      (t.agent.acceptRecord S getsizeof args r) := by
  refine .assign_bind trivial (.assign_bind trivial (.assign_bind trivial (.get_bind ?_)))
  rw [acceptRecord]
  refine .ite (fun hb => ?_) fun hb => ?_
  · rw [if_pos hb]
    refine .ite (fun hfull => ?_) fun hfull => ?_
    · refine Steps.Goes.seq (leaves_publishSteps _) fun t' ht' => ?_
      refine .assign_bind trivial (.assign trivial ⟨rfl, ?_⟩)
      rw [Sending.reset, Sending.update, ht']
      exact (if_pos hfull).symm
    · exact .pure ⟨rfl, (if_neg hfull).symm⟩
  · rw [if_neg hb]
    exact .assign_bind trivial (.assign_bind trivial (.assign_bind trivial
      (.assign trivial ⟨rfl, rfl⟩)))

lemma leaves_leftOverSteps : Leaves (leftOverSteps S args) t
    (if args.byteBatchSize > 0 ∧ t.agent.myByteBatch.length > 0 then t.agent.publishBatch S args
      else t.agent) := by
  refine .get_bind (.ite (fun hleft => ?_) fun hempty => ?_)
  · rw [if_pos hleft]
    exact leaves_publishSteps t
  · exact .pure ⟨rfl, (if_neg hempty).symm⟩

lemma ends_atLimitSteps : Steps.Goes (fun _ => True) (atLimitSteps S args) t
    fun _ t' => t'.agent = t.agent.atLimit S args := by
  refine Steps.Goes.seq (leaves_leftOverSteps t) fun t₁ h₁ => ?_
  refine Steps.Goes.seq (.get_bind (leaves_effectSteps _ t₁)) fun t₂ h₂ => ?_
  refine .assign_bind trivial (.assign_bind trivial (.assign_bind trivial (.fail ?_)))
  rw [atLimit, ← h₁]
  simp [Sending.update, emit, h₂]

/-- Run to its end, by its last statement or by `sys.exit`, the loop is `mqttSendTripletBatch`. -/
lemma ends_mqttSendTripletBatchSteps : ∀ (l : List SendTimeSeriesDruid) (t : Sending Bytes),
    Steps.Goes (fun _ => True) (mqttSendTripletBatchSteps S getsizeof args l) t
      fun _ t' => t'.agent = t.agent.mqttSendTripletBatch S getsizeof args l
  | [], t => .pure rfl
  | r :: l, t => by
      rw [mqttSendTripletBatch]
      refine .get_bind (.ite (fun hlimit => ?_) fun hbelow => ?_)
      · rw [if_pos hlimit]
        exact ends_atLimitSteps t
      · rw [if_neg hbelow]
        refine Steps.Goes.seq (leaves_acceptRecordSteps t r) fun t' ht' => ?_
        rw [← ht']
        exact ends_mqttSendTripletBatchSteps l t'

/-- **The same loop.**  A call whose statements are all run leaves the agent that `send` gives. -/
theorem final_sendSteps (l : List SendTimeSeriesDruid) (t : Sending Bytes) :
    ((sendSteps S getsizeof args l).run t).final.agent = t.agent.send S getsizeof args l := by
  have hends : Steps.Goes (fun _ => True) (sendSteps S getsizeof args l) t
      fun _ t' => t'.agent = t.agent.send S getsizeof args l := by
    rw [send]
    refine .get_bind (.ite (fun hexit => ?_) fun hlive => ?_)
    · exact .pure (if_pos hexit).symm
    · rw [if_neg hlive]
      exact ends_mqttSendTripletBatchSteps l t
  exact hends.ends

/-! ## Between two statements -/

/-- What has been published before the agent deregistered, or so far if it has not. -/
def beforeDeregistration (a : AgentCommon Bytes) : List (Publication Bytes) :=
  (a.effects.takeWhile fun e => !e.isDeregistration).filterMap AgentEffect.publication?

/-- The records in it, as they come off the wire, in the order of publication. -/
def onWire (S : MessageSerializer Bytes) (a : AgentCommon Bytes) : List SendTimeSeriesDruid :=
  a.beforeDeregistration.flatMap (FanIn.recordsOf S)

end AgentCommon

open AgentCommon

section
variable {Bytes : Type} (S : MessageSerializer Bytes) (t : Sending Bytes)

/-- Each record added has been published before the agent deregistered, and once. -/
def NothingDropped : Prop := onWire S t.agent = t.added.map S.carried

/-- The records that are still to be published.  Once the list is published they are not counted as
waiting. -/
def Sending.waiting : List SendTimeSeriesDruid := if t.published then [] else t.agent.myByteBatch

/-- The records added are the published ones and the waiting ones, and at the end none is
waiting. -/
structure Kept : Prop where
  conserved : onWire S t.agent ++ t.waiting.map S.carried = t.added.map S.carried
  exited : t.agent.exited = true → t.waiting = []

/-- The same of an agent that is still registered, which is what all statements but the last ones
keep. -/
structure Live : Prop where
  conserved : onWire S t.agent ++ t.waiting.map S.carried = t.added.map S.carried
  running : t.agent.exited = false
  registered : ∀ e ∈ t.agent.effects, e.isDeregistration = false

end

section
variable {Bytes : Type} {S : MessageSerializer Bytes} {getsizeof : ℕ → ℕ} {args : SendArgs}
  {t : Sending Bytes} {a : AgentCommon Bytes}

lemma Sending.waiting_of_published (h : t.published = true) : t.waiting = [] := if_pos h

lemma Sending.waiting_of_not_published (h : t.published = false) :
    t.waiting = t.agent.myByteBatch := if_neg (by simp [h])

lemma onWire_congr {b : AgentCommon Bytes} (h : a.effects = b.effects) :
    onWire S a = onWire S b := by
  rw [onWire, onWire, beforeDeregistration, beforeDeregistration, h]

/-- One more effect before the deregistration adds the records that it publishes, if any. -/
lemma onWire_emit (h : ∀ e ∈ a.effects, e.isDeregistration = false) {e : AgentEffect Bytes}
    (he : e.isDeregistration = false) : onWire S (a.emit e)
      = onWire S a ++ e.publication?.toList.flatMap (FanIn.recordsOf S) := by
  have hall : ∀ l : List (AgentEffect Bytes), (∀ e ∈ l, e.isDeregistration = false) →
      l.takeWhile (fun e => !e.isDeregistration) = l := by
    intro l hl
    exact List.takeWhile_eq_self_iff.mpr fun e he => by simp [hl e he]
  have hboth : ∀ e' ∈ a.effects ++ [e], e'.isDeregistration = false := by
    intro e' he'
    rcases List.mem_append.mp he' with he' | he'
    · exact h e' he'
    · exact List.mem_singleton.mp he' ▸ he
  rw [onWire, onWire, beforeDeregistration, beforeDeregistration, emit, hall _ hboth, hall _ h,
    List.filterMap_append, List.flatMap_append]
  cases hp : e.publication? <;> simp [hp]

/-- Nothing that comes after a deregistration counts. -/
lemma onWire_deregistration (u : UUID) (es : List (AgentEffect Bytes)) :
    onWire S { a with effects := a.effects ++ .deregistration u :: es } = onWire S a := by
  have hstop : ∀ l : List (AgentEffect Bytes), (l ++ .deregistration u :: es).takeWhile
      (fun e => !e.isDeregistration) = l.takeWhile fun e => !e.isDeregistration := by
    intro l
    induction l with
    | nil => rfl
    | cons e l ih => cases hd : e.isDeregistration <;> simp [hd, ih]
  rw [onWire, onWire, beforeDeregistration, beforeDeregistration, hstop]

/-! ### What each statement keeps -/

namespace Live

lemma kept (h : Live S t) : Kept S t :=
  ⟨h.conserved, fun hexit => absurd (h.running.symm.trans hexit) (by simp)⟩

lemma watch {a : AgentCommon Bytes} (hrunning : a.exited = false) (heffects : a.effects = [])
    (hbatch : a.myByteBatch = []) : Live S (.watch a) where
  conserved := by
    simp [Sending.watch, Sending.waiting, onWire, beforeDeregistration, heffects, hbatch]
  running := hrunning
  registered := by simp [Sending.watch, heffects]

/-- A statement about other attributes. -/
lemma update (h : Live S t) {f : AgentCommon Bytes → AgentCommon Bytes}
    (heffects : (f t.agent).effects = t.agent.effects)
    (hbatch : (f t.agent).myByteBatch = t.agent.myByteBatch)
    (hexit : (f t.agent).exited = t.agent.exited) : Live S (t.update f) where
  conserved := by
    have := h.conserved
    rwa [onWire, beforeDeregistration, ← heffects, Sending.waiting, ← hbatch] at this
  running := hexit.trans h.running
  registered := heffects.symm ▸ h.registered

lemma append (h : Live S t) (hwaiting : t.published = false) (r : SendTimeSeriesDruid) :
    Live S (t.append r) where
  conserved := by
    have hconserved := h.conserved
    rw [Sending.waiting_of_not_published hwaiting] at hconserved
    rw [Sending.waiting_of_not_published (by exact hwaiting),
      onWire_congr (b := t.agent) (by rfl)]
    simp [Sending.append, ← hconserved]
  running := h.running
  registered := h.registered

/-- Publishing the list leaves nothing waiting. -/
lemma publish (h : Live S t) (hwaiting : t.published = false) (topic : String) :
    Live S (t.publish topic (S.encodeBatch t.agent.myByteBatch)) where
  conserved := by
    have hconserved := h.conserved
    rw [Sending.waiting_of_not_published hwaiting] at hconserved
    have hwire := onWire_emit (S := S) h.registered
      (e := .publish ⟨topic, S.encodeBatch t.agent.myByteBatch⟩) rfl
    rw [AgentEffect.publication?, Option.toList_some, List.flatMap_singleton,
      FanIn.recordsOf_encodeBatch, hconserved] at hwire
    rw [Sending.waiting_of_published (by rfl), List.map_nil, List.append_nil]
    exact hwire
  running := h.running
  registered := by
    intro e he
    rcases List.mem_append.mp he with he | he
    · exact h.registered e he
    · exact List.mem_singleton.mp he ▸ rfl

lemma reset (h : Live S t) (hpublished : t.published = true) : Live S t.reset where
  conserved := by
    have hconserved := h.conserved
    rwa [Sending.waiting_of_published hpublished] at hconserved
  running := h.running
  registered := h.registered

/-- A line that is printed. -/
lemma print (h : Live S t) {e : AgentEffect Bytes} (he : e.isDeregistration = false)
    (hpublication : e.publication? = none) : Live S (t.update (emit e)) where
  conserved := by
    have hwire : onWire S (t.agent.emit e) = onWire S t.agent := by
      rw [onWire_emit h.registered he, hpublication, Option.toList_none, List.flatMap_nil,
        List.append_nil]
    have hconserved := h.conserved
    rw [← hwire] at hconserved
    exact hconserved
  running := h.running
  registered := by
    intro e' he'
    rcases List.mem_append.mp he' with he' | he'
    · exact h.registered e' he'
    · exact List.mem_singleton.mp he' ▸ he

/-- With nothing waiting the agent may deregister, and then nothing counts any more. -/
lemma deregister (h : Live S t) (hempty : t.waiting = []) {u : UUID} {es : List (AgentEffect Bytes)}
    {t' : Sending Bytes} (heffects : t'.agent.effects = t.agent.effects ++ .deregistration u :: es)
    (hadded : t'.added = t.added) (hempty' : t'.waiting = []) : Kept S t' where
  conserved := by
    have hwire : onWire S t'.agent = onWire S t.agent :=
      (onWire_congr heffects).trans (onWire_deregistration u es)
    rw [hempty', hadded, hwire, ← hempty]
    exact h.conserved
  exited := fun _ => hempty'

end Live

/-! ### What each program keeps -/

lemma goes_publishSteps (h : Live S t) (hwaiting : t.published = false) :
    Steps.Goes (Kept S) (publishSteps S args) t
      fun r t' => r = some () ∧ Live S t' ∧ t'.published = true := by
  have hpublish := h.publish hwaiting (subtopic args.topic t.agent.myCurrentSubtopic)
  have hcount : Live S (Sending.update countBatch _) := hpublish.update rfl rfl rfl
  exact .get_bind (.assign_bind hpublish.kept (.assign hcount.kept ⟨rfl, hcount, rfl⟩))

lemma goes_effectSteps : ∀ {es : List (AgentEffect Bytes)} {t : Sending Bytes}, Live S t →
    t.waiting = [] → (∀ e ∈ es, e.isDeregistration = false ∧ e.publication? = none) →
    Steps.Goes (Kept S) (effectSteps es) t
      fun r t' => r = some () ∧ Live S t' ∧ t'.waiting = []
  | [], t, h, hempty, _ => .pure ⟨rfl, h, hempty⟩
  | e :: es, t, h, hempty, hes => by
      obtain ⟨he, hpublication⟩ := hes e List.mem_cons_self
      have hprint : Live S (t.update (emit e)) := h.print he hpublication
      exact .assign_bind hprint.kept (goes_effectSteps hprint hempty fun e' he' =>
        hes e' (List.mem_cons_of_mem e he'))

/-- A batch is being filled: the list has not been published. -/
def Filling (S : MessageSerializer Bytes) (t : Sending Bytes) : Prop :=
  Live S t ∧ t.published = false

/-- One record below the limit: appended, and if the batch is full then published, counted and
replaced. -/
lemma goes_acceptRecordSteps (hb : 0 < args.byteBatchSize) (h : Filling S t)
    (r : SendTimeSeriesDruid) : Steps.Goes (Kept S) (acceptRecordSteps S getsizeof args r) t
      fun r t' => r = some () ∧ Filling S t' := by
  obtain ⟨hlive, hwaiting⟩ := h
  have hsave : Live S (t.update (saveSender args · r)) := by
    refine hlive.update ?_ ?_ ?_ <;> rw [saveSender_eq]
  have happend : Live S (Sending.append r _) := hsave.append hwaiting r
  have hcount : Live S (Sending.update (fun a => { a with
      myMessageCounter := a.myMessageCounter + 1 }) _) := happend.update rfl rfl rfl
  refine .assign_bind hsave.kept (.assign_bind happend.kept
    (.assign_bind hcount.kept (.get_bind ?_)))
  refine .ite (fun _ => .ite (fun _ => ?_) fun _ => .pure ⟨rfl, hcount, hwaiting⟩)
    fun hb' => absurd hb hb'
  refine .seq (goes_publishSteps hcount hwaiting) ?_
  rintro t' ⟨hlive', hpublished⟩
  have hnext : Live S (t'.update nextSubtopic) := by
    refine hlive'.update ?_ ?_ ?_ <;> rw [nextSubtopic_eq]
  have hreset : Live S (t'.update nextSubtopic).reset := hnext.reset hpublished
  exact .assign_bind hnext.kept (.assign hreset.kept ⟨rfl, hreset, rfl⟩)

lemma goes_leftOverSteps (hb : 0 < args.byteBatchSize) (h : Filling S t) :
    Steps.Goes (Kept S) (leftOverSteps S args) t
      fun r t' => r = some () ∧ Live S t' ∧ t'.waiting = [] := by
  obtain ⟨hlive, hwaiting⟩ := h
  refine .get_bind (.ite (fun _ => ?_) fun hempty => ?_)
  · refine (goes_publishSteps hlive hwaiting).mono ?_
    rintro r t' ⟨rfl, hlive', hpublished⟩
    exact ⟨rfl, hlive', Sending.waiting_of_published hpublished⟩
  · refine .pure ⟨rfl, hlive, ?_⟩
    rw [Sending.waiting_of_not_published hwaiting]
    by_contra hne
    exact hempty ⟨hb, List.length_pos_of_ne_nil hne⟩

/-- The process has left its loop, with nothing waiting. -/
def Stopped (S : MessageSerializer Bytes) (t : Sending Bytes) : Prop :=
  Kept S t ∧ t.agent.exited = true

/-- At the limit the left-over batch is out before the deregistration, and the process ends. -/
lemma goes_atLimitSteps (hb : 0 < args.byteBatchSize) (h : Filling S t) :
    Steps.Goes (Kept S) (atLimitSteps S args) t fun r t' => r = none ∧ Stopped S t' := by
  refine .seq (goes_leftOverSteps hb h) ?_
  rintro t₁ ⟨hlive₁, hempty₁⟩
  have hreport : ∀ e ∈ (if args.mqttBatchCountEnabled then t₁.agent.batchCountReport args else []),
      e.isDeregistration = false ∧ e.publication? = none := by
    intro e he
    split_ifs at he
    · obtain ⟨i, -, rfl⟩ := List.mem_map.mp he
      exact ⟨rfl, rfl⟩
    · exact absurd he List.not_mem_nil
  refine .seq (.get_bind (goes_effectSteps hlive₁ hempty₁ hreport)) ?_
  rintro t₂ ⟨hlive₂, hempty₂⟩
  have hclosed : (t₂.agent.effects ++ [.deregistration args.uuid]) ++ [.close]
      = t₂.agent.effects ++ [.deregistration args.uuid, .close] := List.append_assoc ..
  exact .assign_bind (hlive₂.deregister hempty₂ rfl rfl hempty₂) (.assign_bind
    (hlive₂.deregister hempty₂ hclosed rfl hempty₂) (.assign_bind
      (hlive₂.deregister hempty₂ hclosed rfl hempty₂)
      (.fail ⟨rfl, hlive₂.deregister hempty₂ hclosed rfl hempty₂, rfl⟩)))

lemma goes_mqttSendTripletBatchSteps (hb : 0 < args.byteBatchSize) :
    ∀ (l : List SendTimeSeriesDruid) {t : Sending Bytes}, Filling S t →
      Steps.Goes (Kept S) (mqttSendTripletBatchSteps S getsizeof args l) t
        fun _ t' => Filling S t' ∨ Stopped S t'
  | [], t, h => .pure (.inl h)
  | r :: l, t, h => by
      refine .get_bind (.ite (fun _ => ?_) fun _ => ?_)
      · exact (goes_atLimitSteps hb h).mono fun _ _ h' => .inr h'.2
      · exact .seq (goes_acceptRecordSteps hb h r) fun t' h' =>
          goes_mqttSendTripletBatchSteps hb l h'

/-- One call keeps the loop as it was, or leaves it stopped. -/
lemma goes_sendSteps (hb : 0 < args.byteBatchSize) (l : List SendTimeSeriesDruid)
    (h : Filling S t ∨ Stopped S t) : Steps.Goes (Kept S) (sendSteps S getsizeof args l) t
      fun _ t' => Filling S t' ∨ Stopped S t' := by
  refine .get_bind (.ite (fun _ => .pure h) fun hrunning => ?_)
  rcases h with hfilling | hstopped
  · exact goes_mqttSendTripletBatchSteps hb l hfilling
  · exact absurd hstopped.2 hrunning

lemma filling_watch (enable : Bool) (T s : ℕ) : Filling S (.watch (start enable T s)) :=
  ⟨.watch rfl rfl rfl, rfl⟩

/-- **Between any two statements** of a run the records added are those published and those
waiting, and at the end of the process none is waiting. -/
theorem kept_points (hb : 0 < args.byteBatchSize) (enable : Bool) (T s : ℕ)
    (lists : List (List SendTimeSeriesDruid)) :
    ∀ t ∈ Steps.points (sendSteps S getsizeof args) lists (.watch (start enable T s)), Kept S t := by
  refine Steps.always_points (I := fun t => Filling S t ∨ Stopped S t) ?_
    (fun l t (_ : True) h => ⟨(goes_sendSteps hb l h).always, (goes_sendSteps hb l h).ends⟩)
    (fun _ _ => trivial) (.inl (filling_watch enable T s))
  rintro t (hfilling | hstopped)
  · exact hfilling.1.kept
  · exact hstopped.1

/-! ## Stopping -/

lemma Kept.nothingDropped_iff (h : Kept S t) : NothingDropped S t ↔ t.waiting = [] := by
  rw [NothingDropped, ← h.conserved, List.self_eq_append_right, List.map_eq_nil_iff]

lemma onWire_signalHandler : onWire S (signalHandler args a) = onWire S a := by
  refine (onWire_congr ?_).trans (onWire_deregistration args.uuid [.close])
  simp [signalHandler, emit]

/-- Interrupted, the agent has dropped what was waiting. -/
lemma Kept.interrupted_iff (h : Kept S t) :
    NothingDropped S (t.update (signalHandler args)) ↔ t.waiting = [] := by
  rw [← h.nothingDropped_iff, NothingDropped, NothingDropped]
  exact Eq.congr_left onWire_signalHandler

lemma Sending.waiting_eq_nil_iff :
    t.waiting = [] ↔ t.agent.myByteBatch = [] ∨ t.published = true := by
  rw [Sending.waiting]
  split_ifs with h <;> simp [h]

/-- **How the simulator stops.**  Whatever records the lists hold and however they are cut, an
agent that stops at its limit has published every record added, once, before it deregisters.
Stopped between two statements by the signal handler it has done so exactly when `myByteBatch` is
empty, or is published and not yet replaced; what it has published it has published once. -/
theorem shutdown_drops_nothing_iff (hb : 0 < args.byteBatchSize) (enable : Bool) (T s : ℕ)
    (lists : List (List SendTimeSeriesDruid)) (t : Sending Bytes)
    (ht : t ∈ Steps.points (sendSteps S getsizeof args) lists (.watch (start enable T s))) :
    (t.agent.exited = true → NothingDropped S t) ∧
      (NothingDropped S (t.update (signalHandler args))
        ↔ t.agent.myByteBatch = [] ∨ t.published = true) ∧
      onWire S (signalHandler args t.agent) <+: t.added.map S.carried := by
  have h : Kept S t := kept_points hb enable T s lists t ht
  refine ⟨fun hexit => h.nothingDropped_iff.mpr (h.exited hexit), ?_, ?_⟩
  · rw [← Sending.waiting_eq_nil_iff, h.interrupted_iff]
  · rw [onWire_signalHandler, ← h.conserved]
    exact List.prefix_append _ _

/-- Batches of five and a limit of six: both batches of the run are out before it deregisters. -/
theorem shutdown_drops_nothing_at_limit :
    let r : SendTimeSeriesDruid := ⟨1570135369000, ⟨7⟩, .ofNat 1⟩
    let args : SendArgs := ⟨"ibswitch", 6, 100, ⟨7⟩, false⟩
    ∃ t ∈ Steps.points (sendSteps structuralSerializer listSizeof args)
        (List.replicate 4 (List.replicate 2 r)) (.watch (start false 1 0)),
      t.agent.exited = true ∧ NothingDropped structuralSerializer t := by
  intro r args
  have hlast : ∃ t ∈ Steps.points (sendSteps structuralSerializer listSizeof args)
      (List.replicate 4 (List.replicate 2 r)) (.watch (start false 1 0)), t.agent.exited = true := by
    decide +kernel
  obtain ⟨t, ht, hexit⟩ := hlast
  exact ⟨t, ht, hexit, (shutdown_drops_nothing_iff (by decide) false 1 0 _ t ht).1 hexit⟩

/-! ### Between two calls -/

/-- The calls, statement by statement, leave the agent that the calls leave. -/
lemma agent_afterAll (lists : List (List SendTimeSeriesDruid)) (t : Sending Bytes) :
    (Steps.afterAll (sendSteps S getsizeof args) lists t).agent
      = t.agent.sendAll S getsizeof args lists := by
  induction lists generalizing t with
  | nil => rfl
  | cons l lists ih =>
      have hrest := ih ((sendSteps S getsizeof args l).run t).final
      rw [final_sendSteps] at hrest
      exact hrest

/-- A batch is full at `N` records, so what is left of `records` is what is left of their number. -/
lemma AgentCommon.Batched.myByteBatch_eq_nil_iff {T s N : ℕ} {records : List SendTimeSeriesDruid}
    (h : Batched S getsizeof args T s records a) (hN : Fills getsizeof args N) :
    a.myByteBatch = [] ↔ N ∣ records.length := by
  obtain ⟨batches, hrun, hcut⟩ := h
  have hpending := hcut.length_pending hN
  have hlength : records.length = batches.length * N + a.myByteBatch.length := by
    rw [← hrun.conserved, List.length_append,
      length_flatten_of_length_eq fun b hb => (hcut.full b hb).unique hN]
  rw [hlength, Nat.dvd_add_right (Nat.dvd_mul_left N _), ← List.length_eq_zero_iff]
  exact ⟨fun hzero => hzero ▸ Nat.dvd_zero N, fun hdvd => Nat.eq_zero_of_dvd_of_lt hdvd hpending⟩

/-- **A signal between two calls.**  Where `N` records make a full batch, the agent that is
interrupted after some calls has dropped nothing exactly when it had come to its limit, or the
records it had been handed fill their batches: the flush test shows only in `N`. -/
theorem interrupt_between_calls_iff (hb : 0 < args.byteBatchSize) {N : ℕ}
    (hN : Fills getsizeof args N) (enable : Bool) {T s : ℕ} (hs : s < T)
    (lists : List (List SendTimeSeriesDruid)) :
    let t := Steps.afterAll (sendSteps S getsizeof args) lists (.watch (start enable T s))
    NothingDropped S (t.update (signalHandler args)) ↔
      LimitHit args.sendNumberOfMessages lists.flatten ∨ N ∣ lists.flatten.length := by
  intro t
  have hkept : Kept S t := kept_points hb enable T s lists t (Steps.afterAll_mem_points lists _)
  have hstate : Filling S t ∨ Stopped S t :=
    Steps.afterAll_keeps (I := fun t => Filling S t ∨ Stopped S t)
      (fun l t h => (goes_sendSteps hb l h).ends) lists (.inl (filling_watch enable T s))
  have hagent : t.agent = (start enable T s).sendAll S getsizeof args lists := agent_afterAll lists _
  have hfollows : Follows S args (Batched S getsizeof args T s) lists.flatten t.agent := by
    rw [hagent]
    exact follows_sendAll (accepting_batched (Nat.zero_lt_of_lt hs) hb) (batched_start enable hs) lists
  obtain ⟨_, hsent⟩ := hfollows.sent hb
  rw [hkept.interrupted_iff]
  by_cases hlim : LimitHit args.sendNumberOfMessages lists.flatten
  · exact iff_of_true (hkept.exited (hsent.exited.mpr hlim)) (.inl hlim)
  · -- the process is there, and between two calls nothing is published and not yet replaced
    have hwaiting : t.published = false := by
      rcases hstate with hfilling | hstopped
      · exact hfilling.2
      · exact absurd (hsent.exited.mp hstopped.2) hlim
    rw [Sending.waiting_of_not_published hwaiting, (hfollows.running hlim).myByteBatch_eq_nil_iff hN,
      or_iff_right hlim]

/-- Interrupted after the first of its calls, the agent deregisters with two records in hand. -/
theorem interrupt_drops_records :
    let r : SendTimeSeriesDruid := ⟨1570135369000, ⟨7⟩, .ofNat 1⟩
    let args : SendArgs := ⟨"ibswitch", -1, 100, ⟨7⟩, false⟩
    ∃ t ∈ Steps.points (sendSteps structuralSerializer listSizeof args)
        (List.replicate 4 (List.replicate 2 r)) (.watch (start false 1 0)),
      t.added = [r, r] ∧ (signalHandler args t.agent).effects = [.deregistration ⟨7⟩, .close] ∧
        ¬ NothingDropped structuralSerializer (t.update (signalHandler args)) := by
  unfold NothingDropped
  decide +kernel

end

end KrakenMare
