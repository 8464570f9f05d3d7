import KrakenMare.FanIn.Forwarding

/-!
# The main loop of a FanIn process

`FanIn.run` of `fanin/FanIn.py`.  Every 50 ms the main thread looks whether ten seconds have gone
by since the last message; if so, and if the batch counter check is on, it prints the last count of
each agent and sets `done`, so that it does so once.  Meanwhile the MQTT client calls
`mqtt_on_message` in a thread of its own, which clears `done` first, goes through the records, and
sets the timer last.

**Threads.**  They share the dictionary of the counts and run statement by statement, a record
being one statement of the handler.  `time.time()` may give anything.  A report is a loop over the
dictionary, whose iterator raises a `RuntimeError` when the size has changed; that ends the main
thread, and with it the process.

**The invariant** is `Watched`.  The dictionary only grows, so a report that has noted its size can
only find it larger; and as long as no message is handled the counts do not change, so the lines
printed are those of the dictionary.

* `finish_run` — whatever the main thread does, the handlers come to the state of `FanIn.receive`.
* `idle_report_run` — **what the report is worth, in every run**: when it has been made with no
  message in between, the last lines printed show the counts of all messages received, and the main
  thread raises only when a new agent is heard of while it makes a report.
* `idle_report_once` — a process that receives nothing prints its report once and no more.

The example in between shows a report that is out of date: the timer is set at the end of the
handler, so the ten seconds may be over while a message is being handled.

Left out: `kafka_producer.poll` and the delivery reports it serves, which touch nothing of this.
-/

namespace KrakenMare

open Lib

/-- What is left to do of `mqtt_on_message`, once it has come to its loop or to the passthrough. -/
inductive Handling (Bytes : Type)
  /-- the loop over `query_data["tripletBatch"]`, with the count `k` -/
  | records (rest : List SendTimeSeriesDruid) (k : ℕ)
  | passthrough (payload : Bytes)
deriving DecidableEq

/-- Where the main thread is in the loop `for uuid in self.myMQTTtopicCounterPerUUID`. -/
inductive ReportStatement
  | fetch
  | print (uuid : UUID)
  /-- `self.done = True` -/
  | mark
deriving DecidableEq

/-- The loop over the dictionary: the size that its iterator has noted, and its position. -/
structure Report where
  size : ℕ
  pos : ℕ
  statement : ReportStatement
deriving DecidableEq

/-- A FanIn process with its two threads, the main loop and the callback of the MQTT client. -/
structure FanInThreads (Bytes : Type) where
  self : FanIn Bytes
  done : Bool
  mqttMsgTimer : ℚ
  /-- what `time.time()` gives -/
  time : ℚ
  /-- the handler, if one is under way -/
  handling : Option (Handling Bytes)
  /-- the report, if one is under way -/
  report : Option Report
  printed : List (UUID × String × ℤ)
  /-- the messages that have been handed to the handler -/
  received : List (Publication Bytes)
  /-- whether a message was being handled while the last report was made; no thread reads it -/
  disturbed : Bool
  /-- an exception has ended the main thread, and the process with it -/
  ended : Bool
deriving DecidableEq

/-- What may happen: the main thread makes a step, a message arrives, the handler makes a step, or
the clock shows another time. -/
inductive FanInEvent (Bytes : Type)
  | main
  /-- the MQTT client calls `mqtt_on_message` -/
  | message (m : Publication Bytes)
  /-- the handler goes on -/
  | handler
  | time (t : ℚ)
deriving DecidableEq

/-- The lines of a report, one for each agent, with the last count that was read of it. -/
def FanIn.idleReport {Bytes : Type} (f : FanIn Bytes) : List (UUID × String × ℤ) :=
  f.myMQTTtopicCounterPerUUID.entries.map fun e => (e.1, f.topic, e.2)

namespace FanInThreads

variable {Bytes : Type}

/-- `run`, when it comes to its loop: nothing received, nothing printed, and the timer just set. -/
def start (f : FanIn Bytes) (time : ℚ) : FanInThreads Bytes :=
  ⟨f, false, time, time, none, none, [], [], false, false⟩

/-- One step of the main thread.  The iterator raises `RuntimeError` when the size of the dictionary
has changed. -/
def main (x : FanInThreads Bytes) : FanInThreads Bytes :=
  match x.report with
  | none =>
      if x.mqttMsgTimer + 10 < x.time ∧ x.done = false ∧ x.self.enableMQTTbatchCount = true then
        { x with
          report := some ⟨x.self.myMQTTtopicCounterPerUUID.size, 0, .fetch⟩
          disturbed := x.handling.isSome }
      else x
  | some ⟨size, pos, .fetch⟩ =>
      if x.self.myMQTTtopicCounterPerUUID.size ≠ size then { x with ended := true }
      else match x.self.myMQTTtopicCounterPerUUID.keys[pos]? with
        | none => { x with report := none }
        | some uuid => { x with report := some ⟨size, pos + 1, .print uuid⟩ }
  | some ⟨size, pos, .print uuid⟩ =>
      match x.self.myMQTTtopicCounterPerUUID.get? uuid with
      | none => { x with ended := true }
      | some c =>
          { x with
            report := some ⟨size, pos, .mark⟩
            printed := x.printed ++ [(uuid, x.self.topic, c)] }
  | some ⟨size, pos, .mark⟩ => { x with done := true, report := some ⟨size, pos, .fetch⟩ }

section
variable (S : MessageSerializer Bytes) (producer : ℕ → ProduceOutcome)

/-- `mqtt_on_message` up to its loop, in one step; it resets `done`, which makes a report due
again. -/
def message (m : Publication Bytes) (x : FanInThreads Bytes) : FanInThreads Bytes :=
  let x := { x with received := x.received ++ [m] }
  if m.topic = x.self.topic then
    let x := { x with done := false, disturbed := x.disturbed || x.report.isSome }
    if ¬ x.self.enableMQTTpassthrough then
      let query_data : Option (FanIn.QueryData Bytes) :=
        if x.self.mqttBatching then (S.decode m.payload).map .decoded
        else some (.payloads [m.payload])
      match query_data.bind FanIn.QueryData.tripletBatch? with
      | none => { x with self := x.self.emit .raised }
      | some batch => { x with handling := some (.records batch 0) }
    else { x with handling := some (.passthrough m.payload) }
  else x

/-- The next statement of the handler: a record, or what follows the loop. -/
def handler (x : FanInThreads Bytes) : FanInThreads Bytes :=
  match x.handling with
  | none => x
  | some (.records [] k) =>
      { x with
        self := if k ≠ 47 then x.self.emit (.samples k) else x.self
        mqttMsgTimer := x.time
        handling := none }
  | some (.records (data :: rest) k) =>
      match (if x.self.enableMQTTbatchCount then FanIn.checkBatchCount data x.self
        else some x.self) with
      | none => { x with self := x.self.emit .raised, handling := none }
      | some f =>
          let r := FanIn.produce producer (S.encodeRecord data) f k
          { x with self := r.1, handling := some (.records rest r.2) }
  | some (.passthrough payload) =>
      { x with
        self := (FanIn.produce producer payload x.self 0).1
        mqttMsgTimer := x.time
        handling := none }

/-- One event.  A process that has ended does nothing more, and messages are handled one at a
time. -/
def step (x : FanInThreads Bytes) : FanInEvent Bytes → FanInThreads Bytes
  | .main => if x.ended then x else x.main
  | .message m => if x.ended ∨ x.handling.isSome then x else x.message S m
  | .handler => if x.ended then x else x.handler S producer
  | .time t => { x with time := t }

/-- A run: the events one after the other, statements of the two threads in any order. -/
def run (x : FanInThreads Bytes) (events : List (FanInEvent Bytes)) : FanInThreads Bytes :=
  events.foldl (step S producer) x

end

/-! ## The handler -/

section
variable {S : MessageSerializer Bytes} {producer : ℕ → ProduceOutcome} {x : FanInThreads Bytes}

variable (S producer) in
/-- The state in which the handler will leave the process, if no other message comes before it is
through. -/
def finish (x : FanInThreads Bytes) : FanIn Bytes :=
  match x.handling with
  | none => x.self
  | some (.records rest k) =>
      match FanIn.forwardRecords S producer rest x.self k with
      | (f, _, false) => f.emit .raised
      | (f, k, true) => if k ≠ 47 then f.emit (.samples k) else f
  | some (.passthrough payload) => (FanIn.produce producer payload x.self 0).1

/-- A message that finds no handler under way will be handled as `FanIn.mqttOnMessage` does it. -/
lemma finish_message (m : Publication Bytes) (h : x.handling = none) :
    (x.message S m).finish S producer = FanIn.mqttOnMessage S producer m x.self := by
  by_cases htopic : m.topic = x.self.topic
  · rw [message, FanIn.mqttOnMessage, if_pos htopic, if_pos htopic]
    by_cases hpass : x.self.enableMQTTpassthrough = true
    · rw [if_neg (not_not_intro hpass), if_neg (not_not_intro hpass)]
      rfl
    · rw [if_pos hpass, if_pos hpass]
      dsimp only [FanIn.forwardDecoded]
      cases (if x.self.mqttBatching = true then (S.decode m.payload).map FanIn.QueryData.decoded
          else some (FanIn.QueryData.payloads [m.payload])).bind FanIn.QueryData.tripletBatch? with
      | none => simp only [finish, h]
      | some batch => rfl
  · rw [message, FanIn.mqttOnMessage, if_neg htopic, if_neg htopic]
    simp only [finish, h]

/-- A statement of the handler does not change the state in which it will leave the process. -/
lemma finish_handler : (x.handler S producer).finish S producer = x.finish S producer := by
  rw [handler]
  cases hhandling : x.handling with
  | none => rfl
  | some handling =>
      cases handling with
      | passthrough payload => simp only [finish, hhandling]
      | records rest k =>
          cases rest with
          | nil => simp only [finish, hhandling, FanIn.forwardRecords]
          | cons data rest =>
              simp only [finish, hhandling, FanIn.forwardRecords]
              cases (if x.self.enableMQTTbatchCount = true then
                  FanIn.checkBatchCount data x.self else some x.self) with
              | none => rfl
              | some f => rfl

/-- What the main thread leaves alone. -/
lemma main_eq (x : FanInThreads Bytes) : x.main.self = x.self ∧ x.main.handling = x.handling ∧
    x.main.received = x.received := by
  rw [main]
  split <;> (repeat' split) <;> exact ⟨rfl, rfl, rfl⟩

variable (S) in
lemma received_message (m : Publication Bytes) (x : FanInThreads Bytes) :
    (x.message S m).received = x.received ++ [m] := by
  rw [message]
  dsimp only
  split
  · split
    · split <;> rfl
    · rfl
  · rfl

variable (S producer) in
lemma received_handler (x : FanInThreads Bytes) : (x.handler S producer).received = x.received := by
  rw [handler]
  repeat' split
  all_goals rfl

variable (S producer) in
/-- The handlers do what `FanIn.receive` says, at any time up to the end of the one under way. -/
theorem finish_run (f : FanIn Bytes) (time : ℚ) (events : List (FanInEvent Bytes)) :
    (run S producer (start f time) events).finish S producer
      = FanIn.receive S producer f (run S producer (start f time) events).received := by
  induction events using List.reverseRecOn with
  | nil => rfl
  | append_singleton events e ih =>
      rw [run, List.foldl_append, List.foldl_cons, List.foldl_nil]
      generalize hx : events.foldl (step S producer) (start f time) = x
      rw [run, hx] at ih
      cases e with
      | time t => exact ih
      | main =>
          rw [step]
          split_ifs
          · exact ih
          · obtain ⟨hself, hhandling, hreceived⟩ := main_eq x
            rw [finish, hself, hhandling, hreceived]
            exact ih
      | message m =>
          rw [step]
          split_ifs with hbusy
          · exact ih
          · have hrest : x.handling = none := by
              simpa using (not_or.mp hbusy).2
            rw [finish, hrest] at ih
            rw [finish_message m hrest, received_message, FanIn.receive_concat, ← ih]
      | handler =>
          rw [step]
          split_ifs
          · exact ih
          · rw [finish_handler, received_handler]
            exact ih

/-! ## The dictionary only grows -/

lemma keys_checkBatchCount {data : SendTimeSeriesDruid} {f g : FanIn Bytes}
    (h : FanIn.checkBatchCount data f = some g) :
    f.myMQTTtopicCounterPerUUID.keys <+: g.myMQTTtopicCounterPerUUID.keys := by
  cases hv : data.sensorValue.int? with
  | none => simp [FanIn.checkBatchCount, hv] at h
  | some v =>
      rw [FanIn.checkBatchCount_eq hv] at h
      obtain rfl := Option.some.inj h
      exact Dict.keys_isPrefix_set ..

variable (S producer) in
/-- A handler adds keys at the end of the counts and never removes one. -/
lemma keys_handler (x : FanInThreads Bytes) : x.self.myMQTTtopicCounterPerUUID.keys
    <+: (x.handler S producer).self.myMQTTtopicCounterPerUUID.keys := by
  have hproduce : ∀ (b : Bytes) (f : FanIn Bytes) (k : ℕ),
      (FanIn.produce producer b f k).1.myMQTTtopicCounterPerUUID = f.myMQTTtopicCounterPerUUID :=
    fun b f k => (FanIn.produce_fields producer b f k).2.2.2.2.2.2
  rw [handler]
  cases x.handling with
  | none => exact List.prefix_refl _
  | some handling =>
      cases handling with
      | passthrough payload =>
          exact ⟨[], (List.append_nil _).trans (congrArg Dict.keys (hproduce payload _ 0).symm)⟩
      | records rest k =>
          cases rest with
          | nil =>
              dsimp only
              split_ifs <;> exact List.prefix_refl _
          | cons data rest =>
              dsimp only
              cases hchecked : (if x.self.enableMQTTbatchCount = true then
                  FanIn.checkBatchCount data x.self else some x.self) with
              | none => exact List.prefix_refl _
              | some f =>
                  dsimp only
                  rw [hproduce]
                  split_ifs at hchecked
                  · exact keys_checkBatchCount hchecked
                  · obtain rfl := Option.some.inj hchecked
                    exact List.prefix_refl _

lemma dict_message (m : Publication Bytes) (x : FanInThreads Bytes) :
    (x.message S m).self.myMQTTtopicCounterPerUUID = x.self.myMQTTtopicCounterPerUUID := by
  rw [message]
  dsimp only
  split
  · split
    · split <;> rfl
    · rfl
  · rfl

/-! ## The report -/

/-- The output of the report so far, up to its first `pos` lines. -/
def Printed (x : FanInThreads Bytes) (pos : ℕ) : Prop :=
  ∃ before, x.printed = before ++ x.self.idleReport.take pos

/-- A report that no handler has disturbed: what has been printed of it are the first lines of the
idle report. -/
def Listing (x : FanInThreads Bytes) : Report → Prop
  | ⟨_, pos, .fetch⟩ | ⟨_, pos, .mark⟩ => x.Printed pos
  | ⟨_, pos, .print uuid⟩ => ∃ p, pos = p + 1 ∧
      x.self.myMQTTtopicCounterPerUUID.keys[p]? = some uuid ∧ x.Printed p

/-- The invariant of the two threads.  `disturbed` tells the reports during which a message was
handled from the others, and only of the others something is said about the lines. -/
structure Watched (x : FanInThreads Bytes) : Prop where
  size : ∀ r, x.report = some r → r.size ≤ x.self.myMQTTtopicCounterPerUUID.size
  known : ∀ size pos uuid, x.report = some ⟨size, pos, .print uuid⟩ →
    uuid ∈ x.self.myMQTTtopicCounterPerUUID.keys
  ended : x.ended = true → x.disturbed = true ∧
    ∃ r, x.report = some r ∧ r.size < x.self.myMQTTtopicCounterPerUUID.size
  listing : ∀ r, x.report = some r → x.disturbed = false → x.handling = none ∧
    r.size = x.self.myMQTTtopicCounterPerUUID.size ∧ x.Listing r
  current : x.report = none → x.disturbed = false → x.done = true →
    x.handling = none ∧ x.self.idleReport <:+ x.printed

lemma watched_start (f : FanIn Bytes) (time : ℚ) : Watched (start f time) := by
  constructor <;> simp [start]

/-- The line of an agent is its entry. -/
lemma take_idleReport {f : FanIn Bytes} {p : ℕ} {uuid : UUID} {c : ℤ}
    (hkey : f.myMQTTtopicCounterPerUUID.keys[p]? = some uuid)
    (hcount : f.myMQTTtopicCounterPerUUID.get? uuid = some c) :
    f.idleReport.take (p + 1) = f.idleReport.take p ++ [(uuid, f.topic, c)] := by
  rw [Dict.keys, List.getElem?_map] at hkey
  obtain ⟨⟨u, c'⟩, he, rfl⟩ := Option.map_eq_some_iff.mp hkey
  have hget := (Dict.mem_entries _).mp (List.mem_of_getElem? he)
  obtain rfl := Option.some.inj (hget.symm.trans hcount)
  rw [List.take_add_one, FanIn.idleReport, List.getElem?_map, he]
  rfl

/-- **One step of the main thread** keeps the invariant.  It may raise, but only where it asks for
the next key of a dictionary that has grown meanwhile. -/
lemma Watched.main (h : Watched x) (hlive : x.ended = false) : Watched x.main := by
  have hnot : ∀ {p : Prop}, x.ended = true → p := fun he => absurd (hlive.symm.trans he) (by simp)
  rw [FanInThreads.main]
  split
  case h_1 hreport =>
    split_ifs with hidle
    · -- the report begins
      refine ⟨?_, ?_, hnot, ?_, fun hnone => absurd hnone (by simp)⟩
      · rintro _ ⟨⟩
        exact le_refl _
      · rintro _ _ _ ⟨⟩
      · rintro _ ⟨⟩ hdisturbed
        refine ⟨by simpa using hdisturbed, rfl, x.printed, ?_⟩
        rw [List.take_zero, List.append_nil]
    · exact h
  case h_2 size pos hreport =>
    have hsize : size ≤ x.self.myMQTTtopicCounterPerUUID.size := h.size _ hreport
    have hnext := h.listing _ hreport
    split_ifs with hchanged
    · -- a new agent has been heard of
      refine ⟨h.size, h.known, fun _ => ⟨?_, _, hreport, lt_of_le_of_ne hsize hchanged.symm⟩,
        h.listing, h.current⟩
      by_contra hdisturbed
      obtain ⟨-, hsame, -⟩ := hnext (by simpa using hdisturbed)
      exact hchanged hsame.symm
    · -- at the end of the entries, or at the next one
      cases hkey : x.self.myMQTTtopicCounterPerUUID.keys[pos]? with
      | none =>
          refine ⟨?_, ?_, hnot, ?_, fun _ hdisturbed _ => ?_⟩
          · rintro _ ⟨⟩
          · rintro _ _ _ ⟨⟩
          · rintro _ ⟨⟩
          · obtain ⟨hrest, -, before, hprinted⟩ := hnext hdisturbed
            have hlong : x.self.idleReport.length ≤ pos := by
              simpa [Dict.keys, FanIn.idleReport] using List.getElem?_eq_none_iff.mp hkey
            refine ⟨hrest, before, ?_⟩
            rw [hprinted, List.take_of_length_le hlong]
      | some uuid =>
          refine ⟨?_, ?_, hnot, ?_, fun hnone => absurd hnone (by simp)⟩
          · rintro _ ⟨⟩
            exact hsize
          · rintro _ _ _ ⟨⟩
            exact List.mem_of_getElem? hkey
          · rintro _ ⟨⟩ hdisturbed
            obtain ⟨hrest, hsame, hprinted⟩ := hnext hdisturbed
            exact ⟨hrest, hsame, pos, rfl, hkey, hprinted⟩
  case h_3 size pos uuid hreport =>
    have hsize : size ≤ x.self.myMQTTtopicCounterPerUUID.size := h.size _ hreport
    have hknown := h.known _ _ _ hreport
    rw [Dict.keys, Dict.mem_keys] at hknown
    obtain ⟨c, hcount⟩ := Option.isSome_iff_exists.mp hknown
    rw [hcount]
    refine ⟨?_, ?_, hnot, ?_, fun hnone => absurd hnone (by simp)⟩
    · rintro _ ⟨⟩
      exact hsize
    · rintro _ _ _ ⟨⟩
    · rintro _ ⟨⟩ hdisturbed
      obtain ⟨hrest, hsame, p, rfl, hkey, before, hprinted⟩ := h.listing _ hreport hdisturbed
      refine ⟨hrest, hsame, before, ?_⟩
      show x.printed ++ _ = before ++ x.self.idleReport.take (p + 1)
      rw [hprinted, List.append_assoc, ← take_idleReport hkey hcount]
  case h_4 size pos hreport =>
    have hsize : size ≤ x.self.myMQTTtopicCounterPerUUID.size := h.size _ hreport
    refine ⟨?_, ?_, hnot, ?_, fun hnone => absurd hnone (by simp)⟩
    · rintro _ ⟨⟩
      exact hsize
    · rintro _ _ _ ⟨⟩
    · rintro _ ⟨⟩ hdisturbed
      obtain ⟨hrest, hsame, hprinted⟩ := h.listing _ hreport hdisturbed
      exact ⟨hrest, hsame, hprinted⟩

lemma message_own {m : Publication Bytes} (h : m.topic = x.self.topic) :
    (x.message S m).report = x.report ∧ (x.message S m).ended = x.ended ∧
      (x.message S m).done = false ∧
      (x.message S m).disturbed = (x.disturbed || x.report.isSome) := by
  rw [message, if_pos h]
  dsimp only
  split
  · split <;> exact ⟨rfl, rfl, rfl, rfl⟩
  · exact ⟨rfl, rfl, rfl, rfl⟩

/-- **A message that arrives** keeps the invariant: `done` is reset, and a report under way is
disturbed. -/
lemma Watched.message (h : Watched x) (hlive : x.ended = false) (m : Publication Bytes) :
    Watched (x.message S m) := by
  by_cases htopic : m.topic = x.self.topic
  · obtain ⟨hreport, hended, hdone, hdisturbed⟩ := message_own (S := S) htopic
    have hdict := dict_message (S := S) m x
    refine ⟨?_, ?_, ?_, ?_, ?_⟩
    · rw [hreport, hdict]
      exact h.size
    · rw [hreport, hdict]
      exact h.known
    · rw [hended, hlive]
      exact fun he => absurd he (by simp)
    · -- a report that is under way has been disturbed
      intro r hr hquiet
      rw [hreport] at hr
      rw [hdisturbed, hr] at hquiet
      exact absurd hquiet (by simp)
    · intro _ _ htrue
      rw [hdone] at htrue
      exact absurd htrue (by simp)
  · rw [FanInThreads.message, if_neg htopic]
    exact ⟨h.size, h.known, h.ended, h.listing, h.current⟩

variable (S producer) in
lemma handler_fields (x : FanInThreads Bytes) : (x.handler S producer).report = x.report ∧
    (x.handler S producer).ended = x.ended ∧ (x.handler S producer).done = x.done ∧
    (x.handler S producer).disturbed = x.disturbed := by
  rw [handler]
  repeat' split
  all_goals exact ⟨rfl, rfl, rfl, rfl⟩

/-- **One statement of the handler** keeps the invariant, the report under way being a disturbed
one. -/
lemma Watched.handler (h : Watched x) (hlive : x.ended = false) :
    Watched (x.handler S producer) := by
  cases hhandling : x.handling with
  | none =>
      rw [FanInThreads.handler, hhandling]
      exact h
  | some handling =>
      obtain ⟨hreport, hended, hdone, hdisturbed⟩ := handler_fields S producer x
      have hkeys := keys_handler S producer x
      have hgrow : x.self.myMQTTtopicCounterPerUUID.size
          ≤ (x.handler S producer).self.myMQTTtopicCounterPerUUID.size := by
        simpa [Dict.keys, Dict.size] using hkeys.length_le
      refine ⟨?_, ?_, ?_, ?_, ?_⟩
      · rw [hreport]
        exact fun r hr => (h.size r hr).trans hgrow
      · rw [hreport]
        exact fun _ _ _ hr => hkeys.subset (h.known _ _ _ hr)
      · rw [hended, hlive]
        exact fun he => absurd he (by simp)
      · rw [hreport, hdisturbed]
        intro r hr hquiet
        exact absurd (hhandling.symm.trans (h.listing r hr hquiet).1) (by simp)
      · rw [hreport, hdisturbed, hdone]
        intro hnone hquiet htrue
        exact absurd (hhandling.symm.trans (h.current hnone hquiet htrue).1) (by simp)

variable (S producer) in
/-- **One step**, of either thread or of the clock, keeps the invariant. -/
lemma Watched.step (h : Watched x) (e : FanInEvent Bytes) : Watched (x.step S producer e) := by
  cases e with
  | time t => exact ⟨h.size, h.known, h.ended, h.listing, h.current⟩
  | main =>
      rw [FanInThreads.step]
      split_ifs with hended
      · exact h
      · exact h.main (by simpa using hended)
  | message m =>
      rw [FanInThreads.step]
      split_ifs with hbusy
      · exact h
      · exact h.message (by simpa using (not_or.mp hbusy).1) m
  | handler =>
      rw [FanInThreads.step]
      split_ifs with hended
      · exact h
      · exact h.handler (by simpa using hended)

variable (S producer) in
lemma Watched.run (events : List (FanInEvent Bytes)) : ∀ {x : FanInThreads Bytes}, Watched x →
    Watched (x.run S producer events) := by
  induction events with
  | nil => exact id
  | cons e events ih => exact fun h => ih (h.step S producer e)

/-- What the report is worth, in every state that a run can reach. -/
structure IdleReports (S : MessageSerializer Bytes) (producer : ℕ → ProduceOutcome)
    (f : FanIn Bytes) (x : FanInThreads Bytes) : Prop where
  /-- the handlers do their work, whatever the main thread does -/
  handled : x.finish S producer = FanIn.receive S producer f x.received
  /-- the main thread raises only when a new agent is heard of while it makes a report -/
  ended : x.ended = true → x.disturbed = true ∧
    ∃ r, x.report = some r ∧ r.size < x.self.myMQTTtopicCounterPerUUID.size
  /-- when it has made its report, the last lines show the counts of all messages received -/
  current : x.handling = none → x.report = none → x.done = true → x.disturbed = false →
    (FanIn.receive S producer f x.received).idleReport <:+ x.printed

/-- **The report, in every run.**  It holds for any interleaving of the main thread, the handler and
the clock. -/
theorem idle_report_run (S : MessageSerializer Bytes) (producer : ℕ → ProduceOutcome)
    (f : FanIn Bytes) (time : ℚ) (events : List (FanInEvent Bytes)) :
    IdleReports S producer f ((start f time).run S producer events) := by
  have hwatched := (watched_start f time).run S producer events
  have hfinish := finish_run S producer f time events
  refine ⟨hfinish, hwatched.ended, fun hrest hreport hdone hquiet => ?_⟩
  rw [finish, hrest] at hfinish
  rw [← hfinish]
  exact (hwatched.current hreport hquiet hdone).2

/-- The handler of a message that follows a silence sets the timer when it is done; until then the
ten seconds are over, and the report may be made before the message has been counted. -/
example :
    let batch := fun count => FanInEvent.message ⟨"ibswitch/0",
      structuralSerializer.encodeBatch [⟨0, ⟨7⟩, .ofNat count⟩]⟩
    let x := (start (.start "ibswitch/0" true true false) 0).run structuralSerializer
      (fun _ => .accepted) ([batch 1, .handler, .handler, .time 11, batch 2]
        ++ List.replicate 5 .main ++ [.handler, .handler])
    x.handling = none ∧ x.report = none ∧ x.done = true ∧ x.printed = [(⟨7⟩, "ibswitch/0", 1)] ∧
      x.self.idleReport = [(⟨7⟩, "ibswitch/0", 2)] := by
  decide +kernel

/-! ## A process that receives nothing -/

/-- A report is due once ten seconds have gone by: none has been made since the last message, and
the check is on. -/
def Due (x : FanInThreads Bytes) : Prop := x.done = false ∧ x.self.enableMQTTbatchCount = true

instance (x : FanInThreads Bytes) : Decidable x.Due := inferInstanceAs (Decidable (_ ∧ _))

/-- Where the main thread is after `m` steps, `x` being the state before the first one. -/
inductive Stage (x : FanInThreads Bytes) (m : ℕ) (y : FanInThreads Bytes) : Prop
  | waiting (hreport : y.report = none) (hdone : y.done = x.done) (hprinted : y.printed = x.printed)
      (hm : x.Due → m = 0 ∨ x.self.myMQTTtopicCounterPerUUID.size = 0)
  | fetch (j : ℕ) (hdue : x.Due) (hj : j ≤ x.self.myMQTTtopicCounterPerUUID.size)
      (hreport : y.report = some ⟨x.self.myMQTTtopicCounterPerUUID.size, j, .fetch⟩)
      (hdone : y.done = decide (0 < j))
      (hprinted : y.printed = x.printed ++ x.self.idleReport.take j)
      (hm : x.self.myMQTTtopicCounterPerUUID.size = 0 ∨ m = 3 * j + 1)
  | print (j : ℕ) (uuid : UUID) (hdue : x.Due)
      (hkey : x.self.myMQTTtopicCounterPerUUID.keys[j]? = some uuid)
      (hreport : y.report = some ⟨x.self.myMQTTtopicCounterPerUUID.size, j + 1, .print uuid⟩)
      (hprinted : y.printed = x.printed ++ x.self.idleReport.take j) (hm : m = 3 * j + 2)
  | mark (j : ℕ) (hdue : x.Due) (hj : j < x.self.myMQTTtopicCounterPerUUID.size)
      (hreport : y.report = some ⟨x.self.myMQTTtopicCounterPerUUID.size, j + 1, .mark⟩)
      (hprinted : y.printed = x.printed ++ x.self.idleReport.take (j + 1)) (hm : m = 3 * j + 3)
  | finished (hdue : x.Due) (hreport : y.report = none) (hdone : y.done = true)
      (hprinted : y.printed = x.printed ++ x.self.idleReport)
      (hm : 3 * x.self.myMQTTtopicCounterPerUUID.size + 2 ≤ m)

/-- A process with nothing to handle, ten seconds after its last message. -/
structure Idling (x : FanInThreads Bytes) (m : ℕ) (y : FanInThreads Bytes) : Prop where
  self : y.self = x.self
  handling : y.handling = none
  ended : y.ended = false
  timer : y.mqttMsgTimer = x.mqttMsgTimer
  time : x.mqttMsgTimer + 10 < y.time
  stage : x.Stage m y

/-- The clock does not show. -/
lemma Stage.time {m : ℕ} {y : FanInThreads Bytes} (h : x.Stage m y) (t : ℚ) :
    x.Stage m { y with time := t } := by
  cases h with
  | waiting hreport hdone hprinted hm => exact .waiting hreport hdone hprinted hm
  | fetch j hdue hj hreport hdone hprinted hm => exact .fetch j hdue hj hreport hdone hprinted hm
  | print j uuid hdue hkey hreport hprinted hm => exact .print j uuid hdue hkey hreport hprinted hm
  | mark j hdue hj hreport hprinted hm => exact .mark j hdue hj hreport hprinted hm
  | finished hdue hreport hdone hprinted hm => exact .finished hdue hreport hdone hprinted hm

/-- **One step of the main thread** without a message in between: every third step prints the next
line. -/
lemma Idling.main {m : ℕ} {y : FanInThreads Bytes} (h : x.Idling m y) :
    x.Idling (m + 1) y.main := by
  obtain ⟨hself, hhandling, hended, htimer, htime, hstage⟩ := h
  cases hstage with
  | waiting hreport hdone hprinted hm =>
      by_cases hdue : x.Due
      · have hidle : y.mqttMsgTimer + 10 < y.time ∧ y.done = false ∧
            y.self.enableMQTTbatchCount = true :=
          ⟨htimer ▸ htime, hdone.trans hdue.1, hself ▸ hdue.2⟩
        simp only [FanInThreads.main, hreport, if_pos hidle]
        refine ⟨hself, hhandling, hended, htimer, htime, .fetch 0 hdue (Nat.zero_le _) ?_ ?_ ?_ ?_⟩
        · simp only [hself]
        · exact hidle.2.1
        · rw [List.take_zero, List.append_nil]
          exact hprinted
        · have hfirst := hm hdue
          omega
      · have hidle : ¬ (y.mqttMsgTimer + 10 < y.time ∧ y.done = false ∧
            y.self.enableMQTTbatchCount = true) :=
          fun hcond => hdue ⟨hdone.symm.trans hcond.2.1, hself ▸ hcond.2.2⟩
        simp only [FanInThreads.main, hreport, if_neg hidle]
        exact ⟨hself, hhandling, hended, htimer, htime,
          .waiting hreport hdone hprinted fun hd => absurd hd hdue⟩
  | fetch j hdue hj hreport hdone hprinted hm =>
      have hsame : ¬ y.self.myMQTTtopicCounterPerUUID.size
          ≠ x.self.myMQTTtopicCounterPerUUID.size := by
        rw [hself]
        exact not_not_intro rfl
      simp only [FanInThreads.main, hreport, if_neg hsame]
      cases hkey : y.self.myMQTTtopicCounterPerUUID.keys[j]? with
      | none =>
          have hend : x.self.myMQTTtopicCounterPerUUID.size ≤ j := by
            rw [hself] at hkey
            simpa [Dict.keys, Dict.size] using List.getElem?_eq_none_iff.mp hkey
          have hlength : x.self.idleReport.length ≤ j := by
            simpa [FanIn.idleReport, Dict.size] using hend
          rw [List.take_of_length_le hlength] at hprinted
          refine ⟨hself, hhandling, hended, htimer, htime, ?_⟩
          by_cases hempty : x.self.myMQTTtopicCounterPerUUID.size = 0
          · obtain rfl : j = 0 := by omega
            have hnothing : x.self.idleReport = [] := List.eq_nil_of_length_eq_zero (by omega)
            refine .waiting rfl (hdone.trans hdue.1.symm) ?_ fun _ => Or.inr hempty
            rw [← List.append_nil x.printed, ← hnothing]
            exact hprinted
          · refine .finished hdue rfl (hdone.trans ?_) hprinted ?_
            · exact decide_eq_true (by omega)
            · omega
      | some uuid =>
          rw [hself] at hkey
          have hlt : j < x.self.myMQTTtopicCounterPerUUID.size := by
            simpa [Dict.keys, Dict.size] using (List.getElem?_eq_some_iff.mp hkey).1
          exact ⟨hself, hhandling, hended, htimer, htime,
            .print j uuid hdue hkey rfl hprinted (by omega)⟩
  | print j uuid hdue hkey hreport hprinted hm =>
      have hknown := (Dict.mem_keys _).mp (List.mem_of_getElem? hkey)
      obtain ⟨c, hcount⟩ := Option.isSome_iff_exists.mp hknown
      have hlt : j < x.self.myMQTTtopicCounterPerUUID.size := by
        simpa [Dict.keys, Dict.size] using (List.getElem?_eq_some_iff.mp hkey).1
      simp only [FanInThreads.main, hreport, hself, hcount]
      refine ⟨rfl, hhandling, hended, htimer, htime, .mark j hdue hlt rfl ?_ (by omega)⟩
      show y.printed ++ _ = _
      rw [hprinted, List.append_assoc, take_idleReport hkey hcount]
  | mark j hdue hj hreport hprinted hm =>
      simp only [FanInThreads.main, hreport]
      exact ⟨hself, hhandling, hended, htimer, htime,
        .fetch (j + 1) hdue hj rfl (decide_eq_true (Nat.succ_pos j)).symm hprinted
          (Or.inr (by omega))⟩
  | finished hdue hreport hdone hprinted hm =>
      have hidle : ¬ (y.mqttMsgTimer + 10 < y.time ∧ y.done = false ∧
          y.self.enableMQTTbatchCount = true) :=
        fun hcond => absurd (hdone.symm.trans hcond.2.1) (by simp)
      simp only [FanInThreads.main, hreport, if_neg hidle]
      exact ⟨hself, hhandling, hended, htimer, htime,
        .finished hdue hreport hdone hprinted (by omega)⟩

/-- What has been printed after `m` steps of the main thread. -/
lemma Idling.printed {m : ℕ} {y : FanInThreads Bytes} (h : x.Idling m y) : y.printed
    = x.printed ++ if x.Due then x.self.idleReport.take (m / 3) else [] := by
  have hlength : x.self.idleReport.length = x.self.myMQTTtopicCounterPerUUID.size :=
    List.length_map _
  have hempty : x.self.myMQTTtopicCounterPerUUID.size = 0 → x.self.idleReport = [] := fun h0 =>
    List.eq_nil_of_length_eq_zero (hlength.trans h0)
  cases h.stage with
  | waiting hreport hdone hprinted hm =>
      split_ifs with hdue
      · rcases hm hdue with rfl | h0
        · simpa using hprinted
        · simpa [hempty h0] using hprinted
      · rw [List.append_nil]
        exact hprinted
  | fetch j hdue hj hreport hdone hprinted hm =>
      rw [if_pos hdue]
      rcases hm with h0 | rfl
      · simpa [hempty h0] using hprinted
      · rw [show (3 * j + 1) / 3 = j by omega]
        exact hprinted
  | print j uuid hdue hkey hreport hprinted hm =>
      rw [if_pos hdue, hm, show (3 * j + 2) / 3 = j by omega]
      exact hprinted
  | mark j hdue hj hreport hprinted hm =>
      rw [if_pos hdue, hm, show (3 * j + 3) / 3 = j + 1 by omega]
      exact hprinted
  | finished hdue hreport hdone hprinted hm =>
      rw [if_pos hdue, List.take_of_length_le (by omega)]
      exact hprinted

/-- The steps that the main thread makes, among events of all kinds. -/
def mains (events : List (FanInEvent Bytes)) : ℕ := events.countP fun
  | .main => true
  | _ => false

/-- No message comes, and ten seconds have gone by since the last one. -/
def Quiet (x : FanInThreads Bytes) (events : List (FanInEvent Bytes)) : Prop :=
  ∀ e ∈ events, match e with
    | .message _ => False
    | .time t => x.mqttMsgTimer + 10 < t
    | _ => True

/-- **The report of an idle process.**  Its lines are printed one after the other, every third step
of the main thread, and once; nothing is printed if it has been made before. -/
theorem idle_report_once (S : MessageSerializer Bytes) (producer : ℕ → ProduceOutcome)
    (x : FanInThreads Bytes) (hlive : x.ended = false) (hrest : x.handling = none ∧ x.report = none)
    (htime : x.mqttMsgTimer + 10 < x.time) (events : List (FanInEvent Bytes))
    (hquiet : x.Quiet events) :
    (x.run S producer events).ended = false ∧ (x.run S producer events).printed
      = x.printed ++ if x.Due then x.self.idleReport.take (mains events / 3) else [] := by
  suffices hidling : x.Idling (mains events) (x.run S producer events) from
    ⟨hidling.ended, hidling.printed⟩
  induction events using List.reverseRecOn with
  | nil => exact ⟨rfl, hrest.1, hlive, rfl, htime, .waiting hrest.2 rfl rfl fun _ => Or.inl rfl⟩
  | append_singleton events e ih =>
      have hprev := ih fun e' he' => hquiet e' (List.mem_append_left _ he')
      have he := hquiet e (List.mem_append_right _ (List.mem_singleton_self e))
      rw [run, List.foldl_append, List.foldl_cons, List.foldl_nil, ← run, mains, List.countP_append,
        ← mains]
      cases e with
      | message m => exact he.elim
      | main =>
          rw [step, if_neg (by simp [hprev.ended])]
          exact hprev.main
      | handler =>
          rw [step, if_neg (by simp [hprev.ended]), handler, hprev.handling]
          exact hprev
      | time t =>
          rw [step]
          exact ⟨hprev.self, hprev.handling, hprev.ended, hprev.timer, he, hprev.stage.time t⟩

/-- Two agents have been heard of, and later the main thread goes through its loop: their two lines
are printed, once each. -/
theorem idle_report_once_two_agents :
    let batch := fun u => FanInEvent.message ⟨"ibswitch/0",
      structuralSerializer.encodeBatch [⟨0, ⟨u⟩, .ofNat 1⟩]⟩
    let x := (start (.start "ibswitch/0" true true false) 0).run structuralSerializer
      (fun _ => .accepted) [batch 7, .handler, .handler, batch 8, .handler, .handler, .time 12]
    (x.run structuralSerializer (fun _ => .accepted) (.time 13 :: List.replicate 9 .main)).printed
      = [(⟨7⟩, "ibswitch/0", 1), (⟨8⟩, "ibswitch/0", 1)] := by
  intro batch x
  refine (idle_report_once structuralSerializer (fun _ => .accepted) x (by decide +kernel)
    (by decide +kernel) (by decide +kernel) _ ?_).2.trans (by decide +kernel)
  intro e he
  rcases List.mem_cons.mp he with rfl | he
  · show x.mqttMsgTimer + 10 < 13
    decide +kernel
  · rw [List.eq_of_mem_replicate he]
    trivial

end

end FanInThreads

end KrakenMare
