import KrakenMare.Framework.TwoStores

/-!
# What the Kafka topics tell of the repository

The Elasticsearch connectors of `config-connect/configure-connect.sh` read the topics
`agent-registration`, `device-registration` and `agent-deregistration`, so there is meant to be a
record for each of the three.  `MqttDeviceListListener` and `MqttDeregistrationListener` send one
after their answer.  `MqttRegistrationListener` sends none.

**Reading.**  `replay` is what a reader of these topics has of one agent: whether it is registered,
and the devices in its last record.  Which outputs count as a registration is a parameter, so that
the same reader can be asked about the records alone and about the records with the MQTT answers.
`Complete` says that what it has is what the repository holds.

* `directory_complete` — read together with the MQTT responses to registrations, the records tell
  the whole repository, provided every answer could be published.
* `complete_with_responses` — the same over both stores.
* `log_complete_iff` — **the records alone tell it just when every agent that registered has been
  deregistered since**, that is, when there is nothing to tell.
* `registration_not_logged` — one agent registers, and the topics know nothing of it.

The condition `AllLeave` is about the sequence of requests only.
-/

namespace KrakenMare

open Lib MqttDeviceListListener AgentRedisRepository

/-- The property `km.agent-registration.kafka.topic`; the topic has a connector, but no listener
sends to it. -/
def AGENT_REGISTRATION_TOPIC : String := "agent-registration"

/-! ## Reading the records -/

/-- The value of a record on a topic, under the key of an agent. -/
def Output.recordOf (topic : String) (u : UUID) : Output → Option Message
  | .publish _ _ _ => none
  | .send t key value => if t = topic ∧ key = some u.toString then some value else none

/-- A record of the agent on `agent-registration`, from which a reader would learn of it.  No
listener sends one. -/
def Output.recorded (u : UUID) (o : Output) : Bool :=
  (o.recordOf AGENT_REGISTRATION_TOPIC u).isSome

/-- The MQTT response that tells the agent its uuid, if it has been accepted. -/
def Output.answered (u : UUID) : Output → Bool
  | .publish _ (.registerResponse r) true => r.uuid = u
  | _ => false

/-- A record of the agent on `agent-deregistration` that says it succeeded. -/
def Output.deregistered (u : UUID) (o : Output) : Bool :=
  match o.recordOf AGENT_DEREGISTRATION_TOPIC u with
  | some (.deregisterResponse r) => r.success
  | _ => false

/-- The devices in a record of the agent on `device-registration`. -/
def Output.devices? (u : UUID) (o : Output) : Option (List Device) :=
  match o.recordOf DEVICE_REGISTRATION_TOPIC u with
  | some (.agent a) => some a.devices
  | _ => none

/-- What a reader has of one agent: whether it is registered, as far as the reader can tell, and the
devices of the last record about it. -/
structure Seen where
  registered : Bool
  devices : List Device
deriving DecidableEq

/-- One output is read.  `registers` says which outputs count as a registration. -/
def Seen.read (registers : UUID → Output → Bool) (u : UUID) (s : Seen) (o : Output) : Seen where
  registered := registers u o || (s.registered && !o.deregistered u)
  devices := (o.devices? u).getD s.devices

/-- What a reader has of one agent after all outputs, which it reads from the first on. -/
def replay (registers : UUID → Output → Bool) (u : UUID) (log : List Output) : Seen :=
  log.foldl (Seen.read registers u) ⟨false, []⟩

/-- The agents are those registered and not deregistered since, and the devices of each are those of
its last record. -/
structure Complete (registers : UUID → Output → Bool) (log : List Output) (agents : List Agent) :
    Prop where
  present : ∀ u, (∃ a ∈ agents, a.uuid = some u) ↔ (replay registers u log).registered = true
  devices : ∀ a ∈ agents, ∀ u, a.uuid = some u → a.devices = (replay registers u log).devices

section
variable {registers : UUID → Output → Bool} {log : List Output} {u : UUID}

@[simp] lemma replay_nil : replay registers u [] = ⟨false, []⟩ := rfl

@[simp] lemma replay_concat {o : Output} : replay registers u (log ++ [o])
    = (replay registers u log).read registers u o := by
  simp [replay]

/-- An agent that no output registers is never there. -/
lemma replay_registered (h : ∀ o ∈ log, registers u o = false) :
    (replay registers u log).registered = false := by
  induction log using List.reverseRecOn with
  | nil => rfl
  | append_singleton log o ih =>
      have hlog := ih fun x hx => h x (List.mem_append_left _ hx)
      have ho := h o (List.mem_append_right _ List.mem_cons_self)
      simp [Seen.read, hlog, ho]

/-- **With no registration in the log** the log is complete just when there is no agent: a reader
that never sees one come knows of none. -/
theorem complete_iff_nil {agents : List Agent} (hlog : ∀ u, ∀ o ∈ log, registers u o = false)
    (huuid : ∀ a ∈ agents, ∃ u, a.uuid = some u) :
    Complete registers log agents ↔ agents = [] := by
  constructor
  · intro h
    refine List.eq_nil_iff_forall_not_mem.mpr fun a ha => ?_
    obtain ⟨u, hu⟩ := huuid a ha
    have hreg := (h.present u).mp ⟨a, ha, hu⟩
    rw [replay_registered (hlog u)] at hreg
    exact absurd hreg (by simp)
  · rintro rfl
    exact ⟨fun u => by simp [replay_registered (hlog u)], fun a ha => absurd ha List.not_mem_nil⟩

end

/-! ## The outputs of the listeners -/

@[simp] lemma UUID.toString_inj {u v : UUID} : u.toString = v.toString ↔ u = v :=
  ⟨UUID.toString_injective, fun h => h ▸ rfl⟩

@[simp] lemma recordOf_send {topic t : String} {u v : UUID} {value : Message} :
    (Output.send t (some v.toString) value).recordOf topic u
      = if t = topic ∧ v = u then some value else none := by
  simp [Output.recordOf]

@[simp] lemma recordOf_publish {topic t : String} {u : UUID} {message : Message} {b : Bool} :
    (Output.publish t message b).recordOf topic u = none := rfl

section
variable (s : Seen) (u v : UUID)

lemma read_registered {topic uid text : String} {b : Bool} :
    s.read Output.answered u (.publish topic (.registerResponse ⟨uid, b, text, v, ∅⟩) true)
      = if v = u then { s with registered := true } else s := by
  split_ifs with h
  · simp [Seen.read, Output.answered, Output.devices?, h]
  · simp [Seen.read, Output.answered, Output.devices?, Output.deregistered, h]

lemma read_deviceListResponse {topic : String} {r : DeviceListResponse} {b : Bool} :
    s.read Output.answered u (.publish topic (.deviceListResponse r) b) = s := by
  simp [Seen.read, Output.answered, Output.devices?, Output.deregistered]

lemma read_deregisterResponse {topic : String} {r : DeregisterResponse} {b : Bool} :
    s.read Output.answered u (.publish topic (.deregisterResponse r) b) = s := by
  simp [Seen.read, Output.answered, Output.devices?, Output.deregistered]

lemma read_agentRecord {a : Agent} :
    s.read Output.answered u (.send DEVICE_REGISTRATION_TOPIC (some v.toString) (.agent a))
      = if v = u then { s with devices := a.devices } else s := by
  have htopic : DEVICE_REGISTRATION_TOPIC ≠ AGENT_DEREGISTRATION_TOPIC := by decide
  split_ifs with h
  · simp [Seen.read, Output.answered, Output.devices?, Output.deregistered, h, htopic]
  · simp [Seen.read, Output.answered, Output.devices?, Output.deregistered, h]

lemma read_deregistered {r : UUID} :
    s.read Output.answered u
        (.send AGENT_DEREGISTRATION_TOPIC (some v.toString) (.deregisterResponse ⟨r, true⟩))
      = if v = u then { s with registered := false } else s := by
  have htopic : AGENT_DEREGISTRATION_TOPIC ≠ DEVICE_REGISTRATION_TOPIC := by decide
  split_ifs with h
  · simp [Seen.read, Output.answered, Output.devices?, Output.deregistered, h, htopic]
  · simp [Seen.read, Output.answered, Output.devices?, Output.deregistered, h]

end

/-! ## A complete log -/

/-- The directory has an agent with this uuid, with whatever devices. -/
def Directory.Holds (D : Directory) (u : UUID) : Prop := ∃ a ∈ D.agents, a.uuid = some u

lemma Directory.holds_setDevices {D : Directory} {u v : UUID} {ds : List Device} :
    (D.setDevices u ds).Holds v ↔ D.Holds v := by
  have huuids := congrArg (some v ∈ ·) (Directory.map_uuid_setDevices D u ds)
  simp only [List.mem_map] at huuids
  exact iff_of_eq huuids

/-- The log tells all of the directory, and nothing of agents that are still to come. -/
structure InStep (E : Environment) (w : Alone Directory) : Prop where
  complete : Complete Output.answered w.outputs w.store.agents
  ahead : ∀ u ∉ E.next 0 w.drawn, replay Output.answered u w.outputs = ⟨false, []⟩

namespace InStep

variable {E : Environment} {w : Alone Directory}

lemma start (E : Environment) : InStep E (Alone.start Directory.empty) :=
  ⟨⟨fun u => by simp [Alone.start, Directory.empty], fun a ha => absurd ha List.not_mem_nil⟩,
    fun u _ => rfl⟩

lemma not_mem_of_le {n m : ℕ} {u : UUID} (h : u ∉ E.next 0 (n + m)) : u ∉ E.next 0 n := by
  rw [Environment.next_add, List.mem_append, not_or] at h
  exact h.1

/-- A registration whose response is accepted: a reader sees the new agent come, and no other
one. -/
lemma register (h : InStep E w) (hd : E.Distinct (w.drawn + 1)) (m : RegisterRequest) : InStep E
    { w with
      store := w.store.register m (E.uuids w.drawn)
      drawn := w.drawn + 1
      published := w.published + 1
      outputs := w.outputs ++ [.publish (getRegistrationResponseTopic m.uid)
        (.registerResponse ⟨m.uid, true, "Registration succeed", E.uuids w.drawn, ∅⟩) true] } := by
  have hfresh := h.ahead _ hd.fresh
  refine ⟨⟨fun u => ?_, fun a ha u hau => ?_⟩, fun u hu => ?_⟩
  · simp only [replay_concat, read_registered, Directory.register, List.mem_append,
      List.mem_singleton, Directory.created]
    split_ifs with hnew
    · simp [← hnew]
    · rw [← h.complete.present u]
      constructor
      · rintro ⟨a, ha | rfl, hau⟩
        · exact ⟨a, ha, hau⟩
        · exact absurd (Option.some.inj hau) hnew
      · rintro ⟨a, ha, hau⟩
        exact ⟨a, Or.inl ha, hau⟩
  · simp only [replay_concat, read_registered]
    rcases List.mem_append.mp ha with ha | ha
    · have hdev := h.complete.devices a ha u hau
      split_ifs
      · exact hdev
      · exact hdev
    · rw [List.mem_singleton] at ha
      subst ha
      obtain rfl : E.uuids w.drawn = u := Option.some.inj hau
      rw [hfresh, if_pos rfl]
      rfl
  · have hne : E.uuids w.drawn ≠ u := by
      rintro rfl
      exact hu (Environment.mem_next.mpr ⟨w.drawn, Nat.lt_succ_self _, by simp⟩)
    simp only [replay_concat, read_registered, if_neg hne]
    exact h.ahead u (not_mem_of_le hu)

/-- A device list whose record is sent: a reader has the devices that are stored. -/
lemma setDevices (h : InStep E w) (hw : Directory.WellFormed E w) {u : UUID} {a : Agent}
    (ha : w.store.find u = some a) (ds : List Device) (n : ℕ) {topic : String}
    {response : DeviceListResponse} : InStep E
    { w with
      store := w.store.setDevices u ds
      drawn := w.drawn + n
      published := w.published + 1
      outputs := w.outputs ++ [.publish topic (.deviceListResponse response) true]
        ++ [.send DEVICE_REGISTRATION_TOPIC (some u.toString)
          (.agent { a with devices := ds })] } := by
  obtain ⟨hmem, hau⟩ := Directory.find_eq_some ha
  refine ⟨⟨fun v => ?_, fun b hb v hbv => ?_⟩, fun v hv => ?_⟩
  · refine Directory.holds_setDevices.trans ((h.complete.present v).trans ?_)
    simp only [replay_concat, read_deviceListResponse, read_agentRecord]
    split_ifs <;> rfl
  · obtain ⟨c, hc, rfl⟩ := List.mem_map.mp hb
    simp only [replay_concat, read_deviceListResponse, read_agentRecord]
    split_ifs at hbv ⊢ with hcu huv huv
    · rfl
    · exact absurd (Option.some.inj (hcu.symm.trans hbv)) huv
    · exact absurd (hbv.trans (congrArg some huv.symm)) hcu
    · exact h.complete.devices c hc v hbv
  · have hne : u ≠ v := by
      rintro rfl
      obtain ⟨x, hx, hax⟩ := hw.drawn a hmem
      exact not_mem_of_le hv (Option.some.inj (hax.symm.trans hau) ▸ hx)
    simp only [replay_concat, read_deviceListResponse, read_agentRecord, if_neg hne]
    exact h.ahead v (not_mem_of_le hv)

/-- A deregistration whose record is sent: a reader sees the agent go, and no other one. -/
lemma delete (h : InStep E w) (u : UUID) {topic : String} {response : DeregisterResponse} :
    InStep E
    { w with
      store := w.store.delete u
      published := w.published + 1
      outputs := w.outputs ++ [.publish topic (.deregisterResponse response) true]
        ++ [.send AGENT_DEREGISTRATION_TOPIC (some u.toString)
          (.deregisterResponse ⟨u, true⟩)] } := by
  refine ⟨⟨fun v => ?_, fun b hb v hbv => ?_⟩, fun v hv => ?_⟩
  · simp only [replay_concat, read_deregisterResponse, read_deregistered, Directory.delete,
      List.mem_filter, decide_eq_true_eq]
    split_ifs with huv
    · simp only [iff_false, not_exists]
      rintro b ⟨⟨-, hb⟩, hbv⟩
      exact hb (hbv.trans (congrArg some huv.symm))
    · rw [← h.complete.present v]
      constructor
      · rintro ⟨b, ⟨hb, -⟩, hbv⟩
        exact ⟨b, hb, hbv⟩
      · rintro ⟨b, hb, hbv⟩
        exact ⟨b, ⟨hb, fun hbu => huv (Option.some.inj (hbu.symm.trans hbv))⟩, hbv⟩
  · have hdev := h.complete.devices b (List.mem_of_mem_filter hb) v hbv
    simp only [replay_concat, read_deregisterResponse, read_deregistered]
    split_ifs
    · exact hdev
    · exact hdev
  · simp only [replay_concat, read_deregisterResponse, read_deregistered, h.ahead v hv]
    split_ifs <;> rfl

/-- **A request that is published** keeps the log in step: with the MQTT responses taken for the
records of the registrations that are missing, it still tells all of the directory. -/
theorem handle (h : InStep E w) (hw : Directory.WellFormed E w) (haccepts : ∀ n, E.accepts n = true)
    {m : Request} (hd : E.Distinct (w.drawn + m.draws)) : InStep E (Directory.handle E m w).2 := by
  cases m with
  | register m =>
      simp only [Directory.handle, publishing, haccepts, if_true]
      exact h.register hd m
  | devices m =>
      simp only [Directory.handle, publishing, haccepts, if_true]
      cases hfind : w.store.find m.uuid with
      | none => exact ⟨h.complete, fun u hu => h.ahead u (not_mem_of_le hu)⟩
      | some a => exact h.setDevices hw hfind _ _
  | deregister m =>
      simp only [Directory.handle, publishing, haccepts, if_true]
      cases w.store.find m.uuid with
      | none => exact h
      | some _ => exact h.delete m.uuid

end InStep

/-- **The records and the responses to registrations** tell the whole directory, as long as the MQTT
client takes every response. -/
theorem directory_complete {E : Environment} (haccepts : ∀ n, E.accepts n = true) :
    ∀ (requests : List Request) {w : Alone Directory}, InStep E w → Directory.WellFormed E w →
    E.Distinct (w.drawn + totalDraws requests) → InStep E (Directory.serve E requests w).2
  | [], _, h, _, _ => h
  | m :: requests, w, h, hw, hd => by
      rw [totalDraws, List.map_cons, List.sum_cons, ← Nat.add_assoc] at hd
      have hdm : E.Distinct (w.drawn + m.draws) := hd.mono (Nat.le_add_right _ _)
      have hrest : E.Distinct ((Directory.handle E m w).2.drawn + totalDraws requests) := by
        rw [(Directory.handle_after E m w).2]
        exact hd
      exact directory_complete haccepts requests (h.handle hw haccepts hdm) (hw.handle hdm) hrest

/-! ## Who is left -/

/-- Every agent that registers is deregistered by a later request. -/
def AllLeave (E : Environment) (requests : List Request) : Prop :=
  ∀ before m after, requests = before ++ .register m :: after →
    .deregister ⟨E.uuids (totalDraws before)⟩ ∈ after

namespace Directory

variable {E : Environment} {u : UUID}

lemma isSome_find_iff {D : Directory} : (D.find u).isSome ↔ D.Holds u := by
  simp [find, Holds, List.find?_isSome]

/-- An agent is there after a request if it was and is not deregistered, or if it is new. -/
lemma holds_after (w : Alone Directory) (m : Request) : (after E w m).Holds u ↔
    (w.store.Holds u ∧ m ≠ .deregister ⟨u⟩) ∨
      (∃ req, m = .register req) ∧ E.uuids w.drawn = u := by
  cases m with
  | register req =>
      simp only [after, Holds, register, created, List.mem_append, List.mem_singleton]
      constructor
      · rintro ⟨a, ha | rfl, hau⟩
        · exact Or.inl ⟨⟨a, ha, hau⟩, by simp⟩
        · exact Or.inr ⟨⟨req, rfl⟩, Option.some.inj hau⟩
      · rintro (⟨⟨a, ha, hau⟩, -⟩ | ⟨-, hu⟩)
        · exact ⟨a, Or.inl ha, hau⟩
        · exact ⟨_, Or.inr rfl, congrArg some hu⟩
  | devices req =>
      simp only [after]
      split_ifs <;> simp [holds_setDevices]
  | deregister req =>
      have hgone : (after E w (.deregister req)).Holds u ↔ w.store.Holds u ∧ req.uuid ≠ u := by
        simp only [after]
        split_ifs with hfound
        · simp only [Holds, delete, List.mem_filter, decide_eq_true_eq]
          constructor
          · rintro ⟨a, ⟨ha, hne⟩, hau⟩
            exact ⟨⟨a, ha, hau⟩, fun h => hne (hau.trans (congrArg some h.symm))⟩
          · rintro ⟨⟨a, ha, hau⟩, hne⟩
            exact ⟨a, ⟨ha, fun h => hne (Option.some.inj (h.symm.trans hau))⟩, hau⟩
        · rw [isSome_find_iff] at hfound
          exact ⟨fun h => ⟨h, fun hu => hfound (hu ▸ h)⟩, And.left⟩
      rw [hgone]
      obtain ⟨v⟩ := req
      simp

/-- **Who is there at the end**: those that were there or were registered, and were not deregistered
afterwards. -/
theorem holds_serve : ∀ (requests : List Request) (w : Alone Directory),
    (serve E requests w).2.store.Holds u ↔
      (w.store.Holds u ∧ .deregister ⟨u⟩ ∉ requests) ∨
        ∃ before m after, requests = before ++ .register m :: after ∧
          E.uuids (w.drawn + totalDraws before) = u ∧ .deregister ⟨u⟩ ∉ after
  | [], w => by simp [serve]
  | m :: requests, w => by
      have ih := holds_serve requests (Directory.handle E m w).2
      obtain ⟨hstore, hdrawn⟩ := handle_after E m w
      rw [hstore, hdrawn, holds_after] at ih
      refine ih.trans ?_
      constructor
      · rintro (⟨⟨hu, hm⟩ | ⟨⟨req, rfl⟩, hu⟩, hrest⟩ | ⟨before, req, after, rfl, hu, hafter⟩)
        · exact Or.inl ⟨hu, by simp [hrest, hm.symm]⟩
        · exact Or.inr ⟨[], req, requests, rfl, hu, hrest⟩
        · refine Or.inr ⟨m :: before, req, after, rfl, ?_, hafter⟩
          rw [totalDraws, List.map_cons, List.sum_cons, ← Nat.add_assoc]
          exact hu
      · rintro (⟨hu, hrest⟩ | ⟨before, req, after, heq, hu, hafter⟩)
        · rw [List.mem_cons, not_or] at hrest
          exact Or.inl ⟨Or.inl ⟨hu, fun h => hrest.1 h.symm⟩, hrest.2⟩
        · rcases List.cons_eq_append_iff.mp heq with ⟨rfl, hcons⟩ | ⟨before, rfl, rfl⟩
          · obtain ⟨rfl, rfl⟩ := List.cons.inj hcons
            exact Or.inl ⟨Or.inr ⟨⟨req, rfl⟩, hu⟩, hafter⟩
          · refine Or.inr ⟨before, req, after, rfl, ?_, hafter⟩
            rw [totalDraws, List.map_cons, List.sum_cons, ← Nat.add_assoc] at hu
            exact hu

/-- Requests keep the directory well formed, whatever their number. -/
lemma WellFormed.serve : ∀ (requests : List Request) {w : Alone Directory}, WellFormed E w →
    E.Distinct (w.drawn + totalDraws requests) → WellFormed E (Directory.serve E requests w).2
  | [], _, hw, _ => hw
  | m :: requests, w, hw, hd => by
      rw [totalDraws, List.map_cons, List.sum_cons, ← Nat.add_assoc] at hd
      have hrest : E.Distinct ((Directory.handle E m w).2.drawn + totalDraws requests) := by
        rw [(handle_after E m w).2]
        exact hd
      exact WellFormed.serve requests (hw.handle (hd.mono (Nat.le_add_right _ _))) hrest

/-- Nobody is left just when everybody has been deregistered. -/
lemma agents_eq_nil_iff {requests : List Request} (hd : E.Distinct (totalDraws requests)) :
    (serve E requests (Alone.start empty)).2.store.agents = [] ↔ AllLeave E requests := by
  have hw := WellFormed.serve requests (WellFormed.start E) (by simpa [Alone.start] using hd)
  have hnil : (serve E requests (Alone.start empty)).2.store.agents = [] ↔
      ∀ u, ¬ (serve E requests (Alone.start empty)).2.store.Holds u := by
    constructor
    · rintro hnil u ⟨a, ha, -⟩
      exact absurd (hnil ▸ ha) List.not_mem_nil
    · intro hnone
      refine List.eq_nil_iff_forall_not_mem.mpr fun a ha => ?_
      obtain ⟨u, -, hau⟩ := hw.drawn a ha
      exact hnone u ⟨a, ha, hau⟩
  rw [hnil]
  simp only [holds_serve]
  constructor
  · intro hnone before m after heq
    by_contra hstays
    exact hnone _ (Or.inr ⟨before, m, after, heq, by simp [Alone.start], hstays⟩)
  · rintro hleave u (⟨⟨a, ha, -⟩, -⟩ | ⟨before, m, after, heq, rfl, hstays⟩)
    · exact absurd ha List.not_mem_nil
    · exact hstays (by simpa [Alone.start] using hleave before m after heq)

/-- The listeners send nothing to `agent-registration`. -/
lemma handle_outputs (m : Request) {w : Alone Directory}
    (h : ∀ u, ∀ o ∈ w.outputs, o.recorded u = false) :
    ∀ u, ∀ o ∈ (handle E m w).2.outputs, o.recorded u = false := by
  have hdevice : DEVICE_REGISTRATION_TOPIC ≠ AGENT_REGISTRATION_TOPIC := by decide
  have hderegister : AGENT_DEREGISTRATION_TOPIC ≠ AGENT_REGISTRATION_TOPIC := by decide
  cases m with
  | register m =>
      simp only [handle, publishing]
      split_ifs <;> simpa [or_imp, forall_and, Output.recorded] using h
  | devices m =>
      simp only [handle, publishing]
      cases w.store.find m.uuid with
      | none => exact h
      | some a =>
          simp only
          split_ifs <;> simpa [or_imp, forall_and, Output.recorded, hdevice] using h
  | deregister m =>
      simp only [handle, publishing]
      cases w.store.find m.uuid with
      | none => exact h
      | some a =>
          simp only
          split_ifs <;> simpa [or_imp, forall_and, Output.recorded, hderegister] using h

lemma serve_outputs : ∀ (requests : List Request) {w : Alone Directory},
    (∀ u, ∀ o ∈ w.outputs, o.recorded u = false) →
    ∀ u, ∀ o ∈ (serve E requests w).2.outputs, o.recorded u = false
  | [], _, h => h
  | m :: requests, _, h => serve_outputs requests (handle_outputs m h)

end Directory

/-! ## Over both stores -/

section
variable {registers : UUID → Output → Bool} {log : List Output} {u : UUID}

/-- `Output.shiftId` on the record in it; no other message shows the id of an agent. -/
def Message.shiftId : Message → Message
  | .agent a => .agent a.shiftId
  | message => message

lemma recordOf_shiftId (topic : String) (o : Output) :
    o.shiftId.recordOf topic u = (o.recordOf topic u).map Message.shiftId := by
  cases o with
  | publish t message accepted => rfl
  | send t key value =>
      have hvalue : (Output.send t key value).shiftId = .send t key value.shiftId := by
        cases value <;> rfl
      rw [hvalue, Output.recordOf, Output.recordOf]
      split_ifs <;> rfl

lemma devices?_shiftId (o : Output) : o.shiftId.devices? u = o.devices? u := by
  rw [Output.devices?, recordOf_shiftId, Output.devices?]
  cases o.recordOf DEVICE_REGISTRATION_TOPIC u with
  | none => rfl
  | some message => cases message <;> rfl

lemma deregistered_shiftId (o : Output) : o.shiftId.deregistered u = o.deregistered u := by
  rw [Output.deregistered, recordOf_shiftId, Output.deregistered]
  cases o.recordOf AGENT_DEREGISTRATION_TOPIC u with
  | none => rfl
  | some message => cases message <;> rfl

lemma recorded_shiftId (u : UUID) (o : Output) : o.shiftId.recorded u = o.recorded u := by
  rw [Output.recorded, recordOf_shiftId, Option.isSome_map, Output.recorded]

lemma answered_shiftId (u : UUID) (o : Output) : o.shiftId.answered u = o.answered u := by
  cases o with
  | publish topic message accepted => rfl
  | send topic key value => cases value <;> rfl

/-- The numbering of the agents does not show. -/
lemma complete_shiftId (h : ∀ u o, registers u o.shiftId = registers u o) {agents : List Agent} :
    Complete registers (log.map Output.shiftId) (agents.map Agent.shiftId)
      ↔ Complete registers log agents := by
  have hread : ∀ u (s : Seen) o, s.read registers u o.shiftId = s.read registers u o := by
    intro u s o
    rw [Seen.read, h, deregistered_shiftId, devices?_shiftId, Seen.read]
  have hreplay : ∀ u, replay registers u (log.map Output.shiftId) = replay registers u log := by
    intro u
    simp only [replay, List.foldl_map, hread]
  constructor
  · rintro ⟨hpresent, hdevices⟩
    refine ⟨fun u => ?_, fun a ha u hu => ?_⟩
    · simpa [hreplay, Agent.shiftId] using hpresent u
    · simpa [hreplay, Agent.shiftId] using hdevices a.shiftId (List.mem_map_of_mem ha) u hu
  · rintro ⟨hpresent, hdevices⟩
    refine ⟨fun u => ?_, fun a ha u hu => ?_⟩
    · simpa [hreplay, Agent.shiftId] using hpresent u
    · obtain ⟨b, hb, rfl⟩ := List.mem_map.mp ha
      simpa [hreplay, Agent.shiftId] using hdevices b hb u hu

end

variable (E : Environment)

/-- What Redis holds after some requests, in the order in which the agents came. -/
def redisAgents (requests : List Request) : List Agent :=
  (overRedis E requests).2.store.myAgentsKey.values

/-- What the in-memory repository holds after some requests. -/
def memoryAgents (requests : List Request) : List Agent :=
  (overMemory E requests).2.store.agents.map (overMemory E requests).2.store.objects

/-- Both stores hold the directory, and both let out what it says. -/
lemma complete_stores {registers : UUID → Output → Bool}
    (h : ∀ u o, registers u o.shiftId = registers u o) {requests : List Request}
    (hd : E.Distinct (totalDraws requests)) :
    (Complete registers (overRedis E requests).2.outputs (redisAgents E requests) ↔
      Complete registers (Directory.serve E requests (Alone.start Directory.empty)).2.outputs
        (Directory.serve E requests (Alone.start Directory.empty)).2.store.agents) ∧
    (Complete registers (overMemory E requests).2.outputs (memoryAgents E requests) ↔
      Complete registers (Directory.serve E requests (Alone.start Directory.empty)).2.outputs
        (Directory.serve E requests (Alone.start Directory.empty)).2.store.agents) := by
  have hdistinct : E.Distinct (0 + totalDraws requests) := by simpa using hd
  have hstart := Directory.WellFormed.start E
  obtain ⟨-, hr, -⟩ := redis_serve E requests InRedis.start hstart hdistinct
  obtain ⟨-, hm⟩ := memory_serve E requests InMemory.start hstart hdistinct
  have hvalues : redisAgents E requests = (Directory.serve E requests
      (Alone.start Directory.empty)).2.store.agents.map Agent.shiftId := by
    show (serve E Redis.exec _ requests _).2.store.myAgentsKey.entries.map Prod.snd = _
    rw [hr.entries, List.map_map]
    rfl
  constructor
  · rw [hvalues, overRedis, hr.outputs]
    exact complete_shiftId h
  · rw [memoryAgents, overMemory, hm.outputs, hm.agents]

/-- **What the records leave out are the registrations.**  Together with the MQTT responses to them,
they tell the whole repository after any requests, as long as the random UUIDs are distinct and the
client takes every response. -/
theorem complete_with_responses (haccepts : ∀ n, E.accepts n = true) (requests : List Request)
    (hd : E.Distinct (totalDraws requests)) :
    Complete Output.answered (overRedis E requests).2.outputs (redisAgents E requests) ∧
    Complete Output.answered (overMemory E requests).2.outputs (memoryAgents E requests) := by
  obtain ⟨hredis, hmemory⟩ := complete_stores E answered_shiftId hd
  have hlog := (directory_complete haccepts requests (InStep.start E)
    (Directory.WellFormed.start E) (by simpa [Alone.start] using hd)).complete
  exact ⟨hredis.mpr hlog, hmemory.mpr hlog⟩

/-- **The Kafka topics tell the repository only when it is empty.**  No registration is ever sent to
`agent-registration`, so the records determine the repository just when every agent that registered
has been deregistered since. -/
theorem log_complete_iff (requests : List Request) (hd : E.Distinct (totalDraws requests)) :
    (Complete Output.recorded (overRedis E requests).2.outputs (redisAgents E requests)
      ↔ AllLeave E requests) ∧
    (Complete Output.recorded (overMemory E requests).2.outputs (memoryAgents E requests)
      ↔ AllLeave E requests) := by
  obtain ⟨hredis, hmemory⟩ := complete_stores E recorded_shiftId hd
  have hw := Directory.WellFormed.serve requests (Directory.WellFormed.start E)
    (by simpa [Alone.start] using hd)
  have hsilent := Directory.serve_outputs (E := E) requests (w := Alone.start Directory.empty)
    fun u o ho => absurd ho List.not_mem_nil
  have hlog := complete_iff_nil hsilent fun a ha => (hw.drawn a ha).imp fun u hu => hu.2
  have hleave := Directory.agents_eq_nil_iff hd
  exact ⟨hredis.trans (hlog.trans hleave), hmemory.trans (hlog.trans hleave)⟩

/-- An agent that registers, sends its devices and leaves: the repository is empty again, and the
topics agree. -/
theorem log_complete_iff_life_cycle :
    (Complete Output.recorded (overRedis counting (lifeCycle.take 3)).2.outputs
      (redisAgents counting (lifeCycle.take 3)) ↔ AllLeave counting (lifeCycle.take 3)) ∧
    (Complete Output.recorded (overMemory counting (lifeCycle.take 3)).2.outputs
      (memoryAgents counting (lifeCycle.take 3)) ↔ AllLeave counting (lifeCycle.take 3)) :=
  log_complete_iff counting (lifeCycle.take 3) (by decide)

/-- One agent registers, and the topics know nothing of it: the answer is published, and there is no
record. -/
theorem registration_not_logged :
    (overRedis counting [.register ⟨"r1i0c", "IBswitch", "simulator", "", false⟩]).1
      = [.ok (.registerResponse ⟨"r1i0c", true, "Registration succeed", ⟨0⟩, ∅⟩)] ∧
    ¬ Complete Output.recorded
      (overRedis counting [.register ⟨"r1i0c", "IBswitch", "simulator", "", false⟩]).2.outputs
      (redisAgents counting [.register ⟨"r1i0c", "IBswitch", "simulator", "", false⟩]) := by
  refine ⟨by decide, fun h => ?_⟩
  have hthere := (h.present ⟨0⟩).mp ⟨⟨1, "r1i0c", some ⟨0⟩, "simulator", []⟩, by decide, rfl⟩
  exact absurd hthere (by decide)

end KrakenMare
