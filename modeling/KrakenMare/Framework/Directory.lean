import KrakenMare.Framework.Alone

/-!
# What a repository is for

The abstract repository.  A `Directory` is the number of agents created, and the agents there are
in the order they were registered, each uuid once.  `Directory.handle` says what the framework does
with one request, without saying how the agents are kept: there are no keys, no documents, no
references and no counter that starts from 0 or from 1.

**A registration** adds an agent with the next number and the next UUID.  **A device list** gives
the agent its devices, with the next UUIDs in them.  **A deregistration** removes the agent.  The
last two throw on an unknown uuid, and all three answer, which may fail as well; `publishing` is
where.

* `handle_after` — what a request leaves in the directory, and how many UUIDs it has taken.
* `WellFormed.handle` — every agent has a uuid that was drawn and no two have the same, and
  requests keep this as long as the UUIDs do not repeat.

The two implementations are compared with it in `Framework.TwoStores`, and the Kafka records of a
run in `Framework.KafkaLog`.
-/

namespace KrakenMare

open Lib MqttDeviceListListener

/-- The number of agents created so far, and the agents that there are. -/
structure Directory where
  index : ℕ
  agents : List Agent
deriving DecidableEq

namespace Directory

/-- The directory before the first request: no agents, and numbers from 0 on. -/
def empty : Directory := ⟨0, []⟩

/-- The agent with a uuid.  In a well-formed directory there is at most one. -/
def find (D : Directory) (u : UUID) : Option Agent := D.agents.find? fun a => a.uuid = some u

/-- The agent that is registered next, under the number of the directory and with no devices. -/
def created (D : Directory) (m : RegisterRequest) (u : UUID) : Agent :=
  ⟨D.index, m.uid, some u, m.name, []⟩

/-- A new agent comes last, and the number goes up.  No number is ever given again. -/
def register (D : Directory) (m : RegisterRequest) (u : UUID) : Directory :=
  ⟨D.index + 1, D.agents ++ [D.created m u]⟩

/-- The agent with this uuid gets other devices, all at once; everything else stays as it is. -/
def setDevices (D : Directory) (u : UUID) (devices : List Device) : Directory :=
  { D with agents := D.agents.map fun a =>
      if a.uuid = some u then { a with devices := devices } else a }

/-- The agent with this uuid is removed.  The number stays, so that it is not given again. -/
def delete (D : Directory) (u : UUID) : Directory :=
  { D with agents := D.agents.filter fun a => a.uuid ≠ some u }

end Directory

/-- What the framework does with one request.  The store is changed before the answer is published,
so a request whose answer is refused has had its effect, but is not reported to Kafka. -/
def Directory.handle (E : Environment) :
    Request → Alone Directory → Except ProcessException Message × Alone Directory
  | .register m, w =>
      let u := E.uuids w.drawn
      let response := .registerResponse ⟨m.uid, true, "Registration succeed", u, ∅⟩
      publishing E (getRegistrationResponseTopic m.uid) response
        { w with store := w.store.register m u, drawn := w.drawn + 1 } fun w => (.ok response, w)
  | .devices m, w =>
      let devices := assignDevices m.devices (E.next w.drawn (slots m.devices))
      let response := .deviceListResponse ⟨m.uuid, deviceUuids devices⟩
      match w.store.find m.uuid with
      | none => (.error (.entityNotFound m.uuid), { w with drawn := w.drawn + slots m.devices })
      | some a =>
          publishing E (getSensorListResponseTopic m.uuid) response
            { w with store := w.store.setDevices m.uuid devices,
                     drawn := w.drawn + slots m.devices }
            fun w => (.ok response, { w with outputs := w.outputs ++
              [.send DEVICE_REGISTRATION_TOPIC (some m.uuid.toString)
                (.agent { a with devices := devices })] })
  | .deregister m, w =>
      let response := .deregisterResponse ⟨m.uuid, true⟩
      match w.store.find m.uuid with
      | none => (.error (.entityNotFound m.uuid), w)
      | some _ =>
          publishing E (getDeregistrationResponseTopic m.uuid) response
            { w with store := w.store.delete m.uuid }
            fun w => (.ok response, { w with outputs := w.outputs ++
              [.send AGENT_DEREGISTRATION_TOPIC (some m.uuid.toString) response] })

/-- What the framework does with a sequence of requests, one after the other, with all its
answers. -/
def Directory.serve (E : Environment) :
    List Request → Alone Directory → List (Except ProcessException Message) × Alone Directory
  | [], w => ([], w)
  | m :: requests, w =>
      let (result, w) := Directory.handle E m w
      let (results, w) := Directory.serve E requests w
      (result :: results, w)

/-- The number of UUIDs that a request takes: one for an agent, one for each device and sensor. -/
def Request.draws : Request → ℕ
  | .register _ => 1
  | .devices m => slots m.devices
  | .deregister _ => 0

/-- The number of UUIDs that a sequence of requests takes at most; a request for an unknown agent
takes none. -/
def totalDraws (requests : List Request) : ℕ := (requests.map Request.draws).sum

/-- Every agent has a uuid that has been drawn, and no two have the same. -/
structure Directory.WellFormed (E : Environment) (w : Alone Directory) : Prop where
  drawn : ∀ a ∈ w.store.agents, ∃ u ∈ E.next 0 w.drawn, a.uuid = some u
  nodup : (w.store.agents.map Agent.uuid).Nodup

namespace Directory

variable {E : Environment} {D : Directory} {w : Alone Directory}

lemma find_eq_some {u : UUID} {a : Agent} (h : D.find u = some a) :
    a ∈ D.agents ∧ a.uuid = some u :=
  ⟨List.mem_of_find?_eq_some h, by simpa using List.find?_some h⟩

lemma map_uuid_setDevices (D : Directory) (u : UUID) (ds : List Device) :
    (D.setDevices u ds).agents.map Agent.uuid = D.agents.map Agent.uuid := by
  rw [setDevices, List.map_map]
  refine List.map_congr_left fun a _ => ?_
  simp only [Function.comp_apply]
  split_ifs <;> rfl

/-- Publishing and sending change nothing else. -/
lemma publishing_store {α S : Type} (E : Environment) {topic : String} {response : Message}
    {w : Alone S} {k : Alone S → Except ProcessException α × Alone S}
    (hk : ∀ w, (k w).2.store = w.store ∧ (k w).2.drawn = w.drawn) :
    (publishing E topic response w k).2.store = w.store ∧
      (publishing E topic response w k).2.drawn = w.drawn := by
  simp only [publishing]
  split_ifs
  · exact hk _
  · exact ⟨rfl, rfl⟩

/-- What a request leaves in the directory, as a function of the request alone; a request for an
agent that is not there leaves it as it was. -/
def after (E : Environment) (w : Alone Directory) : Request → Directory
  | .register m => w.store.register m (E.uuids w.drawn)
  | .devices m =>
      if (w.store.find m.uuid).isSome then
        w.store.setDevices m.uuid (assignDevices m.devices (E.next w.drawn (slots m.devices)))
      else w.store
  | .deregister m => if (w.store.find m.uuid).isSome then w.store.delete m.uuid else w.store

/-- The directory and the UUIDs drawn after a request, whether or not its answer could be
published. -/
theorem handle_after (E : Environment) (m : Request) (w : Alone Directory) :
    (handle E m w).2.store = after E w m ∧ (handle E m w).2.drawn = w.drawn + m.draws := by
  cases m with
  | register m => exact publishing_store E fun w => ⟨rfl, rfl⟩
  | devices m =>
      simp only [handle, after]
      cases w.store.find m.uuid with
      | none => exact ⟨rfl, rfl⟩
      | some _ => exact publishing_store E fun _ => ⟨rfl, rfl⟩
  | deregister m =>
      simp only [handle, after]
      cases w.store.find m.uuid with
      | none => exact ⟨rfl, rfl⟩
      | some _ => exact publishing_store E fun w => ⟨rfl, rfl⟩

/-- A request adds the next UUID, or none. -/
lemma uuids_after (E : Environment) (w : Alone Directory) (m : Request) :
    (∃ req, m = .register req ∧ (after E w m).agents.map Agent.uuid
      = w.store.agents.map Agent.uuid ++ [some (E.uuids w.drawn)]) ∨
    List.Sublist ((after E w m).agents.map Agent.uuid) (w.store.agents.map Agent.uuid) := by
  cases m with
  | register req => exact Or.inl ⟨req, rfl, by simp [after, register, created]⟩
  | devices req =>
      refine Or.inr ?_
      simp only [after]
      split_ifs
      · rw [map_uuid_setDevices]
      · exact List.Sublist.refl _
  | deregister req =>
      refine Or.inr ?_
      simp only [after]
      split_ifs
      · exact List.filter_sublist.map _
      · exact List.Sublist.refl _

namespace WellFormed

/-- An agent is known by its uuid. -/
lemma unique (hw : WellFormed E w) {a b : Agent} (ha : a ∈ w.store.agents)
    (hb : b ∈ w.store.agents) (h : a.uuid = b.uuid) : a = b :=
  List.inj_on_of_nodup_map hw.nodup ha hb h

lemma start (E : Environment) : WellFormed E (Alone.start Directory.empty) :=
  ⟨fun _ ha => absurd ha List.not_mem_nil, List.nodup_nil⟩

/-- The next UUID is that of no agent. -/
lemma fresh (hw : WellFormed E w) (hd : E.Distinct (w.drawn + 1)) :
    ∀ a ∈ w.store.agents, a.uuid ≠ some (E.uuids w.drawn) := by
  intro a ha hu
  obtain ⟨u, hmem, hau⟩ := hw.drawn a ha
  obtain rfl := Option.some.inj (hau.symm.trans hu)
  exact hd.fresh hmem

/-- Requests keep the directory well formed, as long as the UUIDs they draw are new ones. -/
theorem handle (hw : WellFormed E w) {m : Request} (hd : E.Distinct (w.drawn + m.draws)) :
    WellFormed E (Directory.handle E m w).2 := by
  obtain ⟨hstore, hdrawn⟩ := handle_after E m w
  have hsub : ∀ u ∈ E.next 0 w.drawn, u ∈ E.next 0 (w.drawn + m.draws) := fun u hu => by
    rw [Environment.next_add]
    exact List.mem_append_left _ hu
  rcases uuids_after E w m with ⟨req, rfl, huuids⟩ | hsublist
  · refine ⟨fun a ha => ?_, ?_⟩
    · rw [hstore] at ha
      rw [hdrawn]
      rcases List.mem_append.mp ha with ha | ha
      · obtain ⟨u, hu, hau⟩ := hw.drawn a ha
        exact ⟨u, hsub u hu, hau⟩
      · rw [List.mem_singleton.mp ha]
        exact ⟨E.uuids w.drawn, Environment.mem_next.mpr ⟨w.drawn, Nat.lt_succ_self _, by simp⟩, rfl⟩
    · rw [hstore, huuids, List.nodup_append]
      refine ⟨hw.nodup, by simp, ?_⟩
      rintro x hx y hy rfl
      obtain ⟨a, ha, rfl⟩ := List.mem_map.mp hx
      exact hw.fresh hd a ha (List.mem_singleton.mp hy)
  · refine ⟨fun a ha => ?_, ?_⟩
    · rw [hstore] at ha
      rw [hdrawn]
      obtain ⟨b, hb, hba⟩ := List.mem_map.mp (hsublist.mem (List.mem_map_of_mem ha))
      obtain ⟨u, hu, hbu⟩ := hw.drawn b hb
      exact ⟨u, hsub u hu, hba ▸ hbu⟩
    · rw [hstore]
      exact hw.nodup.sublist hsublist

end WellFormed

end Directory

end KrakenMare
