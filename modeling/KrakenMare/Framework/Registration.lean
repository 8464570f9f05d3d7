import KrakenMare.Framework.Representation
import Mathlib.Combinatorics.Enumerative.DoubleCounting

/-!
# Repeated registration requests

A `RegisterRequest` is retained by the broker and the framework subscribes again after each
reconnection, so one request may be delivered many times.  `MqttRegistrationListener` keeps nothing
by uid and looks nothing up by uid: every delivery creates an agent of its own, with a new id and a
new UUID.  The agent goes on under one identity at a time, and the framework keeps them all.

* `registration_per_delivery` — **what holds all the same**: stored agents have distinct uuids, two
  responses carry the same uuid only if they are by one handler, there are no more agents of a uid
  than deliveries of its request, and a request delivered at most once is registered idempotently.
* `registered_twice` — two deliveries leave two agents, and two identities for one uid.

The count is by threads: each stored agent has been created by a handler of a request with its uid,
and no handler creates two (`registered_le_deliveries`).
-/

namespace KrakenMare

open Lib Lib.Interleaving AgentRedisRepository MqttDeviceListListener Protocol

/-- A `RegisterResponse` has been published by thread `i`, and the client has accepted it. -/
def Welcomed (h : Past) (i : ℕ) (response : RegisterResponse) : Prop :=
  ∃ t, (i, (⟨.publish t (.registerResponse response), true⟩ : Answered Answer)) ∈ h.log

/-- The agent is in the store, under some key; in a reachable store that is its own. -/
def Stored (s : Redis) (a : Agent) : Prop := ∃ k, s.myAgentsKey.get? k = some a

/-- Registration is idempotent for one uid: at most one agent, and one uuid in all responses as long
as the agent stays registered. -/
structure Idempotent (h : Past) (uid : String) : Prop where
  agents : ∀ k k' a a', h.world.redis.myAgentsKey.get? k = some a →
    h.world.redis.myAgentsKey.get? k' = some a' → a.uid = uid → a'.uid = uid → k = k'
  responses : ∀ i j r r', Welcomed h i r → Welcomed h j r' → r.uid = uid → r'.uid = uid →
    (∃ a, Stored h.world.redis a ∧ a.uuid = some r.uuid) → r.uuid = r'.uuid

/-- The request is a registration of this uid, whatever else it says. -/
def isRegister (uid : String) : Request → Bool
  | .register m => m.uid = uid
  | _ => false

/-- How often a request with this uid has been delivered.  An agent that repeats itself, and a
broker that does, are the same here. -/
def deliveries (h : Past) (uid : String) : ℕ := h.messages.countP (isRegister uid)

/-- How many agents with this uid are stored, each with a UUID of its own. -/
def registered (h : Past) (uid : String) : ℕ :=
  h.world.redis.myAgentsKey.values.countP fun a => a.uid = uid

variable {G : World → Request → Call RedisCmd → Prop} {h : Past}

/-- The response of a thread carries the agent that the thread created. -/
lemma Welcomed.created (hr : Reachable G h) {i : ℕ} {r : RegisterResponse} (hw : Welcomed h i r) :
    ∃ m id, Created h i m id r.uuid ∧ r.uid = m.uid := by
  obtain ⟨t, hmem⟩ := hw
  obtain ⟨m, l₁, l₂, hm, hown, hn⟩ := hr.mem_log hmem
  obtain ⟨req, id, u, n, rfl, rfl, rfl⟩ := hn.registerResponse
  exact ⟨req, id, ⟨hm, n, hown ▸ List.prefix_append _ _⟩, rfl⟩

/-- The threads that handle a request with this uid, whether or not they have come to the store. -/
def registrations (h : Past) (uid : String) : Finset ℕ :=
  (Finset.range h.messages.length).filter fun i => (h.messages[i]?).any (isRegister uid)

/-- A delivery starts one thread, so the threads for a uid can be counted by its deliveries. -/
lemma card_registrations (h : Past) (uid : String) :
    (registrations h uid).card = deliveries h uid := by
  have key : ∀ ms : List Request, ((Finset.range ms.length).filter
      fun i => (ms[i]?).any (isRegister uid)).card = ms.countP (isRegister uid) := by
    intro ms
    induction ms using List.reverseRecOn with
    | nil => rfl
    | append_singleton ms m ih =>
        have hold : ∀ i ∈ Finset.range ms.length,
            (((ms ++ [m])[i]?).any (isRegister uid) = true ↔
              (ms[i]?).any (isRegister uid) = true) := fun i hi => by
          rw [List.getElem?_append_left (Finset.mem_range.mp hi)]
        rw [List.length_append, List.length_singleton, Finset.range_add_one, Finset.filter_insert,
          Finset.filter_congr hold, List.countP_append]
        cases hm : isRegister uid m <;> simp [hm, ih]
  exact key h.messages

lemma Created.mem_registrations {i : ℕ} {m : RegisterRequest} {id : ℕ} {u : UUID}
    (hc : Created h i m id u) : i ∈ registrations h m.uid := by
  refine Finset.mem_filter.mpr
    ⟨Finset.mem_range.mpr (List.getElem?_eq_some_iff.mp hc.message).1, ?_⟩
  simp [hc.message, isRegister]

/-- The entries of the store with this uid, as a finite set, so that they can be counted against
threads. -/
def registeredEntries (h : Past) (uid : String) : Finset (String × Agent) :=
  (h.world.redis.myAgentsKey.entries.filter fun e => e.2.uid = uid).toFinset

lemma card_registeredEntries (h : Past) (uid : String) :
    (registeredEntries h uid).card = registered h uid := by
  have hnd : h.world.redis.myAgentsKey.entries.Nodup :=
    List.Nodup.of_map _ h.world.redis.myAgentsKey.nodupKeys
  rw [registeredEntries, List.toFinset_card_of_nodup (hnd.filter _), registered, Dict.values,
    List.countP_map, List.countP_eq_length_filter]
  rfl

lemma mem_registeredEntries {uid k : String} {a : Agent} :
    (k, a) ∈ registeredEntries h uid ↔
      h.world.redis.myAgentsKey.get? k = some a ∧ a.uid = uid := by
  simp [registeredEntries, Dict.mem_entries]

/-- Each stored agent has been created by a thread, and no thread creates two; so there are at most
as many as deliveries. -/
theorem registered_le_deliveries (hr : Reachable G h) (uid : String) :
    registered h uid ≤ deliveries h uid := by
  rw [← card_registeredEntries, ← card_registrations]
  refine Finset.card_le_card_of_forall_subsingleton
    (fun e i => ∃ m id u, Created h i m id u ∧ e.1 = agentKey (some u)) ?_ ?_
  · rintro ⟨k, a⟩ he
    obtain ⟨hget, rfl⟩ := mem_registeredEntries.mp he
    obtain ⟨u, hk, hu⟩ := (represented hr).stored k a hget
    obtain ⟨i, m, id, hc, -, huid, -⟩ := hu.created
    exact ⟨i, huid ▸ hc.mem_registrations, m, id, u, hc, hk⟩
  · rintro i - ⟨k, a⟩ ⟨he, m, id, u, hc, hk⟩ ⟨k', a'⟩ ⟨he', m', id', u', hc', hk'⟩
    obtain ⟨-, -, rfl⟩ := hc.unique hc'
    obtain rfl : k = k' := hk.trans hk'.symm
    obtain rfl := Option.some.inj ((mem_registeredEntries.mp he).1.symm.trans
      (mem_registeredEntries.mp he').1)
    rfl

/-- A request delivered once creates one agent. -/
lemma Created.uuid_eq_of_once {uid : String} (honce : deliveries h uid ≤ 1) {i j : ℕ}
    {m m' : RegisterRequest} {id id' : ℕ} {u u' : UUID} (hc : Created h i m id u)
    (hc' : Created h j m' id' u') (hm : m.uid = uid) (hm' : m'.uid = uid) : u = u' := by
  rw [← card_registrations] at honce
  obtain rfl := Finset.card_le_one.mp honce i (hm ▸ hc.mem_registrations) j
    (hm' ▸ hc'.mem_registrations)
  exact (hc.unique hc').2.2

/-- With one delivery there is one handler, so there is at most one agent and one identity. -/
theorem idempotent_of_delivered_once (hr : Reachable G h) {uid : String}
    (honce : deliveries h uid ≤ 1) : Idempotent h uid where
  agents k k' a a' hka hka' huid huid' := by
    obtain ⟨u, rfl, hu⟩ := (represented hr).stored k a hka
    obtain ⟨u', rfl, hu'⟩ := (represented hr).stored k' a' hka'
    obtain ⟨i, m, id, hc, -, hm, -⟩ := hu.created
    obtain ⟨i', m', id', hc', -, hm', -⟩ := hu'.created
    rw [hc.uuid_eq_of_once honce hc' (hm.symm.trans huid) (hm'.symm.trans huid')]
  responses i j r r' hw hw' huid huid' _ := by
    obtain ⟨m, id, hc, hm⟩ := hw.created hr
    obtain ⟨m', id', hc', hm'⟩ := hw'.created hr
    exact hc.uuid_eq_of_once honce hc' (hm.symm.trans huid) (hm'.symm.trans huid')

/-- **One registration for each delivery.**  In every run, however often requests are delivered and
however their handlers interleave, stored agents have distinct uuids, the responses to two
deliveries carry two uuids, and a uid has at most as many agents as deliveries; a request delivered
at most once is registered idempotently. -/
theorem registration_per_delivery (acts : List (Action Request Oracle)) :
    (∀ k k' a a', (runFramework acts).world.redis.myAgentsKey.get? k = some a →
      (runFramework acts).world.redis.myAgentsKey.get? k' = some a' → a.uuid = a'.uuid → k = k') ∧
    (∀ i j r r', Welcomed (runFramework acts).history i r →
      Welcomed (runFramework acts).history j r' → (r.uuid = r'.uuid ↔ i = j)) ∧
    ∀ uid, registered (runFramework acts).history uid ≤ deliveries (runFramework acts).history uid ∧
      (deliveries (runFramework acts).history uid ≤ 1 →
        Idempotent (runFramework acts).history uid) := by
  have hr := reachable_run acts
  refine ⟨fun k k' a a' hka hka' huuid => ?_, fun i j r r' hw hw' => ?_, fun uid =>
    ⟨registered_le_deliveries hr uid, idempotent_of_delivered_once hr⟩⟩
  · obtain ⟨u, rfl, hu⟩ := (represented hr).stored k a hka
    obtain ⟨u', rfl, hu'⟩ := (represented hr).stored k' a' hka'
    rw [Option.some.inj (hu.uuid.symm.trans (huuid.trans hu'.uuid))]
  · obtain ⟨m, id, hc, -⟩ := hw.created hr
    obtain ⟨m', id', hc', -⟩ := hw'.created hr
    constructor
    · intro huuid
      rw [huuid] at hc
      exact drawn_unique hr hc.mem_draw hc'.mem_draw
    · rintro rfl
      exact (hc.unique hc').2.2

/-- One retained request, delivered again after a reconnection. -/
def deliveredTwice : List (Action Request Oracle) :=
  [.arrive (.register ⟨"r1i0c", "IBswitch", "simulator", "", false⟩),
    .run 0 ⟨⟨7⟩, true⟩, .run 0 ⟨⟨7⟩, true⟩, .run 0 ⟨⟨7⟩, true⟩, .run 0 ⟨⟨7⟩, true⟩,
    .arrive (.register ⟨"r1i0c", "IBswitch", "simulator", "", false⟩),
    .run 1 ⟨⟨8⟩, true⟩, .run 1 ⟨⟨8⟩, true⟩, .run 1 ⟨⟨8⟩, true⟩, .run 1 ⟨⟨8⟩, true⟩]

/-- Registration is not idempotent: a request delivered twice leaves two agents with the same
uid. -/
theorem registered_twice : ¬ ∀ (acts : List (Action Request Oracle)) (uid : String),
    Idempotent (runFramework acts).history uid := by
  intro hall
  have h := hall deliveredTwice "r1i0c"
  have hkey := h.agents (agentKey (some ⟨7⟩)) (agentKey (some ⟨8⟩))
    ⟨1, "r1i0c", some ⟨7⟩, "simulator", []⟩ ⟨2, "r1i0c", some ⟨8⟩, "simulator", []⟩
    (by decide) (by decide) rfl rfl
  exact absurd hkey (by decide)

end KrakenMare
