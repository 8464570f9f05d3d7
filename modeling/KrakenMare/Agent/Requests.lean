import KrakenMare.Agent.MainThread

/-!
# The requests of an agent

What an agent asks for over a whole run of its two threads.  The main thread reads the attributes
one by one while the callback sets them, so it may read the uuid before it is set and the topics
after.

`InOrder` says of each phase of the main thread what has been published by then and which flags it
has seen; the flags rise only, so what it has seen stays true while the callback goes on.  What is
published between two phases is not bounded by the phase alone: a signal may come at any moment, so
`InSequence` allows for deregistrations after any beginning of the sequence.

* `rises_mqttOnMessage` — no flag is taken back, and the agent does not lose its uuid.
* **`requests_run`** — the requests are made once and in order, data are sent only by an agent that
  has been told that its devices are registered, a leaving agent asks for deregistrations only, and
  no wait is longer than 300 polls.
* **`requests_own`** — when all answers to the registration carry one uuid, the requests are made
  on the topics of this uuid, and for it, but for a device list that may be for `-1`.
* **`devices_heard`** — and the answer to the device list lets the agent go on to its data.

A second signal during the deregistration starts it again, so there may be several deregistrations.
That all answers carry one uuid is an assumption of the last two results and not of the first: a
registration that the broker delivers twice is answered with two uuids.
-/

namespace KrakenMare

open Lib

/-! ## The requests come in order -/

namespace Handshake

/-- How far the agent has got: it is registered, its devices are, and it has a uuid. -/
def flags (a : Handshake) : Bool × Bool × Bool :=
  (a.myMQTTregistered, a.myDeviceRegistered, decide (a.myAgent_uuid ≠ .minusOne))

section
variable {Bytes : Type} {S : MessageSerializer Bytes}

/-- Setting the topics has nothing to do with the flags. -/
lemma rises_setTopics : Steps.Rises flags setTopics := by
  have hassign : ∀ (f : Handshake → Handshake) (k : Unit → Steps Handshake Unit),
      (∀ a, flags (f a) = flags a) → Steps.Rises flags (k ()) →
      Steps.Rises flags (Steps.assign f >>= k) := fun f k hf hk =>
    (Steps.Rises.assign fun a => le_of_eq (hf a).symm).bind fun _ => hk
  -- an assignment a line
  refine hassign _ _ (fun _ => rfl) ?_
  refine hassign _ _ (fun _ => rfl) ?_
  refine hassign _ _ (fun _ => rfl) ?_
  refine hassign _ _ (fun _ => rfl) ?_
  refine hassign _ _ (fun _ => rfl) ?_
  refine hassign _ _ (fun _ => rfl) ?_
  refine hassign _ _ (fun _ => rfl) ?_
  refine hassign _ _ (fun _ => rfl) ?_
  exact .assign fun _ => le_refl _

lemma rises_decodeMessage (payload : Bytes) : Steps.Rises flags (decodeMessage S payload) := by
  rw [decodeMessage]
  cases S.decode payload with
  | none => exact .fail
  | some data =>
      have hdecoded : Steps.Rises flags
          (Steps.assign fun a : Handshake => { a with decoded := a.decoded ++ [data] }) :=
        .assign fun _ => le_refl _
      exact hdecoded.bind fun _ => .pure data

/-- No record has the `-1`. -/
lemma ne_minusOne_of_uuid? {data : Message} {v : AgentUuid} (h : data.uuid? = some v) :
    v ≠ .minusOne := by
  rintro rfl
  cases data with
  | agent m => cases hm : m.uuid <;> simp [Message.uuid?, hm] at h
  | _ => simp [Message.uuid?] at h

/-- The first branch raises one flag and takes none back. -/
lemma rises_onRegistrationResponse (myAgent_debug : Bool) (payload : Bytes) :
    Steps.Rises flags (onRegistrationResponse S myAgent_debug payload) := by
  have hprint : ∀ data, Steps.Rises flags (printUuid myAgent_debug data) := fun data =>
    .ite ((Steps.Rises.ofOption _).bind fun _ => .pure ()) (.pure ())
  have hflag : Steps.Rises flags
      (Steps.assign fun a : Handshake => { a with myMQTTregistered := true }) :=
    .assign fun a => Prod.mk_le_mk.mpr ⟨Bool.le_true _, le_refl _⟩
  refine (rises_decodeMessage payload).bind fun data => (hprint data).bind fun _ => ?_
  refine hflag.bind fun _ => ?_
  cases huuid : data.uuid? with
  | none => exact .fail
  | some v =>
      have hset : Steps.Rises flags
          (Steps.assign fun a : Handshake => { a with myAgent_uuid := v }) :=
        .assign fun a => Prod.mk_le_mk.mpr ⟨le_refl _, Prod.mk_le_mk.mpr ⟨le_refl _, by
          rw [decide_eq_true (ne_minusOne_of_uuid? huuid)]
          exact Bool.le_true _⟩⟩
      exact hset.bind fun _ => rises_setTopics

lemma rises_onDeviceRegistrationResponse (payload : Bytes) :
    Steps.Rises flags (onDeviceRegistrationResponse S payload) := by
  have hmap : ∀ uuids, Steps.Rises flags
      (Steps.assign fun a : Handshake => { a with myDeviceSensorUUIDsMap := uuids }) := fun _ =>
    .assign fun _ => le_refl _
  have hstore : ∀ data, Steps.Rises flags (storeDeviceUuids data) := fun data =>
    Steps.Rises.get.bind fun _ => (Steps.Rises.ofOption _).bind fun _ =>
      .ite ((Steps.Rises.ofOption _).bind hmap) (.pure ())
  refine (rises_decodeMessage payload).bind fun data => (hstore data).bind fun _ => ?_
  exact .assign fun a => Prod.mk_le_mk.mpr
    ⟨le_refl _, Prod.mk_le_mk.mpr ⟨Bool.le_true _, le_refl _⟩⟩

lemma rises_onDeregistrationResponse (payload : Bytes) :
    Steps.Rises flags (onDeregistrationResponse S payload) := by
  have hflag : Steps.Rises flags
      (Steps.assign fun a : Handshake => { a with myMQTTderegistered := true }) :=
    .assign fun _ => le_refl _
  exact hflag.bind fun _ => (rises_decodeMessage payload).bind fun _ => .pure ()

/-- **No flag is taken back** by any statement of the callback, whatever the message. -/
theorem rises_mqttOnMessage (myAgent_debug : Bool) (m : Publication Bytes) :
    Steps.Rises flags (mqttOnMessage S myAgent_debug m) := by
  refine Steps.Rises.get.bind fun a => (Steps.Rises.ofOption _).bind fun registration => ?_
  refine .ite (rises_onRegistrationResponse myAgent_debug m.payload) ?_
  refine (Steps.Rises.ofOption _).bind fun device => ?_
  refine .ite (rises_onDeviceRegistrationResponse m.payload) ?_
  refine (Steps.Rises.ofOption _).bind fun deregistration => ?_
  exact .ite (rises_onDeregistrationResponse m.payload) (.pure ())

end

end Handshake

/-- The agent has begun to leave, or its program is over: in the deregistration code, closing, or
gone. -/
def Phase.departing : Phase → Bool
  | subscribeDeregistration .. | publishDeregistration .. | awaitDeregistration .. | closing
  | exited _ | raised => true
  | _ => false

/-- How often a flag has been polled, in the three loops that wait for an answer. -/
def Phase.polls : Phase → ℕ
  | awaitRegistration count | awaitDevices _ _ _ count | awaitDeregistration _ count => count
  | _ => 0

namespace AgentThreads

/-- The registration, the devices of a registered agent, the data of an agent whose devices are
registered, and from then on deregistrations only. -/
def InSequence (a : Handshake) (published : List AgentOutput) : Prop :=
  ∃ asked data rest, published = asked ++ data ++ rest ∧ (∀ o ∈ data, o = .data) ∧
    (∀ o ∈ rest, ∃ requestTopic u, o = .deregister requestTopic u) ∧
    (asked = [] ∧ data = [] ∨ asked = [.register] ∧ data = [] ∨
      ∃ topic uuid, asked = [.register, .devices topic uuid] ∧ a.myMQTTregistered = true ∧
        (data ≠ [] → a.myDeviceRegistered = true))

/-- What has been published when the main thread is where it is, and what it has seen of the
flags. -/
def InOrder (x : AgentThreads) : Prop :=
  match x.phase with
  | .connecting | .subscribing | .registering => x.published = []
  | .awaitRegistration _ => x.published = [.register]
  | .createDeviceMap | .deviceRegistration _ | .subscribeDevices .. | .publishDevices .. =>
      x.published = [.register] ∧ x.self.myMQTTregistered = true
  | .awaitDevices topic _ uuid _ =>
      x.published = [.register, .devices topic uuid] ∧ x.self.myMQTTregistered = true
  | .sendData => ∃ topic uuid n,
      x.published = [.register, .devices topic uuid] ++ List.replicate n .data ∧
        x.self.myMQTTregistered = true ∧ x.self.myDeviceRegistered = true
  | _ => InSequence x.self x.published

section
variable {Bytes : Type} {S : MessageSerializer Bytes} {myAgent_debug : Bool} {uid : String}
  {x y : AgentThreads}

lemma InSequence.mono {a b : Handshake} {published : List AgentOutput}
    (h : InSequence a published) (hab : a.flags ≤ b.flags) : InSequence b published := by
  obtain ⟨hregistered, hdevices, -⟩ := hab
  obtain ⟨asked, data, rest, hpublished, hdata, hrest, hasked⟩ := h
  refine ⟨asked, data, rest, hpublished, hdata, hrest, ?_⟩
  rcases hasked with hasked | hasked | ⟨topic, uuid, hasked, hr, hd⟩
  · exact Or.inl hasked
  · exact Or.inr (Or.inl hasked)
  · exact Or.inr (Or.inr ⟨topic, uuid, hasked, hregistered hr, fun hne => hdevices (hd hne)⟩)

/-- A deregistration more. -/
lemma InSequence.deregister {a : Handshake} {published : List AgentOutput}
    (h : InSequence a published) (requestTopic : String × ℕ) (u : UUID) :
    InSequence a (published ++ [.deregister requestTopic u]) := by
  obtain ⟨asked, data, rest, rfl, hdata, hrest, hasked⟩ := h
  refine ⟨asked, data, rest ++ [.deregister requestTopic u], List.append_assoc .., hdata, ?_,
    hasked⟩
  intro o ho
  rcases List.mem_append.mp ho with ho | ho
  · exact hrest o ho
  · exact ⟨requestTopic, u, List.mem_singleton.mp ho⟩

/-- What the phases say, put together: registration, devices, data and deregistrations, in this
order. -/
lemma InOrder.inSequence (h : InOrder x) : InSequence x.self x.published := by
  have hnone : x.published = [] → InSequence x.self x.published := fun hp =>
    ⟨[], [], [], by simp [hp], by simp, by simp, Or.inl ⟨rfl, rfl⟩⟩
  have hregister : x.published = [.register] → InSequence x.self x.published := fun hp =>
    ⟨[.register], [], [], by simp [hp], by simp, by simp, Or.inr (Or.inl ⟨rfl, rfl⟩)⟩
  rw [InOrder] at h
  split at h
  · exact hnone h
  · exact hnone h
  · exact hnone h
  · exact hregister h
  · exact hregister h.1
  · exact hregister h.1
  · exact hregister h.1
  · exact hregister h.1
  · rename_i topic _ uuid _ _
    exact ⟨[.register, .devices topic uuid], [], [], by simp [h.1], by simp, by simp,
      Or.inr (Or.inr ⟨topic, uuid, rfl, h.2, by simp⟩)⟩
  · obtain ⟨topic, uuid, n, hp, hr, hd⟩ := h
    exact ⟨[.register, .devices topic uuid], List.replicate n .data, [], by simp [hp],
      fun o ho => List.eq_of_mem_replicate ho, by simp,
      Or.inr (Or.inr ⟨topic, uuid, rfl, hr, fun _ => hd⟩)⟩
  · exact h

/-- The callback has gone on. -/
lemma InOrder.of_flags (h : InOrder x) (hphase : y.phase = x.phase)
    (hpublished : y.published = x.published) (hflags : x.self.flags ≤ y.self.flags) :
    InOrder y := by
  rw [InOrder] at h ⊢
  rw [hphase, hpublished]
  split at h
  · exact h
  · exact h
  · exact h
  · exact h
  · exact ⟨h.1, hflags.1 h.2⟩
  · exact ⟨h.1, hflags.1 h.2⟩
  · exact ⟨h.1, hflags.1 h.2⟩
  · exact ⟨h.1, hflags.1 h.2⟩
  · exact ⟨h.1, hflags.1 h.2⟩
  · obtain ⟨topic, uuid, n, hp, hr, hd⟩ := h
    exact ⟨topic, uuid, n, hp, hflags.1 hr, hflags.2.1 hd⟩
  · exact h.mono hflags

/-- An end to what the main thread was doing. -/
lemma InOrder.leave (h : InOrder x) (hself : y.self = x.self) (hpublished : y.published = x.published)
    (hphase : y.phase = .raised ∨ y.phase = .closing ∨ (∃ code, y.phase = .exited code) ∨
      (∃ requestTopic uuid, y.phase = .subscribeDeregistration requestTopic uuid) ∨
      (∃ requestTopic R uuid, y.phase = .publishDeregistration requestTopic R uuid) ∨
      ∃ R count, y.phase = .awaitDeregistration R count) : InOrder y := by
  have hs := h.inSequence
  rw [← hself, ← hpublished] at hs
  rw [InOrder]
  rcases hphase with hp | hp | ⟨_, hp⟩ | ⟨_, _, hp⟩ | ⟨_, _, _, hp⟩ | ⟨_, _, hp⟩ <;>
  · rw [hp]
    exact hs

lemma InOrder.mqttDeregistration (h : InOrder x) : InOrder x.mqttDeregistration := by
  rw [AgentThreads.mqttDeregistration]
  cases x.self.myAgent_deregistration_request_topic with
  | nil => exact h.leave rfl rfl (by simp)
  | cons requestTopic rest => exact h.leave rfl rfl (by simp)

lemma InOrder.subscribe {topics : List (String × ℕ)} {next retry : Phase}
    (hnext : InOrder { x with phase := next }) (hretry : InOrder { x with phase := retry }) :
    InOrder (x.subscribe topics next retry) := by
  rcases subscribe_cases x topics next retry with hs | hs
  · rw [hs]
    exact hnext
  · rw [hs]
    exact hretry

/-- **The main thread** asks in order: what it publishes next is what its phase says, once. -/
theorem InOrder.main (h : InOrder x) : InOrder x.main := by
  rw [AgentThreads.main]
  have hx := h
  rw [InOrder] at hx
  cases hphase : x.phase with
  | connecting =>
      rw [hphase] at hx
      exact hx
  | subscribing =>
      rw [hphase] at hx
      exact .subscribe hx hx
  | registering =>
      rw [hphase] at hx
      show x.published ++ [.register] = [.register]
      rw [hx]
      rfl
  | awaitRegistration count =>
      rw [hphase] at hx
      dsimp only
      rw [Phase.poll]
      split_ifs with hflag
      · exact ⟨hx, hflag⟩
      · exact h.leave rfl rfl (by simp)
      · exact hx
  | createDeviceMap =>
      rw [hphase] at hx
      exact hx
  | deviceRegistration uuid =>
      rw [hphase] at hx
      cases x.self.myDevice_registration_request_topic with
      | none => exact h.leave rfl rfl (by simp)
      | some topic =>
          dsimp only
          split_ifs
          · exact h.leave rfl rfl (by simp)
          · exact .subscribe hx hx
  | subscribeDevices topic responseTopic uuid =>
      rw [hphase] at hx
      exact .subscribe hx hx
  | publishDevices topic responseTopic uuid =>
      rw [hphase] at hx
      refine ⟨?_, hx.2⟩
      show x.published ++ [.devices topic uuid] = [.register, .devices topic uuid]
      rw [hx.1]
      rfl
  | awaitDevices topic responseTopic uuid count =>
      rw [hphase] at hx
      dsimp only
      rw [Phase.poll]
      split_ifs with hflag
      · exact ⟨topic, uuid, 0, by simpa using hx.1, hx.2, hflag⟩
      · exact h.leave rfl rfl (by simp)
      · exact hx
  | sendData =>
      rw [hphase] at hx
      obtain ⟨topic, uuid, n, hp, hflags⟩ := hx
      refine ⟨topic, uuid, n + 1, ?_, hflags⟩
      show x.published ++ [.data] = _
      rw [hp, List.append_assoc, List.replicate_succ']
  | subscribeDeregistration requestTopic uuid =>
      dsimp only
      split_ifs
      · exact h.leave rfl rfl (by simp)
      · exact .subscribe (h.leave rfl rfl (by simp)) (h.leave rfl rfl (by simp))
  | publishDeregistration requestTopic responseTopic uuid =>
      cases uuid with
      | uuid u => exact h.inSequence.deregister requestTopic u
      | minusOne => exact h.leave rfl rfl (by simp)
      | null => exact h.leave rfl rfl (by simp)
  | awaitDeregistration responseTopic count =>
      rcases poll_cases x.self.myMQTTderegistered count .closing
        (.awaitDeregistration responseTopic) with hp | hp | ⟨-, hp⟩ <;>
      · dsimp only
        rw [hp]
        exact h.leave rfl rfl (by simp)
  | closing => exact h.leave rfl rfl (by simp)
  | exited code => exact h
  | raised => exact h

/-- From each moment of the callback to the next the flags are kept. -/
def Rising (x : AgentThreads) : Prop :=
  (x.self :: x.pending).Pairwise fun t t' => t.flags ≤ t'.flags

lemma subscribe_self (x : AgentThreads) (topics : List (String × ℕ)) (next retry : Phase) :
    (x.subscribe topics next retry).self = x.self ∧
      (x.subscribe topics next retry).pending = x.pending := by
  rcases subscribe_cases x topics next retry with hs | hs <;> (rw [hs]; exact ⟨rfl, rfl⟩)

lemma mqttDeregistration_self (x : AgentThreads) :
    x.mqttDeregistration.self = x.self ∧ x.mqttDeregistration.pending = x.pending := by
  rw [AgentThreads.mqttDeregistration]
  split <;> exact ⟨rfl, rfl⟩

/-- The main thread assigns to none of the attributes of the callback. -/
lemma main_self (x : AgentThreads) : x.main.self = x.self ∧ x.main.pending = x.pending := by
  rw [AgentThreads.main]
  split
  case h_2 => exact subscribe_self ..
  case h_6 =>
    split
    · exact ⟨rfl, rfl⟩
    · dsimp only
      split_ifs
      · exact ⟨rfl, rfl⟩
      · exact subscribe_self ..
  case h_7 => exact subscribe_self ..
  case h_11 =>
    dsimp only
    split_ifs
    · exact ⟨rfl, rfl⟩
    · exact subscribe_self ..
  case h_12 => split <;> exact ⟨rfl, rfl⟩
  all_goals exact ⟨rfl, rfl⟩

lemma rising_start (uid : String) : Rising (start uid) := List.pairwise_singleton _ _

variable (S myAgent_debug) in
/-- **The flags are kept** by every step, of either thread, and nothing that is seen of them is
taken back. -/
theorem rising_step (h : Rising x) (e : ThreadEvent Bytes) :
    Rising (x.step S myAgent_debug e) ∧ x.self.flags ≤ (x.step S myAgent_debug e).self.flags := by
  have hkeep : ∀ y : AgentThreads, y.self = x.self ∧ y.pending = x.pending →
      Rising y ∧ x.self.flags ≤ y.self.flags := by
    rintro y ⟨hself, hpending⟩
    rw [Rising, hself, hpending]
    exact ⟨h, le_refl _⟩
  cases e with
  | main => exact hkeep _ (main_self x)
  | interrupt =>
      refine hkeep _ ?_
      rw [step, interrupt]
      split
      · exact ⟨rfl, rfl⟩
      · exact ⟨rfl, rfl⟩
      · exact mqttDeregistration_self x
  | message m =>
      rw [step]
      split_ifs
      · exact ⟨Handshake.rises_mqttOnMessage myAgent_debug m x.self, le_refl _⟩
      · exact hkeep _ ⟨rfl, rfl⟩
  | statement =>
      rw [step]
      split
      · exact hkeep _ ⟨rfl, rfl⟩
      · rename_i t ts hpending
        split_ifs
        · rw [Rising, hpending] at h
          obtain ⟨hnext, hrest⟩ := List.pairwise_cons.mp h
          exact ⟨hrest, hnext t List.mem_cons_self⟩
        · exact hkeep _ ⟨rfl, rfl⟩
  | connectionLost => exact hkeep _ ⟨rfl, rfl⟩
  | connack sessionPresent =>
      rw [step]
      split <;> exact hkeep _ ⟨rfl, rfl⟩

/-- **One step**, of either thread, keeps the order; a callback changes flags, and publishes
nothing. -/
theorem InOrder.step (h : InOrder x) (hr : Rising x) (e : ThreadEvent Bytes) :
    InOrder (x.step S myAgent_debug e) := by
  cases e with
  | main => exact h.main
  | interrupt =>
      rw [AgentThreads.step, interrupt]
      split
      · exact h
      · exact h
      · exact h.mqttDeregistration
  | message m =>
      rw [AgentThreads.step]
      split_ifs
      · exact h.of_flags rfl rfl (le_refl _)
      · exact h
  | statement =>
      have hflags := (rising_step S myAgent_debug hr .statement).2
      refine h.of_flags ?_ ?_ hflags <;>
      · rw [AgentThreads.step]
        split
        · rfl
        · split <;> rfl
  | connectionLost => exact h.of_flags rfl rfl (le_refl _)
  | connack sessionPresent =>
      rw [AgentThreads.step]
      split
      · exact h.of_flags rfl rfl (le_refl _)
      · exact h

lemma polls_poll {flag : Bool} {count : ℕ} {next : Phase} {wait : ℕ → Phase}
    (hnext : next.polls = 0) (hwait : ∀ c, (wait c).polls = c) :
    (Phase.poll flag count next wait).polls ≤ 300 := by
  rcases poll_cases flag count next wait with hp | hp | ⟨hc, hp⟩
  · rw [hp, hnext]
    omega
  · rw [hp]
    exact Nat.zero_le _
  · rw [hp, hwait]
    exact hc

lemma polls_subscribe {topics : List (String × ℕ)} {next retry : Phase} (hnext : next.polls = 0)
    (hretry : retry.polls = 0) : (x.subscribe topics next retry).phase.polls ≤ 300 := by
  rcases subscribe_cases x topics next retry with hs | hs <;>
  · rw [hs]
    simp [hnext, hretry]

/-- No wait is longer than 300 polls. -/
lemma polls_main (h : x.phase.polls ≤ 300) : x.main.phase.polls ≤ 300 := by
  rw [AgentThreads.main]
  split
  case h_2 => exact polls_subscribe rfl rfl
  case h_4 => exact polls_poll rfl fun _ => rfl
  case h_6 =>
    split
    · exact Nat.zero_le _
    · dsimp only
      split_ifs
      · exact Nat.zero_le _
      · exact polls_subscribe rfl rfl
  case h_7 => exact polls_subscribe rfl rfl
  case h_9 => exact polls_poll rfl fun _ => rfl
  case h_11 =>
    dsimp only
    split_ifs
    · exact Nat.zero_le _
    · exact polls_subscribe rfl rfl
  case h_12 => split <;> exact Nat.zero_le _
  case h_13 => exact polls_poll rfl fun _ => rfl
  case h_15 => exact h
  case h_16 => exact h
  all_goals exact Nat.zero_le _

/-- No wait is longer than 300 polls, as the loops look at their count before they go on. -/
lemma polls_step (h : x.phase.polls ≤ 300) (e : ThreadEvent Bytes) :
    (x.step S myAgent_debug e).phase.polls ≤ 300 := by
  cases e with
  | main => exact polls_main h
  | interrupt =>
      rw [step, interrupt]
      split
      · exact h
      · exact h
      · rw [AgentThreads.mqttDeregistration]
        split <;> exact Nat.zero_le _
  | message m =>
      rw [step]
      split <;> exact h
  | statement =>
      rw [step]
      split
      · exact h
      · split <;> exact h
  | connectionLost => exact h
  | connack sessionPresent =>
      rw [step]
      split <;> exact h

variable (S myAgent_debug uid) in
lemma inOrder_run (events : List (ThreadEvent Bytes)) :
    InOrder (run S myAgent_debug uid events) ∧ Rising (run S myAgent_debug uid events) ∧
      (run S myAgent_debug uid events).phase.polls ≤ 300 := by
  induction events using List.reverseRecOn with
  | nil => exact ⟨rfl, rising_start uid, Nat.zero_le _⟩
  | append_singleton events e ih =>
      obtain ⟨horder, hrising, hpolls⟩ := ih
      rw [run_concat]
      exact ⟨horder.step hrising e, (rising_step S myAgent_debug hrising e).1, polls_step hpolls e⟩

/-! ### Leaving -/

/-- `y` comes after `x` of a leaving agent, which still leaves and has asked for no more than
deregistrations. -/
def Departing (x y : AgentThreads) : Prop :=
  y.phase.departing = true ∧ ∃ rest, y.published = x.published ++ rest ∧
    ∀ o ∈ rest, ∃ requestTopic u, o = .deregister requestTopic u

lemma Departing.of_published (h : y.phase.departing = true) (hpublished : y.published = x.published) :
    Departing x y :=
  ⟨h, [], by rw [hpublished, List.append_nil], by simp⟩

lemma Departing.trans {z : AgentThreads} (hxy : Departing x y) (hyz : Departing y z) :
    Departing x z := by
  obtain ⟨-, rest, hy, hrest⟩ := hxy
  obtain ⟨hdeparting, rest', hz, hrest'⟩ := hyz
  refine ⟨hdeparting, rest ++ rest', by rw [hz, hy, List.append_assoc], fun o ho => ?_⟩
  exact (List.mem_append.mp ho).elim (hrest o) (hrest' o)

lemma departing_mqttDeregistration (x : AgentThreads) : Departing x x.mqttDeregistration := by
  rw [AgentThreads.mqttDeregistration]
  split
  · exact .of_published rfl rfl
  · exact .of_published rfl rfl

lemma departing_subscribe {topics : List (String × ℕ)} {next retry : Phase}
    (hnext : next.departing = true) (hretry : retry.departing = true) :
    Departing x (x.subscribe topics next retry) := by
  rcases subscribe_cases x topics next retry with hs | hs <;>
  · rw [hs]
    exact .of_published (by assumption) rfl

/-- The main thread does not come back to what it was doing before. -/
lemma departing_main (h : x.phase.departing = true) : Departing x x.main := by
  rw [AgentThreads.main]
  cases hphase : x.phase with
  | subscribeDeregistration requestTopic uuid =>
      dsimp only
      split_ifs
      · exact .of_published rfl rfl
      · exact departing_subscribe rfl rfl
  | publishDeregistration requestTopic responseTopic uuid =>
      cases uuid with
      | uuid u =>
          exact ⟨rfl, [.deregister requestTopic u], rfl,
            fun o ho => ⟨requestTopic, u, List.mem_singleton.mp ho⟩⟩
      | minusOne => exact .of_published rfl rfl
      | null => exact .of_published rfl rfl
  | awaitDeregistration responseTopic count =>
      rcases poll_cases x.self.myMQTTderegistered count .closing
        (.awaitDeregistration responseTopic) with hp | hp | ⟨-, hp⟩ <;>
      · dsimp only
        rw [hp]
        exact .of_published rfl rfl
  | closing => exact .of_published rfl rfl
  | exited code => exact .of_published h rfl
  | raised => exact .of_published h rfl
  | _ => exact absurd h (by simp [hphase, Phase.departing])

variable (S myAgent_debug) in
/-- **One step** of a leaving agent publishes a deregistration or nothing, and leaves it leaving. -/
lemma departing_step (h : x.phase.departing = true) (e : ThreadEvent Bytes) :
    Departing x (x.step S myAgent_debug e) := by
  cases e with
  | main => exact departing_main h
  | interrupt =>
      rw [step, interrupt]
      split
      · exact .of_published h rfl
      · exact .of_published h rfl
      · exact departing_mqttDeregistration x
  | message m =>
      rw [step]
      split <;> exact .of_published h rfl
  | statement =>
      rw [step]
      split
      · exact .of_published h rfl
      · split <;> exact .of_published h rfl
  | connectionLost => exact .of_published h rfl
  | connack sessionPresent =>
      rw [step]
      split <;> exact .of_published h rfl

variable (S myAgent_debug) in
/-- **A leaving agent** asks for deregistrations only, for the rest of the run, and stays a leaving
agent. -/
theorem departing_run (h : x.phase.departing = true) (later : List (ThreadEvent Bytes)) :
    Departing x (later.foldl (step S myAgent_debug) x) := by
  induction later using List.reverseRecOn with
  | nil => exact .of_published h rfl
  | append_singleton later e ih =>
      rw [List.foldl_append]
      exact ih.trans (departing_step S myAgent_debug ih.1 e)

end

end AgentThreads

/-- **The requests come in order**, however the callback and the signals fall: an agent asks once
for its registration and once for its devices, sends data only after it has been told that it and
its devices are registered, and nothing but deregistrations after the first of these.  Once it has
begun to leave, at a signal, at its limit or because something has failed, whatever happens `later`
adds no more than deregistrations; and no wait is longer than 300 polls. -/
theorem requests_run {Bytes : Type} (S : MessageSerializer Bytes) (myAgent_debug : Bool)
    (myAgent_uid : String) (events : List (ThreadEvent Bytes)) :
    let x := AgentThreads.run S myAgent_debug myAgent_uid events
    AgentThreads.InSequence x.self x.published ∧ x.phase.polls ≤ 300 ∧
      (x.phase.departing = true → ∀ later, AgentThreads.Departing x
        (AgentThreads.run S myAgent_debug myAgent_uid (events ++ later))) := by
  obtain ⟨horder, -, hpolls⟩ := AgentThreads.inOrder_run S myAgent_debug myAgent_uid events
  refine ⟨horder.inSequence, hpolls, fun hdeparting later => ?_⟩
  rw [AgentThreads.run_append]
  exact AgentThreads.departing_run S myAgent_debug hdeparting later

/-! ## One uuid -/

namespace Handshake

section
variable {Bytes : Type} {S : MessageSerializer Bytes} {myAgent_debug : Bool} {a : Handshake}
  {uid : String} {u : UUID}

/-- Each topic that the agent has is that of `u`, which is its uuid then. -/
structure Within (uid : String) (u : UUID) (a : Handshake) : Prop where
  registration : firstTopic a.myAgent_registration_response_topic
    = some ("agent-registration/" ++ uid ++ "/response")
  uuid : a.myAgent_uuid = .minusOne ∨ a.myAgent_uuid = .uuid u
  deregistrationRequest : a.myAgent_deregistration_request_topic = [] ∨ a.myAgent_uuid = .uuid u ∧
    a.myAgent_deregistration_request_topic
      = [("agent-deregistration/" ++ u.toString ++ "/request", 2)]
  deviceRequest : a.myDevice_registration_request_topic = none ∨ a.myAgent_uuid = .uuid u ∧
    a.myDevice_registration_request_topic
      = some ("device-registration/" ++ u.toString ++ "/request")
  deviceResponse : a.myDevice_registration_response_topic = [] ∨ a.myAgent_uuid = .uuid u ∧
    a.myDevice_registration_response_topic
      = [("device-registration/" ++ u.toString ++ "/response", 2)]
  deregistrationResponse : a.myAgent_deregistration_response_topic = [] ∨
    a.myAgent_uuid = .uuid u ∧ a.myAgent_deregistration_response_topic
      = [("agent-deregistration/" ++ u.toString ++ "/response", 2)]

/-- And between two callbacks an agent with a uuid has all of them. -/
def Own (uid : String) (u : UUID) (a : Handshake) : Prop :=
  Within uid u a ∧ (a.myAgent_uuid = .uuid u → SetFrom a u)

lemma Within.of_topics {t t' : Handshake} (h : Within uid u t) (htopics : t'.topics = t.topics) :
    Within uid u t' := by
  simp only [topics, Prod.mk.injEq] at htopics
  obtain ⟨huuid, huserdata, hdereg, hdevice, hresponse, hderegResponse⟩ := htopics
  constructor
  · rw [huserdata]; exact h.registration
  · rw [huuid]; exact h.uuid
  · rw [huuid, hdereg]; exact h.deregistrationRequest
  · rw [huuid, hdevice]; exact h.deviceRequest
  · rw [huuid, hresponse]; exact h.deviceResponse
  · rw [huuid, hderegResponse]; exact h.deregistrationResponse

lemma Own.of_topics {t t' : Handshake} (h : Own uid u t) (htopics : t'.topics = t.topics) :
    Own uid u t' := by
  refine ⟨h.1.of_topics htopics, fun hu => ?_⟩
  simp only [topics, Prod.mk.injEq] at htopics
  obtain ⟨huuid, -, hdereg, hdevice, hresponse, hderegResponse⟩ := htopics
  obtain ⟨hu', hdr, hd, hr, hdresp⟩ := h.2 (huuid ▸ hu)
  exact ⟨hu, hdereg.trans hdr, hdevice.trans hd, hresponse.trans hr, hderegResponse.trans hdresp⟩

lemma setFrom_setTopics {t : Handshake} (hu : t.myAgent_uuid = .uuid u) :
    SetFrom (setTopics.run t).final u := by
  obtain ⟨t₀, t₁, t₂, t₃, t₄, t₅, t₆, t₇, t₈, t₉, t₁₀⟩ := t
  subst hu
  exact ⟨rfl, rfl, rfl, rfl, rfl⟩

lemma firstTopic_append {l : List (String × ℕ)} {topic : String} (h : firstTopic l = some topic)
    (x : String × ℕ) : firstTopic (l ++ [x]) = some topic := by
  cases l with
  | nil => simp [firstTopic] at h
  | cons y l => exact h

/-- While the topics are set, each of them is empty or that of `u`. -/
lemma goes_within_setTopics {t : Handshake} (h : Within uid u t) (hu : t.myAgent_uuid = .uuid u) :
    Steps.Goes (Within uid u) setTopics t fun _ s => Within uid u s := by
  have hstr : ∀ {s : Handshake}, s.myAgent_uuid = .uuid u → s.myAgent_uuid.str = u.toString :=
    fun hs => by rw [hs]; rfl
  -- `R` is what the next statement has to know
  have hseq : ∀ {f : Handshake → Handshake} {k : Unit → Steps Handshake Unit} {s : Handshake}
      (R : Handshake → Prop), Within uid u (f s) → (f s).myAgent_uuid = .uuid u → R (f s) →
      (∀ s', Within uid u s' → s'.myAgent_uuid = .uuid u → R s' →
        Steps.Goes (Within uid u) (k ()) s' fun _ s'' => Within uid u s'') →
      Steps.Goes (Within uid u) (Steps.assign f >>= k) s fun _ s'' => Within uid u s'' :=
    fun _ hw hs hR hk => .assign_bind hw (hk _ hw hs hR)
  -- the request to deregister
  refine hseq (fun s => s.myAgent_deregistration_request_topic = [])
    ⟨h.registration, h.uuid, Or.inl rfl, h.deviceRequest, h.deviceResponse,
      h.deregistrationResponse⟩ hu rfl fun s h hs hR => ?_
  refine hseq (fun _ => True) ⟨h.registration, h.uuid, Or.inr ⟨hs, by rw [hR, hstr hs]; rfl⟩,
    h.deviceRequest, h.deviceResponse, h.deregistrationResponse⟩ hs trivial fun s h hs _ => ?_
  -- the two topics of the devices
  refine hseq (fun _ => True) ⟨h.registration, h.uuid, h.deregistrationRequest,
    Or.inr ⟨hs, by rw [hstr hs]⟩, h.deviceResponse, h.deregistrationResponse⟩ hs trivial
    fun s h hs _ => ?_
  refine hseq (fun s => s.myDevice_registration_response_topic = [])
    ⟨h.registration, h.uuid, h.deregistrationRequest, h.deviceRequest, Or.inl rfl,
      h.deregistrationResponse⟩ hs rfl fun s h hs hR => ?_
  refine hseq (fun _ => True) ⟨h.registration, h.uuid, h.deregistrationRequest, h.deviceRequest,
    Or.inr ⟨hs, by rw [hR, hstr hs]; rfl⟩, h.deregistrationResponse⟩ hs trivial fun s h hs _ => ?_
  -- the response to the request to deregister
  refine hseq (fun s => s.myAgent_deregistration_response_topic = [])
    ⟨h.registration, h.uuid, h.deregistrationRequest, h.deviceRequest, h.deviceResponse,
      Or.inl rfl⟩ hs rfl fun s h hs hR => ?_
  refine hseq (fun _ => True) ⟨h.registration, h.uuid, h.deregistrationRequest, h.deviceRequest,
    h.deviceResponse, Or.inr ⟨hs, by rw [hR, hstr hs]; rfl⟩⟩ hs trivial fun s h hs _ => ?_
  -- the two entries of `userdata`
  refine hseq (fun _ => True) ⟨firstTopic_append h.registration _, h.uuid,
    h.deregistrationRequest, h.deviceRequest, h.deviceResponse, h.deregistrationResponse⟩ hs trivial
    fun s h hs _ => ?_
  have hlast : Within uid u { s with
      myAgent_registration_response_topic := s.myAgent_registration_response_topic
        ++ [("agent-deregistration/" ++ s.myAgent_uuid.str ++ "/response", 2)] } :=
    ⟨firstTopic_append h.registration _, h.uuid, h.deregistrationRequest, h.deviceRequest,
      h.deviceResponse, h.deregistrationResponse⟩
  exact .assign hlast hlast

/-- **A callback of an agent that is only ever told `u`** leaves at every statement no other uuid in
the attributes, and no topic of another one. -/
theorem goes_own (h : Own uid u a) {m : Publication Bytes}
    (hm : m.topic = "agent-registration/" ++ uid ++ "/response" →
      ∀ data v, S.decode m.payload = some data → data.uuid? = some v → v = .uuid u) :
    Steps.Goes (Within uid u) (mqttOnMessage S myAgent_debug m) a fun _ t => Own uid u t := by
  refine goes_of_registration (fun _ _ htopics ht => ht.of_topics htopics) (fun _ ht => ht.1)
    (fun _ => h) fun hfirst => ?_
  refine goes_onRegistrationResponse (fun _ htopics => h.1.of_topics htopics)
    (fun _ _ htopics => h.of_topics htopics) fun data v hdecode huuid t htopics => ?_
  have hu : v = .uuid u :=
    hm (Option.some.inj (hfirst.symm.trans h.1.registration)) data v hdecode huuid
  subst hu
  have ht : Within uid u t := h.1.of_topics htopics
  have hset : Within uid u { t with myAgent_uuid := .uuid u } :=
    ⟨ht.registration, Or.inr rfl, ht.deregistrationRequest.imp_right fun hr => ⟨rfl, hr.2⟩,
      ht.deviceRequest.imp_right fun hr => ⟨rfl, hr.2⟩,
      ht.deviceResponse.imp_right fun hr => ⟨rfl, hr.2⟩,
      ht.deregistrationResponse.imp_right fun hr => ⟨rfl, hr.2⟩⟩
  have hgoes := goes_within_setTopics hset rfl
  exact .assign_bind hset ⟨hgoes.always, hgoes.ends, fun _ => setFrom_setTopics rfl⟩

end

end Handshake

/-- A request on the topic of `u`, and for `u`; only a device list may be for no agent. -/
def AgentOutput.Own (u : UUID) : AgentOutput → Prop
  | register | data => True
  | devices topic uuid => topic = "device-registration/" ++ u.toString ++ "/request" ∧
      (uuid = .minusOne ∨ uuid = .uuid u)
  | deregister requestTopic v =>
      requestTopic = ("agent-deregistration/" ++ u.toString ++ "/request", 2) ∧ v = u

/-- What the main thread has read of the attributes: topics of `u`, and its uuid or the `-1` from
before. -/
def Phase.Own (u : UUID) : Phase → Prop
  | deviceRegistration uuid => uuid = .minusOne ∨ uuid = .uuid u
  | subscribeDevices topic responseTopic uuid | publishDevices topic responseTopic uuid
  | awaitDevices topic responseTopic uuid _ =>
      topic = "device-registration/" ++ u.toString ++ "/request" ∧
        responseTopic = [("device-registration/" ++ u.toString ++ "/response", 2)] ∧
        (uuid = .minusOne ∨ uuid = .uuid u)
  | subscribeDeregistration requestTopic uuid | publishDeregistration requestTopic _ uuid =>
      requestTopic = ("agent-deregistration/" ++ u.toString ++ "/request", 2) ∧ uuid = .uuid u
  | _ => True

/-- It has read the topics of the devices, which are set after the uuid. -/
def Phase.identified : Phase → Bool
  | subscribeDevices .. | publishDevices .. | awaitDevices .. => true
  | _ => false

namespace AgentThreads

/-- The agent knows no uuid but `u`: not in the attributes, not in what the main thread has read or
published. -/
structure Owned (uid : String) (u : UUID) (x : AgentThreads) : Prop where
  within : ∀ t ∈ x.self :: x.pending, t.Within uid u
  settled : x.settled.Own uid u
  phase : x.phase.Own u
  identified : x.phase.identified = true → x.self.myAgent_uuid ≠ .minusOne
  published : ∀ o ∈ x.published, o.Own u

section
variable {Bytes : Type} {S : MessageSerializer Bytes} {myAgent_debug : Bool} {uid : String}
  {u : UUID} {x y : AgentThreads}

lemma Owned.of_phase (h : Owned uid u x) (hself : y.self = x.self) (hpending : y.pending = x.pending)
    (hphase : y.phase.Own u)
    (hidentified : y.phase.identified = true → x.self.myAgent_uuid ≠ .minusOne)
    (hpublished : ∀ o ∈ y.published, o.Own u) : Owned uid u y := by
  have hsettled : y.settled = x.settled := by
    rw [AgentThreads.settled, AgentThreads.settled, hself, hpending]
  constructor
  · rw [hself, hpending]; exact h.within
  · rw [hsettled]; exact h.settled
  · exact hphase
  · rw [hself]; exact hidentified
  · exact hpublished

/-- A phase in which nothing is known of the topics. -/
lemma Owned.leave (h : Owned uid u x) {phase : Phase} (hphase : phase.Own u)
    (hidentified : phase.identified = false) : Owned uid u { x with phase := phase } :=
  h.of_phase rfl rfl hphase (fun hi => absurd (hidentified.symm.trans hi) (by simp)) h.published

lemma Owned.publish (h : Owned uid u x) {output : AgentOutput} {next : Phase}
    (houtput : output.Own u) (hnext : next.Own u)
    (hidentified : next.identified = true → x.self.myAgent_uuid ≠ .minusOne) :
    Owned uid u (x.publish output next) := by
  refine h.of_phase rfl rfl hnext hidentified fun o ho => ?_
  rcases List.mem_append.mp ho with ho | ho
  · exact h.published o ho
  · exact List.mem_singleton.mp ho ▸ houtput

lemma Owned.subscribe (h : Owned uid u x) {topics : List (String × ℕ)} {next retry : Phase}
    (hnext : next.Own u) (hretry : retry.Own u)
    (hidentified : next.identified = true ∨ retry.identified = true →
      x.self.myAgent_uuid ≠ .minusOne) : Owned uid u (x.subscribe topics next retry) := by
  rcases subscribe_cases x topics next retry with hs | hs
  · rw [hs]
    exact h.of_phase rfl rfl hnext (fun hi => hidentified (Or.inl hi)) h.published
  · rw [hs]
    exact h.of_phase rfl rfl hretry (fun hi => hidentified (Or.inr hi)) h.published

lemma Owned.poll (h : Owned uid u x) (flag : Bool) (count : ℕ) {next : Phase} {wait : ℕ → Phase}
    (hnext : next.Own u) (hnextIdentified : next.identified = false)
    (hwait : (wait (count + 1)).Own u)
    (hidentified : (wait (count + 1)).identified = true → x.self.myAgent_uuid ≠ .minusOne) :
    Owned uid u { x with phase := .poll flag count next wait } := by
  rcases poll_cases flag count next wait with hp | hp | ⟨-, hp⟩
  · rw [hp]
    exact h.leave hnext hnextIdentified
  · rw [hp]
    exact h.leave trivial rfl
  · rw [hp]
    exact h.of_phase rfl rfl hwait hidentified h.published

lemma Owned.mqttDeregistration (h : Owned uid u x) : Owned uid u x.mqttDeregistration := by
  rw [AgentThreads.mqttDeregistration]
  cases hrequest : x.self.myAgent_deregistration_request_topic with
  | nil => exact h.leave trivial rfl
  | cons requestTopic rest =>
      refine h.leave ?_ rfl
      rcases (h.within _ List.mem_cons_self).deregistrationRequest with hnone | ⟨hu, hone⟩
      · exact absurd (hrequest.symm.trans hnone) (by simp)
      · exact ⟨(List.cons.inj (hrequest.symm.trans hone)).1, hu⟩

/-- **The main thread** asks for `u`, or for no agent at all. -/
theorem Owned.main (h : Owned uid u x) : Owned uid u x.main := by
  have hself := h.within _ List.mem_cons_self
  have hphaseOwn := h.phase
  have hidentified := h.identified
  rw [AgentThreads.main]
  cases hphase : x.phase with
  | connecting => exact h.of_phase rfl rfl trivial (by simp [Phase.identified]) h.published
  | subscribing => exact h.subscribe trivial trivial (by simp [Phase.identified])
  | registering => exact h.publish trivial trivial (by simp [Phase.identified])
  | awaitRegistration count => exact h.poll _ _ trivial rfl trivial (by simp [Phase.identified])
  | createDeviceMap => exact h.leave hself.uuid rfl
  | deviceRegistration uuid =>
      rw [hphase] at hphaseOwn
      cases hrequest : x.self.myDevice_registration_request_topic with
      | none => exact h.leave trivial rfl
      | some topic =>
          dsimp only
          split_ifs with hempty
          · exact h.leave trivial rfl
          · obtain ⟨hu, hresponse⟩ := hself.deviceResponse.resolve_left hempty
            have htopic : topic = "device-registration/" ++ u.toString ++ "/request" := by
              rcases hself.deviceRequest with hnone | ⟨-, hsome⟩
              · exact absurd (hrequest.symm.trans hnone) (by simp)
              · exact Option.some.inj (hrequest.symm.trans hsome)
            have hne : x.self.myAgent_uuid ≠ .minusOne := by simp [hu]
            exact h.subscribe ⟨htopic, hresponse, hphaseOwn⟩ ⟨htopic, hresponse, hphaseOwn⟩
              fun _ => hne
  | subscribeDevices topic responseTopic uuid =>
      rw [hphase] at hphaseOwn hidentified
      exact h.subscribe hphaseOwn hphaseOwn fun _ => hidentified rfl
  | publishDevices topic responseTopic uuid =>
      rw [hphase] at hphaseOwn hidentified
      exact h.publish ⟨hphaseOwn.1, hphaseOwn.2.2⟩ hphaseOwn fun _ => hidentified rfl
  | awaitDevices topic responseTopic uuid count =>
      rw [hphase] at hphaseOwn hidentified
      exact h.poll _ _ trivial rfl hphaseOwn fun _ => hidentified rfl
  | sendData => exact h.publish trivial trivial (by simp [Phase.identified])
  | subscribeDeregistration requestTopic uuid =>
      rw [hphase] at hphaseOwn
      dsimp only
      split_ifs
      · exact h.leave trivial rfl
      · exact h.subscribe hphaseOwn hphaseOwn (by simp [Phase.identified])
  | publishDeregistration requestTopic responseTopic uuid =>
      rw [hphase] at hphaseOwn
      cases uuid with
      | uuid v =>
          exact h.publish ⟨hphaseOwn.1, AgentUuid.uuid.inj hphaseOwn.2⟩ trivial
            (by simp [Phase.identified])
      | minusOne => exact h.leave trivial rfl
      | null => exact h.leave trivial rfl
  | awaitDeregistration responseTopic count =>
      exact h.poll _ _ trivial rfl trivial (by simp [Phase.identified])
  | closing => exact h.leave trivial rfl
  | exited code => exact h
  | raised => exact h

lemma own_start (uid : String) (u : UUID) : (Handshake.start uid).Own uid u :=
  ⟨⟨rfl, Or.inl rfl, Or.inl rfl, Or.inl rfl, Or.inl rfl, Or.inl rfl⟩,
    fun hu => absurd hu (by simp [Handshake.start])⟩

lemma owned_start (uid : String) (u : UUID) : Owned uid u (start uid) where
  within t ht := by
    obtain rfl := List.mem_singleton.mp ht
    exact (own_start uid u).1
  settled := own_start uid u
  phase := trivial
  identified h := absurd h (by simp [start, Phase.identified])
  published o ho := absurd ho (by simp [start])

variable (S uid u) in
/-- The answers to the registration all carry `u`; what comes on other topics may carry anything. -/
def ToldOnly (events : List (ThreadEvent Bytes)) : Prop :=
  ∀ m, .message m ∈ events → m.topic = "agent-registration/" ++ uid ++ "/response" →
    ∀ data v, S.decode m.payload = some data → data.uuid? = some v → v = .uuid u

/-- **One step** of an agent that is told `u` only, by either thread or the connection, leaves it
so. -/
theorem Owned.step (h : Owned uid u x) (hr : Rising x) {e : ThreadEvent Bytes}
    (he : ToldOnly S uid u [e]) : Owned uid u (x.step S myAgent_debug e) := by
  cases e with
  | main => exact h.main
  | interrupt =>
      rw [AgentThreads.step, interrupt]
      split
      · exact h
      · exact h
      · exact h.mqttDeregistration
  | message m =>
      rw [AgentThreads.step]
      split_ifs with hruns
      · have hown : x.self.Own uid u := settled_at_rest hruns.2.2 ▸ h.settled
        have hgoes : Steps.Goes _ (Handshake.mqttOnMessage S myAgent_debug m) x.self _ :=
          Handshake.goes_own hown (he m (List.mem_singleton_self _))
        refine ⟨List.forall_mem_cons.mpr ⟨hown.1, fun t ht => ?_⟩, ?_, h.phase, h.identified,
          h.published⟩
        · rcases List.mem_append.mp ht with ht | ht
          · exact hgoes.always t ht
          · exact List.mem_singleton.mp ht ▸ hgoes.ends.1
        · rw [AgentThreads.settled]
          simpa using hgoes.ends
      · exact h
  | statement =>
      have hflags := (rising_step S myAgent_debug hr .statement).2
      rw [AgentThreads.step] at hflags ⊢
      split at hflags
      · exact h
      · rename_i t ts hpending
        split_ifs with hloop
        · have hwithin := h.within
          rw [hpending] at hwithin
          refine ⟨fun s hs => hwithin s (List.mem_cons_of_mem _ hs), ?_, h.phase, fun hi => ?_,
            h.published⟩
          · rw [settled_statement hpending]
            exact h.settled
          · rw [if_pos hloop] at hflags
            have hne : x.self.flags.2.2 = true := decide_eq_true (h.identified hi)
            exact of_decide_eq_true (hflags.2.2 hne)
        · exact h
  | connectionLost => exact h.of_phase rfl rfl h.phase h.identified h.published
  | connack sessionPresent =>
      rw [AgentThreads.step]
      split
      · exact h.of_phase rfl rfl h.phase h.identified h.published
      · exact h

variable (myAgent_debug) in
lemma owned_run : ∀ {events : List (ThreadEvent Bytes)}, ToldOnly S uid u events →
    Owned uid u (run S myAgent_debug uid events) := by
  intro events
  induction events using List.reverseRecOn with
  | nil => exact fun _ => owned_start uid u
  | append_singleton events e ih =>
      intro htold
      rw [run_concat]
      have hprevious := ih fun m hm => htold m (List.mem_append_left _ hm)
      exact hprevious.step (inOrder_run S myAgent_debug uid events).2.1
        fun m hm => htold m (List.mem_append_right _ hm)

end

end AgentThreads

/-- **An agent asks for itself.**  When the answers to its registration all carry one uuid, every
request it makes is on the topic of this uuid, and for it, however the two threads run; only the
device list may be for `-1`, where the main thread has read the uuid before the callback has set
it. -/
theorem requests_own {Bytes : Type} (S : MessageSerializer Bytes) (myAgent_debug : Bool)
    (myAgent_uid : String) (u : UUID) (events : List (ThreadEvent Bytes))
    (htold : AgentThreads.ToldOnly S myAgent_uid u events) :
    ∀ o ∈ (AgentThreads.run S myAgent_debug myAgent_uid events).published, o.Own u :=
  (AgentThreads.owned_run myAgent_debug htold).published

/-- The main thread polls the flag, and reads the uuid, while the callback is at its third
statement. -/
def earlyPoll : List (ThreadEvent Message) :=
  List.replicate 3 .main
    ++ [.message ⟨"agent-registration/node11/response",
      .registerResponse ⟨"node11", true, "Registration succeed", ⟨7⟩, ∅⟩⟩]
    ++ List.replicate 2 .statement ++ List.replicate 2 .main
    ++ List.replicate 11 .statement ++ List.replicate 2 .main

/-- The device list for no agent is among the requests: the uuid was read before the callback had
set it. -/
theorem requests_own_early_poll : AgentOutput.Own ⟨7⟩
    (.devices "device-registration/00000000-0000-0000-0000-000000000007/request" .minusOne) := by
  refine requests_own structuralSerializer false "node11" ⟨7⟩ earlyPoll
    (fun m hm _ data v hd hv => ?_) _ (by decide)
  have hmessage : m = ⟨"agent-registration/node11/response",
      .registerResponse ⟨"node11", true, "Registration succeed", ⟨7⟩, ∅⟩⟩ := by
    simpa [earlyPoll] using hm
  subst hmessage
  obtain rfl := Option.some.inj hd
  exact (Option.some.inj hv).symm

namespace AgentThreads

section
variable {Bytes : Type} {S : MessageSerializer Bytes} {myAgent_debug : Bool} {uid : String}
  {u : UUID} {x : AgentThreads}

variable (S myAgent_debug) in
/-- The callback runs to its end. -/
lemma run_statements (hloop : x.phase.looping = true) :
    ∀ {pending : List Handshake}, x.pending = pending →
      (List.replicate pending.length .statement).foldl (step S myAgent_debug) x
        = { x with self := x.settled, pending := [] } := by
  intro pending
  induction pending generalizing x with
  | nil =>
      intro hpending
      show x = _
      rw [settled_at_rest hpending, ← hpending]
  | cons t ts ih =>
      intro hpending
      have hstep : x.step S myAgent_debug .statement = { x with self := t, pending := ts } := by
        rw [step, hpending]
        simp only [hloop, if_true]
      have hrest := @ih { x with self := t, pending := ts } hloop rfl
      rw [settled_statement hpending] at hrest
      rw [List.length_cons, List.replicate_succ, List.foldl_cons, hstep, hrest]

variable (myAgent_debug) in
/-- What the answer to the device list leaves. -/
lemma final_devices {a : Handshake} (hown : a.Own uid u) (hu : a.myAgent_uuid = .uuid u)
    {m : Publication Bytes} (htopic : m.topic = "device-registration/" ++ u.toString ++ "/response")
    {r : DeviceListResponse} (hdecode : S.decode m.payload = some (.deviceListResponse r))
    (hr : r.uuid = u) :
    ((Handshake.mqttOnMessage S myAgent_debug m).run a).final.myDeviceRegistered = true ∧
      ((Handshake.mqttOnMessage S myAgent_debug m).run a).final.myDeviceSensorUUIDsMap
        = r.deviceUuids := by
  have hother : m.topic ≠ "agent-registration/" ++ uid ++ "/response" := by
    rw [htopic]
    intro h
    have hchars := congrArg String.toList h
    simp at hchars
  have hrun : (Handshake.mqttOnMessage S myAgent_debug m).run a
      = (Handshake.onDeviceRegistrationResponse S m.payload).run a := by
    rw [Handshake.mqttOnMessage, Steps.run_get_bind, hown.1.registration, Steps.ofOption_some,
      Steps.pure_bind, if_neg hother, (hown.2 hu).deviceResponse]
    simp only [Handshake.firstTopic, List.head?_cons, Option.map_some, Steps.ofOption_some,
      Steps.pure_bind, if_pos htopic]
  have hshort := Handshake.deviceRegistration_onResponse hu hdecode
  rw [hrun]
  simp only [DeviceRegistration.onDeviceRegistrationResponse, hdecode,
    DeviceRegistration.storeDeviceUuids, Handshake.deviceRegistration, hr, if_pos] at hshort
  exact ⟨congrArg DeviceRegistration.myDeviceRegistered hshort,
    congrArg DeviceRegistration.myDeviceSensorUUIDsMap hshort⟩

end

end AgentThreads

/-- **The answer to the device list is heard.**  Say the agent is told one uuid only, and waits for
the answer to its device list, the client being connected and between two callbacks.  Then it is
subscribed to the topic the framework answers on; and with the answer, once the callback has run,
it stores the uuids of its sensors and goes on to its data. -/
theorem devices_heard {Bytes : Type} (S : MessageSerializer Bytes) (myAgent_debug : Bool)
    (myAgent_uid : String) (u : UUID) (events : List (ThreadEvent Bytes))
    (htold : AgentThreads.ToldOnly S myAgent_uid u events)
    {topic : String} {responseTopic : List (String × ℕ)} {uuid : AgentUuid} {count : ℕ}
    (hphase : (AgentThreads.run S myAgent_debug myAgent_uid events).phase
      = .awaitDevices topic responseTopic uuid count)
    (hconnected : (AgentThreads.run S myAgent_debug myAgent_uid events).connected = true)
    (hrest : (AgentThreads.run S myAgent_debug myAgent_uid events).pending = []) :
    (getSensorListResponseTopic u, 2)
        ∈ (AgentThreads.run S myAgent_debug myAgent_uid events).session ∧
      ∀ payload r, S.decode payload = some (.deviceListResponse r) → r.uuid = u →
        ∃ k y, y = AgentThreads.run S myAgent_debug myAgent_uid
            (events ++ [.message ⟨getSensorListResponseTopic u, payload⟩]
              ++ List.replicate k .statement ++ [.main]) ∧
          y.phase = .sendData ∧ y.self.myDeviceSensorUUIDsMap = r.deviceUuids := by
  have howned := AgentThreads.owned_run myAgent_debug htold
  have hlistening := (AgentThreads.keeps_run S myAgent_debug myAgent_uid events).2
  have htopic : getSensorListResponseTopic u
      = "device-registration/" ++ u.toString ++ "/response" :=
    ((DeviceRegistration.start u).response_topic_eq).symm
  generalize hx : AgentThreads.run S myAgent_debug myAgent_uid events = x at *
  have hown : x.self.Own myAgent_uid u := AgentThreads.settled_at_rest hrest ▸ howned.settled
  have hu : x.self.myAgent_uuid = .uuid u :=
    hown.1.uuid.resolve_left (howned.identified (by rw [hphase]; rfl))
  constructor
  · have hphaseOwn := howned.phase
    have hsession := hlistening.subscribed (by rw [hphase]; rfl) hconnected
    rw [hphase] at hphaseOwn hsession
    rw [htopic]
    exact hsession (by simp [Phase.responseTopics, hphaseOwn.2.1])
  · intro payload r hdecode hr
    -- the callback, as many statements as it has, and one more turn of the loop
    obtain ⟨m, hm⟩ : ∃ m : Publication Bytes, m = ⟨getSensorListResponseTopic u, payload⟩ := ⟨_, rfl⟩
    obtain ⟨hflag, hmap⟩ := AgentThreads.final_devices myAgent_debug hown hu
      (show m.topic = _ by rw [hm, htopic]) (by rw [hm]; exact hdecode) hr
    have hloop : x.phase.looping = true := by rw [hphase]; rfl
    have hmessage : x.step S myAgent_debug (.message m) = { x with
        pending := ((Handshake.mqttOnMessage S myAgent_debug m).run x.self).states
          ++ [((Handshake.mqttOnMessage S myAgent_debug m).run x.self).final] } := by
      rw [AgentThreads.step, if_pos ⟨hloop, hconnected, hrest⟩]
    refine ⟨(x.step S myAgent_debug (.message m)).pending.length, _, rfl, ?_⟩
    have hlooping : (x.step S myAgent_debug (.message m)).phase.looping = true := by
      rw [hmessage]
      exact hloop
    have hstatements := AgentThreads.run_statements S myAgent_debug hlooping rfl
    rw [AgentThreads.run_concat, AgentThreads.run_append, AgentThreads.run_concat, hx, ← hm,
      hstatements]
    have hsettled : (x.step S myAgent_debug (.message m)).settled
        = ((Handshake.mqttOnMessage S myAgent_debug m).run x.self).final := by
      rw [hmessage, AgentThreads.settled]
      simp
    rw [hsettled, hmessage]
    simp only [AgentThreads.step, AgentThreads.main, hphase, hflag, Phase.poll, if_true]
    exact ⟨trivial, hmap⟩

/-- The agent `7` waits for its devices, and the broker has been started again meanwhile. -/
theorem devices_heard_broker_restarted :
    (getSensorListResponseTopic ⟨7⟩, 2)
        ∈ (AgentThreads.run structuralSerializer false "node11" brokerRestarted).session ∧
      ∀ payload r, structuralSerializer.decode payload = some (.deviceListResponse r) →
        r.uuid = ⟨7⟩ → ∃ k y, y = AgentThreads.run structuralSerializer false "node11"
            (brokerRestarted ++ [.message ⟨getSensorListResponseTopic ⟨7⟩, payload⟩]
              ++ List.replicate k .statement ++ [.main]) ∧
          y.phase = .sendData ∧ y.self.myDeviceSensorUUIDsMap = r.deviceUuids := by
  have hphase : (AgentThreads.run structuralSerializer false "node11" brokerRestarted).phase
      = .awaitDevices "device-registration/00000000-0000-0000-0000-000000000007/request"
        [("device-registration/00000000-0000-0000-0000-000000000007/response", 2)]
        (.uuid ⟨7⟩) 0 := by decide
  refine devices_heard structuralSerializer false "node11" ⟨7⟩ brokerRestarted
    (fun m hm _ data v hd hv => ?_) hphase (by decide) (by decide)
  have hmessage : m = ⟨"agent-registration/node11/response",
      .registerResponse ⟨"node11", true, "Registration succeed", ⟨7⟩, ∅⟩⟩ := by
    simpa [brokerRestarted] using hm
  subst hmessage
  obtain rfl := Option.some.inj hd
  exact (Option.some.inj hv).symm

end KrakenMare
