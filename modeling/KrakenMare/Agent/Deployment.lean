import KrakenMare.Agent.Identity
import KrakenMare.Framework.Registration

/-!
# Agents on different hosts, and their framework

Agents register with one framework through the broker.  In a run the broker hands requests to the
framework, a registration request as often as it likes since it is retained; the handlers make
their calls in any order; and what they have published is handed to the agents that subscribe to
its topic.

A registration request says which uid it is for, but not which agent has sent it, and the answer
goes to the topic of the uid.  Two agents with one uid therefore get each other's answers, and a
UUID that was drawn for one of them becomes that of both.  The model keeps in `origin` which
agent's request a handler has; no part of the program knows it.

* `settled_run` — in every run the answers that an agent gets, and the uuid it has, are for its
  uid.
* `distinct_identities_iff` — **agents on different hosts are kept apart just when no host name
  borrows digits of a draw**: uids, topics, client ids, answers and uuids all at once.
* `nodes_share_identity` — the simulators of two nodes with one uid, and one uuid.

That two clients with one id also throw each other off the broker is not modelled; what is said
here holds for whatever the broker lets through.
-/

namespace KrakenMare

open Lib Lib.Interleaving Protocol

/-- The agents that are there, each with its host, its kind and what it has drawn. -/
structure Deployment (ι : Type) where
  agent : ι → Started

/-! ## Runs -/

/-- What may happen at a site: a request reaches the framework, a handler makes its next call, or a
publication reaches an agent. -/
inductive Event (ι : Type)
  /-- the registration request of an agent reaches the framework -/
  | register (i : ι)
  | devices (m : DeviceList)
  | deregister (m : DeregisterRequest)
  /-- a handler makes its next call -/
  | run (j : ℕ) (oracle : Oracle)
  /-- the entry `n` of the framework's log, if it is a publication, reaches an agent -/
  | deliver (i : ι) (n : ℕ)
deriving DecidableEq

/-- The state of a site: the framework, the agents, and the messages that the agents have got. -/
structure Site (ι : Type) where
  framework : Pool (Call RedisCmd) Answer ProcessException Message Request World
  /-- for each handler the agent whose registration request it handles -/
  origin : List (Option ι)
  agents : ι → Handshake
  /-- what has reached an agent, with the handler that published it -/
  received : List (ι × ℕ × Message)

/-- A publication that the MQTT client has taken, with its handler. -/
def published? : ℕ × Answered Answer → Option (ℕ × String × Message)
  | (j, ⟨.publish topic message, true⟩) => some (j, topic, message)
  | _ => none

/-- The client subscribes to `userdata`, which is the registration response topic list; the topics
that the agent subscribes to later have been added to it by then. -/
def Handshake.subscribed (a : Handshake) (topic : String) : Bool :=
  a.myAgent_registration_response_topic.any fun t => Topics.matchesTopic t.1 topic

section
variable {Bytes : Type} (S : MessageSerializer Bytes)

/-- The callback of an agent, by its kind.  The two have the same statements, as `Agent.Handshake`
shows. -/
def Started.mqttOnMessage (a : Started) (myAgent_debug : Bool) (message : Publication Bytes) :
    Steps Handshake Unit :=
  match a.kind with
  | .IBswitchSimulator => IBswitchSimulator.mqttOnMessage S myAgent_debug message
  | .RedfishAgent => RedfishAgent.mqttOnMessage S myAgent_debug message

lemma Started.mqttOnMessage_eq (a : Started) :
    a.mqttOnMessage S = Handshake.mqttOnMessage S := by
  funext myAgent_debug message
  rw [Started.mqttOnMessage]
  cases a.kind <;> rfl

namespace Deployment

variable {ι : Type} [DecidableEq ι] (D : Deployment ι) (myAgent_debug : ι → Bool)

/-- What an event is to the framework.  Device lists and deregistrations may come from anyone. -/
def action? : Event ι → Option (Action Request Oracle)
  | .register i => some (.arrive (.register (D.agent i).myRegistrationData))
  | .devices m => some (.arrive (.devices m))
  | .deregister m => some (.arrive (.deregister m))
  | .run j oracle => some (.run j oracle)
  | .deliver _ _ => none

/-- The agents that new handlers are for, `none` for a request that is not a registration. -/
def origin? : Event ι → List (Option ι)
  | .register i => [some i]
  | .devices _ | .deregister _ => [none]
  | .run _ _ | .deliver _ _ => []

/-- A site before the first event: the framework has been reset, and the agents have been
constructed. -/
def start : Site ι where
  framework := Pool.start World.reset
  origin := []
  agents := fun i => Handshake.start (D.agent i).myAgent_uid
  received := []

/-- A message reaches an agent, if it is subscribed to the topic, and its callback runs to the
end. -/
def deliver (s : Site ι) (i : ι) (j : ℕ) (topic : String) (message : Message) : Site ι :=
  if (s.agents i).subscribed topic then
    { s with
      agents := Function.update s.agents i (((D.agent i).mqttOnMessage S (myAgent_debug i)
        ⟨topic, S.encode message⟩).run (s.agents i)).final
      received := s.received ++ [(i, j, message)] }
  else s

/-- One event.  A delivery takes any publication of the past, so that answers may be late, repeated
or overtaken. -/
def step (s : Site ι) (e : Event ι) : Site ι :=
  match e with
  | .deliver i n =>
      match s.framework.log[n]?.bind published? with
      | some (j, topic, message) => D.deliver S myAgent_debug s i j topic message
      | none => s
  | e => { s with
      framework := (D.action? e).elim s.framework
        (Interleaving.step (messageArrived agentRedisRepository) exec s.framework)
      origin := s.origin ++ origin? e }

/-- A run: the events one after the other, from the agents just started. -/
def run (events : List (Event ι)) : Site ι := events.foldl (D.step S myAgent_debug) D.start

variable {D S myAgent_debug}

lemma run_concat (events : List (Event ι)) (e : Event ι) :
    D.run S myAgent_debug (events ++ [e])
      = D.step S myAgent_debug (D.run S myAgent_debug events) e := by
  simp [run]

/-- The agents do not get in the way of the framework. -/
lemma framework_deliver (s : Site ι) (i : ι) (j : ℕ) (topic : String) (message : Message) :
    (D.deliver S myAgent_debug s i j topic message).framework = s.framework ∧
      (D.deliver S myAgent_debug s i j topic message).origin = s.origin := by
  rw [deliver]
  split_ifs
  · exact ⟨rfl, rfl⟩
  · exact ⟨rfl, rfl⟩

/-- The framework of a site is one of `runFramework`: the agents hand it requests and do nothing
else to it. -/
theorem framework_run (events : List (Event ι)) :
    (D.run S myAgent_debug events).framework = runFramework (events.filterMap D.action?) := by
  induction events using List.reverseRecOn with
  | nil => rfl
  | append_singleton events e ih =>
      rw [run_concat, List.filterMap_append, runFramework, run_append, ← runFramework, ← ih]
      cases e with
      | deliver i n =>
          simp only [step]
          cases (D.run S myAgent_debug events).framework.log[n]?.bind published? with
          | none => rfl
          | some x => exact (framework_deliver _ i x.1 x.2.1 x.2.2).1
      | register i => rfl
      | devices m => rfl
      | deregister m => rfl
      | run j oracle => rfl

lemma reachable (events : List (Event ι)) :
    Reachable anyCall (D.run S myAgent_debug events).framework.history := by
  rw [framework_run]
  exact reachable_run _

end Deployment

end

/-! ## What a message does to an agent -/

/-- The topic of an answer to a registered agent, as opposed to that of the answer to a
registration. -/
def LaterTopic (topic : String) : Prop :=
  ∃ kind rest, (kind = "device-registration" ∨ kind = "agent-deregistration") ∧
    topic = kind ++ "/" ++ rest

lemma LaterTopic.levels {topic : String} (h : LaterTopic topic) : ∃ f fs,
    Topics.levels topic = f :: fs ∧ Topics.Plain f ∧ f ≠ "agent-registration".toList := by
  obtain ⟨kind, rest, rfl | rfl, rfl⟩ := h
  · exact ⟨_, _, Topics.levels_append (by decide), ⟨by decide, by decide⟩, by decide⟩
  · exact ⟨_, _, Topics.levels_append (by decide), ⟨by decide, by decide⟩, by decide⟩

lemma LaterTopic.ne_responseTopic {topic : String} (h : LaterTopic topic) (a : Started) :
    topic ≠ a.responseTopic := by
  rintro rfl
  obtain ⟨f, fs, hlevels, -, hne⟩ := h.levels
  rw [a.levels_responseTopic] at hlevels
  exact hne (List.cons.inj hlevels).1.symm

lemma LaterTopic.not_matches {filter : String} (h : LaterTopic filter) (a : Started) :
    Topics.matchesTopic filter a.responseTopic = false := by
  obtain ⟨f, fs, hlevels, hplain, hne⟩ := h.levels
  exact Topics.not_matches_of_head_ne hlevels a.levels_responseTopic hplain hne

lemma laterTopic_response {kind : String}
    (h : kind = "device-registration" ∨ kind = "agent-deregistration") (uuid : String) :
    LaterTopic (kind ++ "/" ++ uuid ++ "/response") :=
  ⟨kind, uuid ++ "/response", h, String.append_assoc⟩

/-- What an agent subscribes to when it has a uuid. -/
lemma laterTopic_device (uuid : String) :
    LaterTopic ("device-registration/" ++ uuid ++ "/response") := by
  have hhead : "device-registration/" = "device-registration" ++ "/" := by decide +kernel
  exact congrArg (fun s => s ++ uuid ++ "/response") hhead ▸ laterTopic_response (Or.inl rfl) uuid

lemma laterTopic_deregistration (uuid : String) :
    LaterTopic ("agent-deregistration/" ++ uuid ++ "/response") := by
  have hhead : "agent-deregistration/" = "agent-deregistration" ++ "/" := by decide +kernel
  exact congrArg (fun s => s ++ uuid ++ "/response") hhead ▸ laterTopic_response (Or.inr rfl) uuid

namespace Handshake

section
variable {Bytes : Type} {S : MessageSerializer Bytes} {myAgent_debug : Bool} {a : Handshake}

/-- The subscriptions of the agent `s`: its own response topic, and topics for later. -/
def SubscribedAs (a : Handshake) (s : Started) : Prop :=
  ∃ rest, a.myAgent_registration_response_topic = (s.responseTopic, 2) :: rest ∧
    ∀ t ∈ rest, LaterTopic t.1

lemma SubscribedAs.firstTopic {s : Started} (h : a.SubscribedAs s) :
    Handshake.firstTopic a.myAgent_registration_response_topic = some s.responseTopic := by
  obtain ⟨rest, htopics, -⟩ := h
  rw [htopics]
  rfl

/-- The answers to a registration that reach an agent are for its uid. -/
lemma SubscribedAs.uid_eq {s t : Started} (h : a.SubscribedAs s)
    (ht : a.subscribed t.responseTopic = true) : s.myAgent_uid = t.myAgent_uid := by
  obtain ⟨rest, htopics, hrest⟩ := h
  rw [subscribed, htopics, List.any_cons, Bool.or_eq_true] at ht
  rcases ht with ht | ht
  · exact Started.responseTopic_inj.mp ((s.matches_responseTopic _).mp ht)
  · obtain ⟨later, hlater, hmatch⟩ := List.any_eq_true.mp ht
    rw [(hrest later hlater).not_matches t] at hmatch
    exact absurd hmatch (by simp)

/-- What tells an agent who it is and where it listens; the deployment is about these two only. -/
def identity (a : Handshake) : AgentUuid × List (String × ℕ) :=
  (a.myAgent_uuid, a.myAgent_registration_response_topic)

lemma keeps_storeDeviceUuids (data : Message) : Steps.Keeps identity (storeDeviceUuids data) := by
  refine Steps.Keeps.get.bind fun a => (Steps.Keeps.ofOption _).bind fun uuid => ?_
  refine Steps.Keeps.ite ?_ (Steps.Keeps.pure ())
  exact (Steps.Keeps.ofOption _).bind fun uuids => Steps.Keeps.assign fun _ => rfl

lemma keeps_decodeMessage (payload : Bytes) :
    Steps.Keeps identity (decodeMessage S payload) := by
  rw [decodeMessage]
  cases S.decode payload with
  | none => exact Steps.Keeps.fail
  | some data =>
      have hdecoded : Steps.Keeps identity
          (Steps.assign fun a : Handshake => { a with decoded := a.decoded ++ [data] }) :=
        Steps.Keeps.assign fun _ => rfl
      exact hdecoded.bind fun _ => Steps.Keeps.pure data

/-- **A message on another topic** leaves the agent who it is, whatever is in it. -/
theorem identity_mqttOnMessage {m : Publication Bytes} {topic : String}
    (hfirst : firstTopic a.myAgent_registration_response_topic = some topic)
    (hne : m.topic ≠ topic) :
    identity ((mqttOnMessage S myAgent_debug m).run a).final = identity a := by
  rw [mqttOnMessage, Steps.run_get_bind, hfirst, Steps.ofOption_some, Steps.pure_bind, if_neg hne]
  have hdevices : Steps.Keeps identity (onDeviceRegistrationResponse S m.payload) :=
    (keeps_decodeMessage _).bind fun data => (keeps_storeDeviceUuids data).bind fun _ =>
      Steps.Keeps.assign fun _ => rfl
  have hflag : Steps.Keeps identity
      (Steps.assign fun a : Handshake => { a with myMQTTderegistered := true }) :=
    Steps.Keeps.assign fun _ => rfl
  have hderegistration : Steps.Keeps identity (onDeregistrationResponse S m.payload) :=
    hflag.bind fun _ => (keeps_decodeMessage _).bind fun _ => Steps.Keeps.pure ()
  have hrest := (Steps.Keeps.ofOption (v := identity)
      (firstTopic a.myDevice_registration_response_topic)).bind fun device =>
    Steps.Keeps.ite (c := m.topic = device) hdevices
      ((Steps.Keeps.ofOption (firstTopic a.myAgent_deregistration_response_topic)).bind
        fun deregistration => Steps.Keeps.ite (c := m.topic = deregistration) hderegistration
          (Steps.Keeps.pure ()))
  exact hrest a

/-- **The answer to the registration** gives the agent its uuid, and two topics more, behind the one
that it came on. -/
theorem identity_registered (myAgent_debug : Bool) {payload : Bytes} {r : RegisterResponse}
    {s : Started} (hdecode : S.decode payload = some (.registerResponse r)) (hs : a.SubscribedAs s) :
    ((mqttOnMessage S myAgent_debug ⟨s.responseTopic, payload⟩).run a).final.myAgent_uuid
        = .uuid r.uuid ∧
      ((mqttOnMessage S myAgent_debug ⟨s.responseTopic, payload⟩).run a).final.SubscribedAs s := by
  obtain ⟨rest, htopics, hrest⟩ := hs
  have hfirst : firstTopic ((s.responseTopic, 2) :: rest) = some s.responseTopic := rfl
  rw [mqttOnMessage, Steps.run_get_bind, htopics, hfirst, Steps.ofOption_some, Steps.pure_bind,
    if_pos rfl, final_onRegistrationResponse myAgent_debug hdecode]
  refine ⟨rfl, rest ++ [("device-registration/" ++ r.uuid.toString ++ "/response", 2)]
    ++ [("agent-deregistration/" ++ r.uuid.toString ++ "/response", 2)], ?_, ?_⟩
  · rw [htopics]
    rfl
  · intro t ht
    simp only [List.mem_append, List.mem_singleton] at ht
    rcases ht with (ht | rfl) | rfl
    · exact hrest t ht
    · exact laterTopic_device _
    · exact laterTopic_deregistration _

end

end Handshake

/-! ## Whose answers an agent gets -/

namespace Deployment

section
variable {ι : Type} {D : Deployment ι} {s : Site ι}

/-- A registration request comes from the agent that its handler is for. -/
def From (D : Deployment ι) (request : Request) (o : Option ι) : Prop :=
  ∀ m, request = .register m → ∃ i, o = some i ∧ m = (D.agent i).myRegistrationData

/-- The handler `j` has a request with the uid of the agent `i`. -/
def AnswersTo (D : Deployment ι) (s : Site ι) (j : ℕ) (i : ι) : Prop :=
  ∃ k, s.origin[j]? = some (some k) ∧ (D.agent k).myAgent_uid = (D.agent i).myAgent_uid

/-- Whatever an agent has was for its uid: what it has received, and the uuid that it took from
there. -/
structure Settled (D : Deployment ι) (s : Site ι) : Prop where
  origins : List.Forall₂ D.From s.framework.history.messages s.origin
  subscribed : ∀ i, (s.agents i).SubscribedAs (D.agent i)
  received : ∀ i j r, (i, j, .registerResponse r) ∈ s.received → D.AnswersTo s j i
  uuids : ∀ i u, (s.agents i).myAgent_uuid = .uuid u →
    ∃ j r, Welcomed s.framework.history j r ∧ r.uuid = u ∧ D.AnswersTo s j i

lemma settled_start : Settled D D.start where
  origins := .nil
  subscribed i := ⟨[], rfl, by simp⟩
  received i j r h := absurd h (by simp [start])
  uuids i u h := absurd h (by simp [start, Handshake.start])

/-- Whose request a handler has. -/
lemma Settled.origin (h : Settled D s) {j : ℕ} {m : RegisterRequest}
    (hm : s.framework.history.messages[j]? = some (.register m)) :
    ∃ i, s.origin[j]? = some (some i) ∧ m = (D.agent i).myRegistrationData := by
  obtain ⟨hlt, hj⟩ := List.getElem?_eq_some_iff.mp hm
  have hlt' : j < s.origin.length := h.origins.length_eq ▸ hlt
  obtain ⟨i, hi, hmi⟩ := h.origins.get hlt hlt' m hj
  exact ⟨i, List.getElem?_eq_some_iff.mpr ⟨hlt', hi⟩, hmi⟩

/-- The framework goes on, with a handler for each new request. -/
lemma Settled.framework (h : Settled D s) (x : Action Request Oracle) {os : List (Option ι)}
    (hos : List.Forall₂ D.From ([x].filterMap Action.message?) os) :
    Settled D { s with
      framework := Interleaving.step (messageArrived agentRedisRepository) exec s.framework x
      origin := s.origin ++ os } := by
  have hanswers : ∀ {j i}, D.AnswersTo s j i → ∃ k, (s.origin ++ os)[j]? = some (some k) ∧
      (D.agent k).myAgent_uid = (D.agent i).myAgent_uid := by
    rintro j i ⟨k, hj, hk⟩
    rw [List.getElem?_append_left (List.getElem?_eq_some_iff.mp hj).1]
    exact ⟨k, hj, hk⟩
  refine ⟨?_, h.subscribed, fun i j r hr => hanswers (h.received i j r hr), fun i u hu => ?_⟩
  · have hmessages : (Interleaving.step (messageArrived agentRedisRepository) exec s.framework
        x).history.messages = s.framework.history.messages ++ [x].filterMap Action.message? :=
      messages_run s.framework [x]
    exact hmessages ▸ List.rel_append h.origins hos
  · obtain ⟨j, r, ⟨t, hw⟩, hr, hj⟩ := h.uuids i u hu
    exact ⟨j, r, ⟨t, (extends_run s.framework [x]).mem hw⟩, hr, hanswers hj⟩

/-- What the framework publishes, on which topic. -/
lemma published_cases {G : World → Request → Call RedisCmd → Prop} {h : Past}
    (hr : Reachable G h) {j : ℕ} {topic : String} {message : Message}
    (hmem : (j, (⟨.publish topic message, true⟩ : Answered Answer)) ∈ h.log) :
    (∃ m r, h.messages[j]? = some (.register m) ∧ topic = getRegistrationResponseTopic m.uid ∧
      message = .registerResponse r) ∨
    LaterTopic topic ∧ ∀ r, message ≠ .registerResponse r := by
  obtain ⟨m, l₁, l₂, hm, -, hn⟩ := hr.mem_log hmem
  have hnext : Next m l₁ (.publish topic message) := hn
  cases hnext with
  | welcome m id u n => exact Or.inl ⟨m, _, hm, rfl, rfl⟩
  | respond m us a n hus => exact Or.inr ⟨laterTopic_response (Or.inl rfl) _, by simp⟩
  | goodbye m a n => exact Or.inr ⟨laterTopic_response (Or.inr rfl) _, by simp⟩

/-- One uuid was drawn for one request, with one uid. -/
lemma Settled.uid_eq {G : World → Request → Call RedisCmd → Prop} (h : Settled D s)
    (hr : Reachable G s.framework.history) {i k : ι} {u : UUID}
    (hi : (s.agents i).myAgent_uuid = .uuid u) (hk : (s.agents k).myAgent_uuid = .uuid u) :
    (D.agent i).myAgent_uid = (D.agent k).myAgent_uid := by
  obtain ⟨j, r, hw, rfl, l, hl, hli⟩ := h.uuids i u hi
  obtain ⟨j', r', hw', hr', l', hl', hlk⟩ := h.uuids k _ hk
  obtain ⟨m, id, hc, -⟩ := hw.created hr
  obtain ⟨m', id', hc', -⟩ := hw'.created hr
  rw [hr'] at hc'
  obtain rfl := drawn_unique hr hc.mem_draw hc'.mem_draw
  obtain rfl := Option.some.inj (Option.some.inj (hl.symm.trans hl'))
  exact hli.symm.trans hlk

variable [DecidableEq ι]

/-- An agent gets a message that may be for it. -/
lemma Settled.receive (h : Settled D s) {i : ι} {j : ℕ} {message : Message} {a : Handshake}
    (hsubscribed : a.SubscribedAs (D.agent i))
    (hreceived : ∀ r, message = .registerResponse r → D.AnswersTo s j i)
    (huuid : ∀ u, a.myAgent_uuid = .uuid u → ∃ j r, Welcomed s.framework.history j r ∧
      r.uuid = u ∧ D.AnswersTo s j i) :
    Settled D { s with
      agents := Function.update s.agents i a
      received := s.received ++ [(i, j, message)] } where
  origins := h.origins
  subscribed k := by
    by_cases hk : k = i
    · subst hk
      simpa only [Function.update_self] using hsubscribed
    · simpa only [Function.update_of_ne hk] using h.subscribed k
  received k l r hmem := by
    rcases List.mem_append.mp hmem with hmem | hmem
    · exact h.received k l r hmem
    · simp only [List.mem_singleton, Prod.mk.injEq] at hmem
      obtain ⟨rfl, rfl, hr⟩ := hmem
      exact hreceived r hr.symm
  uuids k u hu := by
    by_cases hk : k = i
    · subst hk
      simp only [Function.update_self] at hu
      exact huuid u hu
    · simp only [Function.update_of_ne hk] at hu
      exact h.uuids k u hu

variable {Bytes : Type} {S : MessageSerializer Bytes} {myAgent_debug : ι → Bool}

/-- A publication reaches the agents that subscribe to its topic. -/
lemma Settled.deliver {G : World → Request → Call RedisCmd → Prop} (h : Settled D s)
    (hr : Reachable G s.framework.history) {i : ι} {j : ℕ} {topic : String} {message : Message}
    (hmem : (j, (⟨.publish topic message, true⟩ : Answered Answer)) ∈ s.framework.history.log) :
    Settled D (D.deliver S myAgent_debug s i j topic message) := by
  rw [Deployment.deliver]
  split_ifs with hsubscribed
  swap
  · exact h
  rw [Started.mqttOnMessage_eq]
  rcases published_cases hr hmem with ⟨m, r, hm, rfl, rfl⟩ | ⟨htopic, hmessage⟩
  · -- the answer to a registration is for the agents that subscribe to its topic
    obtain ⟨k, hj, rfl⟩ := h.origin hm
    rw [Started.uid_myRegistrationData, Started.getRegistrationResponseTopic_uid] at *
    have huid := (h.subscribed i).uid_eq hsubscribed
    have hanswers : D.AnswersTo s j i := ⟨k, hj, huid.symm⟩
    have hdecode : S.decode (S.encode (.registerResponse r)) = some (.registerResponse r) :=
      S.decode_encode _
    rw [← Started.responseTopic_inj.mpr huid]
    obtain ⟨huuid, hnew⟩ := Handshake.identity_registered (myAgent_debug i) hdecode (h.subscribed i)
    refine h.receive hnew (fun _ _ => hanswers) fun u hu => ⟨j, r, ⟨_, hmem⟩, ?_, hanswers⟩
    exact AgentUuid.uuid.inj (huuid.symm.trans hu)
  · have hsame : Handshake.identity ((Handshake.mqttOnMessage S (myAgent_debug i)
        ⟨topic, S.encode message⟩).run (s.agents i)).final = Handshake.identity (s.agents i) :=
      Handshake.identity_mqttOnMessage (h.subscribed i).firstTopic (htopic.ne_responseTopic _)
    obtain ⟨huuid, htopics⟩ := Prod.mk.inj hsame
    refine h.receive ?_ (fun r hr => absurd hr (hmessage r)) fun u hu => ?_
    · rw [Handshake.SubscribedAs, htopics]
      exact h.subscribed i
    · exact h.uuids i u (huuid.symm.trans hu)

lemma mem_of_published? {log : List (ℕ × Answered Answer)} {n j : ℕ} {topic : String}
    {message : Message} (h : log[n]?.bind published? = some (j, topic, message)) :
    (j, (⟨.publish topic message, true⟩ : Answered Answer)) ∈ log := by
  obtain ⟨e, hn, he⟩ := Option.bind_eq_some_iff.mp h
  unfold published? at he
  split at he
  · cases he
    exact List.mem_of_getElem? hn
  · cases he

/-- **In every run** the agents get what was for their uids, also when several share one. -/
theorem settled_run (events : List (Event ι)) : Settled D (D.run S myAgent_debug events) := by
  induction events using List.reverseRecOn with
  | nil => exact settled_start
  | append_singleton events e ih =>
      rw [run_concat]
      cases e with
      | deliver i n =>
          rw [step]
          cases hpublished : (D.run S myAgent_debug events).framework.log[n]?.bind published? with
          | none => exact ih
          | some x => exact ih.deliver (reachable events) (mem_of_published? hpublished)
      | register i =>
          refine ih.framework (.arrive _) (.cons (fun m hm => ?_) .nil)
          exact ⟨i, rfl, (Request.register.inj hm).symm⟩
      | devices m => exact ih.framework (.arrive _) (.cons (fun _ hm => by simp at hm) .nil)
      | deregister m => exact ih.framework (.arrive _) (.cons (fun _ hm => by simp at hm) .nil)
      | run j oracle => exact ih.framework (.run j oracle) .nil

/-! ## Different hosts -/

variable (D S myAgent_debug) in
/-- Hosts with different names never share the identity of an agent, and an answer reaches only
agents on the host where the request for it was made. -/
structure DistinctIdentities : Prop where
  uids : ∀ i k, (D.agent i).node ≠ (D.agent k).node →
    (D.agent i).myAgent_uid ≠ (D.agent k).myAgent_uid
  requestTopics : ∀ i k, (D.agent i).node ≠ (D.agent k).node →
    (D.agent i).requestTopic ≠ (D.agent k).requestTopic
  responseTopics : ∀ i k, (D.agent i).node ≠ (D.agent k).node →
    (D.agent i).responseTopic ≠ (D.agent k).responseTopic
  clientIds : ∀ i k, (D.agent i).node ≠ (D.agent k).node →
    (D.agent i).clientId ≠ (D.agent k).clientId
  received : ∀ events i j r,
    (i, j, .registerResponse r) ∈ (D.run S myAgent_debug events).received →
    ∃ k, (D.run S myAgent_debug events).origin[j]? = some (some k) ∧
      (D.agent k).node = (D.agent i).node
  uuids : ∀ events i k u, (D.agent i).node ≠ (D.agent k).node →
    ¬ (((D.run S myAgent_debug events).agents i).myAgent_uuid = .uuid u ∧
      ((D.run S myAgent_debug events).agents k).myAgent_uuid = .uuid u)

/-- **The identities of agents** on different hosts are distinct just when no host name borrows
digits of a draw. -/
theorem distinct_identities_iff : DistinctIdentities D S myAgent_debug ↔
    ∀ i k, ¬ (D.agent i).Borrows (D.agent k) := by
  constructor
  · intro h i k hborrows
    have hne := hborrows.node_ne
    exact h.uids i k hne ((Started.uid_eq_iff hne).mpr (Or.inl hborrows))
  · intro h
    have huid : ∀ i k, (D.agent i).node ≠ (D.agent k).node →
        (D.agent i).myAgent_uid ≠ (D.agent k).myAgent_uid := by
      intro i k hne hsame
      exact ((Started.uid_eq_iff hne).mp hsame).elim (h i k) (h k i)
    refine ⟨huid, fun i k hne => ?_, fun i k hne => ?_, huid, fun events i j r hmem => ?_,
      fun events i k u hne => ?_⟩
    · exact fun htopic => huid i k hne (Started.requestTopic_inj.mp htopic)
    · exact fun htopic => huid i k hne (Started.responseTopic_inj.mp htopic)
    · obtain ⟨k, hj, hk⟩ := (settled_run events).received i j r hmem
      exact ⟨k, hj, by_contra fun hne => huid k i hne hk⟩
    · rintro ⟨hi, hk⟩
      exact huid i k hne ((settled_run events).uid_eq (reachable events) hi hk)

end

/-- Simulators on `node1` and on `node11`, which have drawn 11 and 1. -/
def twoNodes : Deployment Bool where
  agent
    | false => ⟨.IBswitchSimulator, "node1", 11, by decide, by decide⟩
    | true => ⟨.IBswitchSimulator, "node11", 1, by decide, by decide⟩

/-- The first of them registers, and the answer reaches both. -/
def oneAnswer : List (Event Bool) :=
  [.register false, .run 0 ⟨⟨7⟩, true⟩, .run 0 ⟨⟨7⟩, true⟩, .run 0 ⟨⟨7⟩, true⟩,
    .run 0 ⟨⟨7⟩, true⟩, .deliver false 3, .deliver true 3]

/-- Node `node1` draws 11 and node `node11` draws 1: one uid, and the answer to the request of the
one gives its uuid to both. -/
theorem nodes_share_identity :
    (∀ i, (twoNodes.agent i).myAgent_uid = "node111") ∧
    (∀ i, ((twoNodes.run structuralSerializer (fun _ => false) oneAnswer).agents i).myAgent_uuid
      = .uuid ⟨7⟩) ∧
    ¬ DistinctIdentities twoNodes structuralSerializer fun _ => false := by
  have huid : ∀ i, (twoNodes.agent i).myAgent_uid = "node111" := by decide +kernel
  refine ⟨huid, by decide +kernel, fun h => ?_⟩
  exact h.uids false true (by decide) ((huid false).trans (huid true).symm)

end Deployment

end KrakenMare
