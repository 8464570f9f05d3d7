import KrakenMare.Agent.Answers
import KrakenMare.Agent.Deployment
import KrakenMare.Framework.Listing
import KrakenMare.Redfish.DeviceMap
import KrakenMare.Simulator.DeviceMap

/-!
# The agents and the framework together

The agents, each with its two threads, and the framework with the handlers on its executor, joined
by the broker.  Requests are retained, so the broker may hand one to the framework any number of
times and at any time; an answer goes to the agents that are subscribed to its topic.  The threads,
the handlers and the broker take their steps in any order.

A framework that is started again has lost its handlers and nothing else, since the store is Redis
and the listeners keep nothing: they are handlers that make no more calls.  An agent that is
started again is another agent, which may have drawn the same uid.

**Requests** take the way that the source gives them.  What an agent publishes is encoded, matched
with the filters of the listeners, and decoded; a listener that gets a payload of another type than
its own fails, which is the end of that request.  `request?` is this way as a whole.

* `agents_run`, `framework_run` — each party goes through a run of its own, so what holds of every
  run of an agent or of the framework holds here.
* `Sound` — what the framework handles was asked for by an agent of the cluster, and the agents are
  honest.
* `sound_run` — **it is so at every moment of every run.**

`Agent.Standing` and `Agent.SentRecords` say what follows for the agents that send.
-/

namespace KrakenMare

open Lib Lib.Interleaving AgentRedisRepository MqttDeviceListListener Protocol

/-- The agents there are, with what each of them finds to register: the inventories and the template
of a simulator, the chassis of a Redfish agent. -/
structure Cluster (ι : Type) where
  agent : ι → Started
  inventory : ι → String → List Switch
  template : ι → Device
  tree : ι → List Chassis

/-- What an agent does by itself, or its connection does: everything but receiving a message. -/
inductive LocalEvent
  | main
  | interrupt
  | statement
  | connectionLost
  | connack (sessionPresent : Bool)
deriving DecidableEq

/-- The event of the agent's threads that it is, in the model of one agent. -/
def LocalEvent.threadEvent {Bytes : Type} : LocalEvent → ThreadEvent Bytes
  | main => .main
  | interrupt => .interrupt
  | statement => .statement
  | connectionLost => .connectionLost
  | connack sessionPresent => .connack sessionPresent

/-- What may happen in a cluster: an agent does something by itself, a request reaches the
framework, a handler makes its next call, or a publication of the framework reaches an agent. -/
inductive ClusterEvent (ι : Type)
  | agent (i : ι) (e : LocalEvent)
  /-- what an agent has published as its `n`-th reaches the framework -/
  | request (i : ι) (n : ℕ)
  /-- a handler makes its next call -/
  | run (j : ℕ) (oracle : Oracle)
  /-- the entry `n` of the framework's log, if it is a publication, reaches an agent -/
  | deliver (i : ι) (n : ℕ)
deriving DecidableEq

/-- The state of a cluster: that of the framework and that of each agent. -/
structure ClusterState (ι : Type) where
  framework : Pool (Call RedisCmd) Answer ProcessException Message Request World
  agents : ι → AgentThreads

/-- The listener that handles a request, to which the broker hands it over by its topic. -/
def Request.listener : Request → FrameworkListener
  | .register _ => .MqttRegistrationListener
  | .devices _ => .MqttDeviceListListener
  | .deregister _ => .MqttDeregistrationListener

/-- The request in a payload, of the type that its listener expects. -/
def Message.request? : Message → Option Request
  | .registerRequest m => some (.register m)
  | .deviceList m => some (.devices m)
  | .deregisterRequest m => some (.deregister m)
  | _ => none

namespace Cluster

variable {ι : Type} (C : Cluster ι)

/-- The uid of an agent.  Nothing here asks for the uids of two agents to be different. -/
def uid (i : ι) : String := (C.agent i).myAgent_uid

/-- `create_my_device_map` of an agent, by its kind: what it finds to register under its UUID. -/
def createMyDeviceMap (i : ι) (myAgent_uuid : UUID) : DeviceList :=
  match (C.agent i).kind with
  | .IBswitchSimulator =>
      IBswitchSimulator.createMyDeviceMap (C.inventory i) (C.template i) myAgent_uuid
  | .RedfishAgent => RedfishAgent.createMyDeviceMap myAgent_uuid (C.tree i)

/-- What an agent publishes for the framework.  A device list for `-1` has no UUID, and no listener
can deserialize it. -/
def agentRequest? (i : ι) : AgentOutput → Option AgentRequest
  | .register => some
      (publishRegistration ((C.agent i).requestTopic, 2) (C.agent i).myRegistrationData)
  | .devices topic (.uuid u) => some (publishDeviceRegistration topic (C.createMyDeviceMap i u))
  | .devices _ _ | .data => none
  | .deregister requestTopic u => some (publishDeregistration requestTopic u)

section
variable {Bytes : Type} (S : MessageSerializer Bytes)

/-- The request that a listener gets, if the topic is one it subscribes to. -/
def request? (i : ι) (output : AgentOutput) : Option Request := do
  let q ← C.agentRequest? i output
  let payload ← S.decode (S.encode q.payload)
  let request ← payload.request?
  if Topics.matchesTopic request.listener.topicFilter q.topic then some request else none

variable [DecidableEq ι] (myAgent_debug : ι → Bool)

/-- A cluster before the first event: the framework has been reset, and the agents have been
constructed. -/
def start : ClusterState ι where
  framework := Pool.start World.reset
  agents i := .start (C.uid i)

/-- What an event is to the framework: an arrival, a step of a handler, or nothing. -/
def action? (s : ClusterState ι) : ClusterEvent ι → Option (Action Request Oracle)
  | .request i n => ((s.agents i).published[n]?.bind (C.request? S i)).map .arrive
  | .run j oracle => some (.run j oracle)
  | .agent _ _ | .deliver _ _ => none

/-- What an event is to the agents.  An answer is delivered only if the agent is subscribed to its
topic. -/
def threadEvent? (s : ClusterState ι) : ClusterEvent ι → Option (ι × ThreadEvent Bytes)
  | .agent i e => some (i, e.threadEvent)
  | .deliver i n => do
      let (_, topic, message) ← s.framework.log[n]?.bind published?
      if (s.agents i).session.any fun t => Topics.matchesTopic t.1 topic
        then some (i, .message ⟨topic, S.encode message⟩) else none
  | .request _ _ | .run _ _ => none

/-- One event.  It is an action of the framework, an event of one agent, or nothing. -/
def step (s : ClusterState ι) (e : ClusterEvent ι) : ClusterState ι where
  framework := (C.action? S s e).elim s.framework
    (Interleaving.step (messageArrived agentRedisRepository) exec s.framework)
  agents := (threadEvent? S s e).elim s.agents fun x =>
    Function.update s.agents x.1 ((s.agents x.1).step S (myAgent_debug x.1) x.2)

/-- A run: the events one after the other, in any order, of any agents. -/
def run (events : List (ClusterEvent ι)) : ClusterState ι :=
  events.foldl (C.step S myAgent_debug) C.start

variable {C S myAgent_debug}

lemma run_concat (events : List (ClusterEvent ι)) (e : ClusterEvent ι) :
    C.run S myAgent_debug (events ++ [e])
      = C.step S myAgent_debug (C.run S myAgent_debug events) e := by
  simp [run]

/-! ## Each party alone -/

variable (C S myAgent_debug) in
/-- An agent makes a step of its own, or none. -/
lemma agents_step (s : ClusterState ι) (e : ClusterEvent ι) (i : ι) :
    (C.step S myAgent_debug s e).agents i = s.agents i ∨
      ∃ t, threadEvent? S s e = some (i, t) ∧ (C.step S myAgent_debug s e).agents i
        = (s.agents i).step S (myAgent_debug i) t := by
  rw [step]
  cases hevent : threadEvent? S s e with
  | none => exact Or.inl rfl
  | some x =>
      by_cases hi : i = x.1
      · subst hi
        exact Or.inr ⟨x.2, rfl, Function.update_self ..⟩
      · exact Or.inl (Function.update_of_ne hi ..)

variable (C S myAgent_debug) in
/-- **An agent of the cluster** runs as it does alone, with some events of its own, so that
everything known of one agent holds here. -/
theorem agents_run (events : List (ClusterEvent ι)) (i : ι) : ∃ es,
    (C.run S myAgent_debug events).agents i
      = AgentThreads.run S (myAgent_debug i) (C.uid i) es := by
  induction events using List.reverseRecOn with
  | nil => exact ⟨[], rfl⟩
  | append_singleton events e ih =>
      obtain ⟨es, hes⟩ := ih
      rw [run_concat]
      rcases agents_step C S myAgent_debug (C.run S myAgent_debug events) e i with
        hsame | ⟨t, -, hstep⟩
      · exact ⟨es, hsame.trans hes⟩
      · exact ⟨es ++ [t], by rw [hstep, hes, AgentThreads.run_concat]⟩

variable (C S myAgent_debug) in
/-- The framework goes on as it does alone. -/
lemma framework_foldl (s : ClusterState ι) (events : List (ClusterEvent ι)) : ∃ acts,
    (events.foldl (C.step S myAgent_debug) s).framework
      = Interleaving.run (messageArrived agentRedisRepository) exec s.framework acts := by
  induction events generalizing s with
  | nil => exact ⟨[], rfl⟩
  | cons e events ih =>
      obtain ⟨acts, hacts⟩ := ih (C.step S myAgent_debug s e)
      refine ⟨(C.action? S s e).toList ++ acts, ?_⟩
      rw [List.foldl_cons, hacts, run_append, step]
      cases C.action? S s e <;> rfl

variable (C S myAgent_debug) in
/-- **The framework of the cluster** runs as it does alone, with some arrivals and steps of
handlers. -/
theorem framework_run (events : List (ClusterEvent ι)) : ∃ acts,
    (C.run S myAgent_debug events).framework = runFramework acts :=
  framework_foldl C S myAgent_debug C.start events

variable (C S myAgent_debug) in
lemma extends_step (s : ClusterState ι) (e : ClusterEvent ι) :
    s.framework.history.Extends (C.step S myAgent_debug s e).framework.history := by
  obtain ⟨acts, hacts⟩ := framework_foldl C S myAgent_debug s [e]
  rw [List.foldl_cons, List.foldl_nil] at hacts
  rw [hacts]
  exact extends_run _ acts

variable (C S myAgent_debug) in
lemma extends_later (events later : List (ClusterEvent ι)) :
    (C.run S myAgent_debug events).framework.history.Extends
      (C.run S myAgent_debug (events ++ later)).framework.history := by
  obtain ⟨acts, hacts⟩ := framework_foldl C S myAgent_debug (C.run S myAgent_debug events) later
  rw [run, run, List.foldl_append, ← run, hacts]
  exact extends_run _ acts

/-! ## What is asked for, and what is answered -/

variable (C S) in
/-- What the framework handles was asked for, and the agents are honest. -/
structure Sound (s : ClusterState ι) : Prop where
  honest : ∀ i, Honest s.framework.history (C.uid i) (s.agents i)
  heard : ∀ m ∈ s.framework.history.messages, ∃ i, ∃ o ∈ (s.agents i).published,
    C.request? S i o = some m

omit [DecidableEq ι] in
/-- The MQTT client of an agent is handed answers of the framework only. -/
lemma says_of_threadEvent {s : ClusterState ι} (hr : Reachable anyCall s.framework.history)
    {e : ClusterEvent ι} {i : ι} {m : Publication Bytes}
    (he : threadEvent? S s e = some (i, .message m)) :
    ∃ k message, Says s.framework.history k message ∧ m = ⟨k.topic, S.encode message⟩ := by
  cases e with
  | agent i' e => cases e <;> simp [threadEvent?, LocalEvent.threadEvent] at he
  | request i' n => simp [threadEvent?] at he
  | run j oracle => simp [threadEvent?] at he
  | deliver i' n =>
      obtain ⟨⟨j, topic, message⟩, hpublished, he⟩ := Option.bind_eq_some_iff.mp he
      dsimp only at he
      split_ifs at he
      obtain ⟨-, hm⟩ := Prod.mk.inj (Option.some.inj he)
      obtain rfl := ThreadEvent.message.inj hm
      obtain ⟨k, rfl, hs⟩ := says_of_published hr (Deployment.mem_of_published? hpublished)
      exact ⟨k, message, hs, rfl⟩

omit [DecidableEq ι] in
/-- A request that reaches the framework was published. -/
lemma heard_of_action {s : ClusterState ι} {e : ClusterEvent ι} {m : Request}
    (he : C.action? S s e = some (.arrive m)) :
    ∃ i, ∃ o ∈ (s.agents i).published, C.request? S i o = some m := by
  cases e with
  | agent i e => simp [action?] at he
  | deliver i n => simp [action?] at he
  | run j oracle => simp [action?] at he
  | request i n =>
      simp only [action?, Option.map_eq_some_iff, Option.bind_eq_some_iff] at he
      obtain ⟨m', ⟨o, ho, hm⟩, heq⟩ := he
      obtain rfl := Action.arrive.inj heq
      exact ⟨i, o, List.mem_of_getElem? ho, hm⟩

/-- **One step.**  A request that reaches the framework was published by an honest agent, and what
reaches an agent is an answer of the framework. -/
theorem Sound.step {s : ClusterState ι} (hs : C.Sound S s)
    (hr : Reachable anyCall s.framework.history) (e : ClusterEvent ι) :
    C.Sound S (C.step S myAgent_debug s e) where
  honest i := by
    have hext := extends_step C S myAgent_debug s e
    rcases agents_step C S myAgent_debug s e i with
      hsame | ⟨t, hevent, hstep⟩
    · rw [hsame]
      exact (hs.honest i).mono hext
    · rw [hstep]
      refine ((hs.honest i).step fun m hm => ?_).mono hext
      exact says_of_threadEvent hr (hm ▸ hevent)
  heard m hm := by
    have hearlier : (∃ i, ∃ o ∈ (s.agents i).published, C.request? S i o = some m) →
        ∃ i, ∃ o ∈ ((C.step S myAgent_debug s e).agents i).published,
          C.request? S i o = some m := by
      rintro ⟨i, o, ho, hm⟩
      refine ⟨i, o, ?_, hm⟩
      rcases agents_step C S myAgent_debug s e i with
        hsame | ⟨t, -, hstep⟩
      · rw [hsame]
        exact ho
      · rw [hstep]
        exact (AgentThreads.published_step (s.agents i) t).mem ho
    rw [Cluster.step] at hm
    cases haction : C.action? S s e with
    | none =>
        rw [haction] at hm
        exact hearlier (hs.heard m hm)
    | some x =>
        rw [haction] at hm
        have hmessages : (Interleaving.step (messageArrived agentRedisRepository) exec s.framework
            x).history.messages = s.framework.history.messages ++ [x].filterMap Action.message? :=
          messages_run s.framework [x]
        rcases List.mem_append.mp (hmessages ▸ hm) with hm | hm
        · exact hearlier (hs.heard m hm)
        · obtain ⟨x', hx', hmessage⟩ := List.mem_filterMap.mp hm
          obtain rfl := List.mem_singleton.mp hx'
          cases x' with
          | arrive m' =>
              obtain rfl := Option.some.inj hmessage
              exact hearlier (heard_of_action haction)
          | run j oracle => exact absurd hmessage (by simp [Action.message?])

variable (C S myAgent_debug) in
/-- **At every moment of every run** the framework is in a state that its executor can reach, what
it handles was asked for, and the agents are honest. -/
theorem sound_run (events : List (ClusterEvent ι)) :
    Reachable anyCall (C.run S myAgent_debug events).framework.history ∧
      C.Sound S (C.run S myAgent_debug events) := by
  have hr : ∀ events, Reachable anyCall (C.run S myAgent_debug events).framework.history := by
    intro events
    obtain ⟨acts, hacts⟩ := framework_run C S myAgent_debug events
    exact hacts ▸ reachable_run acts
  refine ⟨hr events, ?_⟩
  induction events using List.reverseRecOn with
  | nil => exact ⟨fun i => honest_start _ _, fun m hm => absurd hm List.not_mem_nil⟩
  | append_singleton events e ih =>
      rw [run_concat]
      exact ih.step (hr events) e

end

end Cluster

end KrakenMare
