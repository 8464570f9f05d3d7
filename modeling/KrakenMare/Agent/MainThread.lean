import KrakenMare.Agent.Handshake

/-!
# The main thread of an agent, and its session with the broker

`run` and `signal_handler` of `simulator/IBswitchSimulator.py` and `redfish/RedfishAgent.py`, the
same for both, over `mqtt_init`, `mqtt_registration`, `mqtt_device_registration` and
`mqtt_deregistration` of `agent-python-module/agentcommon.py`.  The main thread subscribes,
publishes a request and polls a flag; the callback `mqtt_on_message` sets the flags in the thread
of the MQTT client, one statement at a time.

**Phases.**  `Phase` is where the main thread is, with the values of its local variables, which it
has read from attributes that the callback may have changed since.  `AgentThreads.main` is one step
of it.  A poll gives up after 300 turns, and then the program exits with 300.  A signal, or the
limit on the number of messages, takes the main thread out of what it was doing, at any time, to
deregister.

**The session.**  The broker keeps the subscriptions of a client over a lost connection, unless it
has lost the session; so `mqtt_on_connect` subscribes to `userdata` again, which is the list of the
registration response topic, and which the callback extends.

* `goes_of_registration` — what is true of the topics during a callback, and at its end.
* `Covers` — the invariant: all topics that the agent holds are, when the callback has returned, in
  `userdata`.
* `listening_run` — **while the main thread waits for an answer the agent is subscribed to the
  topic it has given for it**, whenever there is a connection.

Left out: the TLS setup, and the waits for a publication to be complete, during which the main
thread is not scheduled.  What is subscribed to over a connection reaches the broker.
-/

namespace KrakenMare

open Lib

/-! ## The main thread -/

/-- What the main thread hands to the MQTT client.  Sensor data is one kind of output here, whatever
is in it. -/
inductive AgentOutput
  | register
  | devices (deviceMQTTtopic : String) (uuid : AgentUuid)
  | data
  | deregister (requestTopic : String × ℕ) (uuid : UUID)
deriving DecidableEq

/-- Where the main thread is, with its local variables, which it has read from the attributes
before. -/
inductive Phase
  /-- `mqtt_init`, before `connect` -/
  | connecting
  /-- `mqtt_init`, the loop around `subscribe` -/
  | subscribing
  /-- `mqtt_registration`, before and after the request -/
  | registering
  | awaitRegistration (count : ℕ)
  /-- `create_my_device_map`, and the call of `mqtt_device_registration` with the map -/
  | createDeviceMap
  | deviceRegistration (uuid : AgentUuid)
  /-- `mqtt_device_registration`: the loop around `subscribe`, before and after the request -/
  | subscribeDevices (topic : String) (responseTopic : List (String × ℕ)) (uuid : AgentUuid)
  | publishDevices (topic : String) (responseTopic : List (String × ℕ)) (uuid : AgentUuid)
  | awaitDevices (topic : String) (responseTopic : List (String × ℕ)) (uuid : AgentUuid) (count : ℕ)
  | sendData
  /-- `mqtt_deregistration`: the loop around `subscribe`, before and after the request -/
  | subscribeDeregistration (requestTopic : String × ℕ) (uuid : AgentUuid)
  | publishDeregistration (requestTopic : String × ℕ) (responseTopic : List (String × ℕ))
      (uuid : AgentUuid)
  | awaitDeregistration (responseTopic : List (String × ℕ)) (count : ℕ)
  | closing
  | exited (code : ℕ)
  /-- an exception has ended the program -/
  | raised
deriving DecidableEq

/-- An agent with its two threads, and the broker's side of its session. -/
structure AgentThreads where
  self : Handshake
  /-- what the callback has yet to assign, and last where it returns; empty between two callbacks -/
  pending : List Handshake
  phase : Phase
  connected : Bool
  /-- the subscriptions the broker has for the client -/
  session : List (String × ℕ)
  published : List AgentOutput
deriving DecidableEq

/-- The thread of the MQTT client is there: `loop_start` has been called, and the program is not
over. -/
def Phase.looping : Phase → Bool
  | connecting | subscribing | exited _ | raised => false
  | _ => true

/-- One turn of a polling loop: the flag is read, and after 300 more turns the agent gives up. -/
def Phase.poll (flag : Bool) (count : ℕ) (next : Phase) (wait : ℕ → Phase) : Phase :=
  if flag then next else if count + 1 > 300 then .exited 300 else wait (count + 1)

namespace AgentThreads

/-- An agent whose constructor has run, before it connects.  No callback is running. -/
def start (myAgent_uid : String) : AgentThreads :=
  ⟨.start myAgent_uid, [], .connecting, false, [], []⟩

/-- One turn of a loop around `subscribe`: with a connection the main thread goes on, and without
one it tries again. -/
def subscribe (x : AgentThreads) (topics : List (String × ℕ)) (next retry : Phase) : AgentThreads :=
  if x.connected then { x with session := x.session ++ topics, phase := next }
  else { x with phase := retry }

/-- The main thread publishes, and goes on; whether the broker gets the message does not show
here. -/
def publish (x : AgentThreads) (output : AgentOutput) (next : Phase) : AgentThreads :=
  { x with published := x.published ++ [output], phase := next }

/-- The call of `mqtt_deregistration` in `signal_handler` and in `mqtt_send_triplet_batch`; without
a uuid there is no request topic. -/
def mqttDeregistration (x : AgentThreads) : AgentThreads :=
  match x.self.myAgent_deregistration_request_topic with
  | [] => { x with phase := .raised }
  | requestTopic :: _ =>
      { x with phase := .subscribeDeregistration requestTopic x.self.myAgent_uuid }

/-- One step of the main thread.  `subscribe` raises on an empty list, and so does the encoder on a
uuid that is none. -/
def main (x : AgentThreads) : AgentThreads :=
  match x.phase with
  | .connecting => { x with connected := true, phase := .subscribing }
  | .subscribing =>
      x.subscribe x.self.myAgent_registration_response_topic .registering .subscribing
  | .registering => x.publish .register (.awaitRegistration 0)
  | .awaitRegistration count =>
      { x with
        phase := .poll x.self.myMQTTregistered count .createDeviceMap .awaitRegistration }
  | .createDeviceMap => { x with phase := .deviceRegistration x.self.myAgent_uuid }
  | .deviceRegistration uuid =>
      match x.self.myDevice_registration_request_topic with
      | none => { x with phase := .raised }
      | some topic =>
          let responseTopic := x.self.myDevice_registration_response_topic
          if responseTopic = [] then { x with phase := .raised }
          else x.subscribe responseTopic (.publishDevices topic responseTopic uuid)
            (.subscribeDevices topic responseTopic uuid)
  | .subscribeDevices topic responseTopic uuid =>
      x.subscribe responseTopic (.publishDevices topic responseTopic uuid)
        (.subscribeDevices topic responseTopic uuid)
  | .publishDevices topic responseTopic uuid =>
      x.publish (.devices topic uuid) (.awaitDevices topic responseTopic uuid 0)
  | .awaitDevices topic responseTopic uuid count =>
      { x with
        phase := .poll x.self.myDeviceRegistered count .sendData
          (.awaitDevices topic responseTopic uuid) }
  | .sendData => x.publish .data .sendData
  | .subscribeDeregistration requestTopic uuid =>
      let responseTopic := x.self.myAgent_deregistration_response_topic
      if responseTopic = [] then { x with phase := .raised }
      else x.subscribe responseTopic (.publishDeregistration requestTopic responseTopic uuid)
        (.subscribeDeregistration requestTopic uuid)
  | .publishDeregistration requestTopic responseTopic uuid =>
      match uuid with
      | .uuid u => x.publish (.deregister requestTopic u) (.awaitDeregistration responseTopic 0)
      | _ => { x with phase := .raised }
  | .awaitDeregistration responseTopic count =>
      { x with
        phase := .poll x.self.myMQTTderegistered count .closing
          (.awaitDeregistration responseTopic) }
  | .closing => { x with phase := .exited 0 }
  | .exited _ | .raised => x

/-- The signal handler, or the send limit, takes the main thread out of what it was doing. -/
def interrupt (x : AgentThreads) : AgentThreads :=
  match x.phase with
  | .exited _ | .raised => x
  | _ => x.mqttDeregistration

end AgentThreads

/-! ## Runs -/

/-- What may happen to an agent: its main thread makes a step or is interrupted, its callback is
called or makes a step, and the connection is lost or found again, with or without the session. -/
inductive ThreadEvent (Bytes : Type)
  | main
  | interrupt
  /-- the MQTT client calls `mqtt_on_message` -/
  | message (m : Publication Bytes)
  /-- the callback goes on -/
  | statement
  | connectionLost
  /-- the MQTT client is connected, and calls `mqtt_on_connect` -/
  | connack (sessionPresent : Bool)
deriving DecidableEq

namespace AgentThreads

section
variable {Bytes : Type} (S : MessageSerializer Bytes) (myAgent_debug : Bool)

/-- One event.  The MQTT client hands over one message at a time, and none while it is not
connected. -/
def step (x : AgentThreads) : ThreadEvent Bytes → AgentThreads
  | .main => x.main
  | .interrupt => x.interrupt
  | .message m =>
      if x.phase.looping ∧ x.connected ∧ x.pending = [] then
        let r := (Handshake.mqttOnMessage S myAgent_debug m).run x.self
        { x with pending := r.states ++ [r.final] }
      else x
  | .statement =>
      match x.pending with
      | [] => x
      | t :: ts => if x.phase.looping then { x with self := t, pending := ts } else x
  | .connectionLost => { x with connected := false }
  | .connack sessionPresent =>
      if x.phase.looping ∧ x.pending = [] then
        { x with
          connected := true
          session := (if sessionPresent then x.session else [])
            ++ x.self.myAgent_registration_response_topic }
      else x

/-- A run of an agent: the events one after the other, from its start. -/
def run (myAgent_uid : String) (events : List (ThreadEvent Bytes)) : AgentThreads :=
  events.foldl (step S myAgent_debug) (start myAgent_uid)

variable {S myAgent_debug} {uid : String}

lemma run_append (events later : List (ThreadEvent Bytes)) :
    run S myAgent_debug uid (events ++ later)
      = later.foldl (step S myAgent_debug) (run S myAgent_debug uid events) :=
  List.foldl_append

lemma run_concat (events : List (ThreadEvent Bytes)) (e : ThreadEvent Bytes) :
    run S myAgent_debug uid (events ++ [e])
      = step S myAgent_debug (run S myAgent_debug uid events) e :=
  run_append events [e]

end

end AgentThreads

/-! ## What a callback does to the topics -/

namespace Handshake

/-- `t` comes after `a`: its topics are among `U`, and `userdata` has lost none. -/
structure After (a : Handshake) (U : List (String × ℕ)) (t : Handshake) : Prop where
  grows : a.myAgent_registration_response_topic ⊆ t.myAgent_registration_response_topic
  userdata : t.myAgent_registration_response_topic ⊆ U
  devices : t.myDevice_registration_response_topic ⊆ U
  deregistration : t.myAgent_deregistration_response_topic ⊆ U

section
variable {Bytes : Type} {S : MessageSerializer Bytes} {myAgent_debug : Bool} {a : Handshake}
  {U : List (String × ℕ)}

/-- The topics are left as they are. -/
lemma After.of_topics {t t' : Handshake} (h : After a U t)
    (huserdata : t'.myAgent_registration_response_topic = t.myAgent_registration_response_topic)
    (hdevices : t'.myDevice_registration_response_topic = t.myDevice_registration_response_topic)
    (hderegistration : t'.myAgent_deregistration_response_topic
      = t.myAgent_deregistration_response_topic) : After a U t' where
  grows := huserdata ▸ h.grows
  userdata := huserdata ▸ h.userdata
  devices := hdevices ▸ h.devices
  deregistration := hderegistration ▸ h.deregistration

/-- A callback ends with all topics of `U` in `userdata`, and with the attributes as `After` has
them. -/
def Ends (a : Handshake) (U : List (String × ℕ)) (t : Handshake) : Prop :=
  After a U t ∧ U ⊆ t.myAgent_registration_response_topic

/-- While the topics are set, `userdata` and the uuid are still those of `t`. -/
def Setting (a : Handshake) (U : List (String × ℕ)) (t t' : Handshake) : Prop :=
  After a U t' ∧ t'.myAgent_registration_response_topic = t.myAgent_registration_response_topic ∧
    t'.myAgent_uuid = t.myAgent_uuid

lemma Setting.assign {t t' : Handshake} {f : Handshake → Handshake} (h : Setting a U t (f t')) :
    Steps.Goes (After a U) (Steps.assign f) t' fun r s => r = some () ∧ Setting a U t s :=
  .assign h.1 ⟨rfl, h⟩

/-- The topics are set one by one, and when the last one is, all of `U` is in `userdata`. -/
lemma goes_setTopics {t : Handshake} (h : After a U t)
    (hU : U = t.myAgent_registration_response_topic
      ++ [("device-registration/" ++ t.myAgent_uuid.str ++ "/response", 2)]
      ++ [("agent-deregistration/" ++ t.myAgent_uuid.str ++ "/response", 2)]) :
    Steps.Goes (After a U) setTopics t fun _ t' => Ends a U t' := by
  have hdevice : ∀ s, Setting a U t s →
      ("device-registration/" ++ s.myAgent_uuid.str ++ "/response", 2) ∈ U := by
    rintro s ⟨-, -, hs⟩
    rw [hU, hs]
    simp
  have hderegistration : ∀ s, Setting a U t s →
      ("agent-deregistration/" ++ s.myAgent_uuid.str ++ "/response", 2) ∈ U := by
    rintro s ⟨-, -, hs⟩
    rw [hU, hs]
    simp
  have hnone : ([] : List (String × ℕ)) ⊆ U := List.nil_subset U
  have hset : ∀ s, Setting a U t s → ∀ request topic devices deregistration,
      devices ⊆ U → deregistration ⊆ U → Setting a U t { s with
        myAgent_deregistration_request_topic := request
        myDevice_registration_request_topic := topic
        myDevice_registration_response_topic := devices
        myAgent_deregistration_response_topic := deregistration } :=
    fun s hs _ _ _ _ h₁ h₂ => ⟨⟨hs.1.grows, hs.1.userdata, h₁, h₂⟩, hs.2⟩
  have happend : ∀ {l : List (String × ℕ)} {x}, l ⊆ U → x ∈ U → l ++ [x] ⊆ U :=
    fun hl hx => List.append_subset.mpr ⟨hl, by simpa using hx⟩
  have hstart : Setting a U t t := ⟨h, rfl, rfl⟩
  -- three topics are assigned by an empty list and an entry each, then the two entries of `userdata`
  refine .seq (Setting.assign (hset t hstart _ _ _ _ h.devices h.deregistration)) fun s hs => ?_
  refine .seq (Setting.assign (hset s hs _ _ _ _ hs.1.devices hs.1.deregistration)) fun s hs => ?_
  refine .seq (Setting.assign (hset s hs _ _ _ _ hs.1.devices hs.1.deregistration)) fun s hs => ?_
  refine .seq (Setting.assign (hset s hs _ _ _ _ hnone hs.1.deregistration)) fun s hs => ?_
  refine .seq (Setting.assign (hset s hs _ _ _ _ (happend hs.1.devices (hdevice s hs))
    hs.1.deregistration)) fun s hs => ?_
  refine .seq (Setting.assign (hset s hs _ _ _ _ hs.1.devices hnone)) fun s hs => ?_
  refine .seq (Setting.assign (hset s hs _ _ _ _ hs.1.devices
    (happend hs.1.deregistration (hderegistration s hs)))) fun s hs => ?_
  obtain ⟨hs, huserdata, huuid⟩ := hs
  refine .assign_bind ⟨?_, ?_, hs.devices, hs.deregistration⟩ (.assign ?last ⟨?last, ?_⟩)
  · exact List.Subset.trans hs.grows (List.subset_append_left _ _)
  · exact happend hs.userdata (hdevice s ⟨hs, huserdata, huuid⟩)
  · refine ⟨?_, ?_, hs.devices, hs.deregistration⟩
    · exact List.Subset.trans hs.grows (List.Subset.trans (List.subset_append_left _ _)
        (List.subset_append_left _ _))
    · exact happend (happend hs.userdata (hdevice s ⟨hs, huserdata, huuid⟩))
        (hderegistration s ⟨hs, huserdata, huuid⟩)
  · rw [hU, ← huserdata, ← huuid]
    exact List.Subset.refl _

lemma Ends.of_topics {t t' : Handshake} (h : Ends a U t)
    (huserdata : t'.myAgent_registration_response_topic = t.myAgent_registration_response_topic)
    (hdevices : t'.myDevice_registration_response_topic = t.myDevice_registration_response_topic)
    (hderegistration : t'.myAgent_deregistration_response_topic
      = t.myAgent_deregistration_response_topic) : Ends a U t' :=
  ⟨h.1.of_topics huserdata hdevices hderegistration, huserdata ▸ h.2⟩

/-- The uuid and the topics, which only the answer to a registration sets. -/
def topics (a : Handshake) : AgentUuid × List (String × ℕ) × List (String × ℕ) × Option String ×
    List (String × ℕ) × List (String × ℕ) :=
  (a.myAgent_uuid, a.myAgent_registration_response_topic, a.myAgent_deregistration_request_topic,
    a.myDevice_registration_request_topic, a.myDevice_registration_response_topic,
    a.myAgent_deregistration_response_topic)

section
variable {Q : Handshake → Prop} {payload : Bytes} {t : Handshake}

lemma goes_decodeMessage_bind (hQ : ∀ t t', t'.topics = t.topics → Q t → Q t') (h : Q t)
    {k : Message → Steps Handshake Unit}
    (hk : ∀ data t', Q t' → Steps.Goes Q (k data) t' fun _ s => Q s) :
    Steps.Goes Q (decodeMessage S payload >>= k) t fun _ s => Q s := by
  cases hdecode : S.decode payload with
  | none =>
      rw [decodeMessage_bind_none hdecode]
      exact .fail h
  | some data =>
      rw [decodeMessage_bind hdecode]
      have hdecoded : Q { t with decoded := t.decoded ++ [data] } := hQ t _ rfl h
      exact .assign_bind hdecoded (hk data _ hdecoded)

/-- The second branch leaves the topics alone, and so whatever is only about them. -/
lemma goes_onDeviceRegistrationResponse (hQ : ∀ t t', t'.topics = t.topics → Q t → Q t')
    (h : Q t) : Steps.Goes Q (onDeviceRegistrationResponse S payload) t fun _ s => Q s := by
  refine goes_decodeMessage_bind hQ h fun data t' h' => ?_
  have hflag : ∀ s, Q s → Steps.Goes Q (Steps.assign fun self : Handshake =>
      { self with myDeviceRegistered := true }) s fun _ s' => Q s' := fun s hs =>
    .assign (hQ s _ rfl hs) (hQ s _ rfl hs)
  rcases storeDeviceUuids_cases data t' with hrun | ⟨v, -, -, hrun⟩ | ⟨r, -, -, hrun⟩
  · refine .bind (R := fun r s => r = none ∧ Q s) ⟨?_, ?_⟩ (fun _ hs => hs.2) ?_
    · rw [Steps.Always, hrun]
      simp
    · rw [hrun]
      exact ⟨rfl, h'⟩
    · rintro _ _ ⟨hr, -⟩
      exact absurd hr (by simp)
  · refine .seq (R := Q) ⟨?_, ?_⟩ hflag
    · rw [Steps.Always, hrun]
      simp
    · rw [hrun]
      exact ⟨rfl, h'⟩
  · have hmap : Q { t' with myDeviceSensorUUIDsMap := r.deviceUuids } := hQ t' _ rfl h'
    refine .seq (R := Q) ⟨?_, ?_⟩ hflag
    · rw [Steps.Always, hrun]
      intro s hs
      rw [List.mem_singleton.mp hs]
      exact hmap
    · rw [hrun]
      exact ⟨rfl, hmap⟩

lemma goes_onDeregistrationResponse (hQ : ∀ t t', t'.topics = t.topics → Q t → Q t') (h : Q t) :
    Steps.Goes Q (onDeregistrationResponse S payload) t fun _ s => Q s := by
  have hflag : Q { t with myMQTTderegistered := true } := hQ t _ rfl h
  exact .assign_bind hflag (goes_decodeMessage_bind hQ hflag fun _ _ h' => .pure h')

/-- The answer to a registration: it raises and leaves the topics, or the uuid is set and the topics
after it. -/
lemma goes_onRegistrationResponse {P : Handshake → Prop}
    (hP : ∀ s, s.topics = a.topics → P s)
    (hraise : (∀ data, S.decode payload = some data → data.uuid? = none) →
      ∀ s, s.topics = a.topics → Q s)
    (hset : ∀ data v, S.decode payload = some data → data.uuid? = some v →
      ∀ s, s.topics = a.topics → Steps.Goes P
        ((Steps.assign fun self => { self with myAgent_uuid := v }) >>= fun _ => setTopics) s
        fun _ s' => Q s') :
    Steps.Goes P (onRegistrationResponse S myAgent_debug payload) a fun _ s => Q s := by
  cases hdecode : S.decode payload with
  | none =>
      rw [onRegistrationResponse, decodeMessage_bind_none hdecode]
      exact .fail (hraise (by simp [hdecode]) a rfl)
  | some data =>
      rw [onRegistrationResponse, decodeMessage_bind hdecode]
      refine .assign_bind (hP _ rfl) ?_
      cases huuid : data.uuid? with
      | none =>
          -- the flag is set or not, and the callback raises
          have hQ : ∀ s, s.topics = a.topics → Q s :=
            hraise fun data' hdata' => by rwa [← Option.some.inj (hdecode.symm.trans hdata')]
          cases myAgent_debug with
          | false =>
              have hprint : printUuid false data = pure () := rfl
              rw [hprint, Steps.pure_bind]
              exact .assign_bind (hP _ rfl) (.fail (hQ _ rfl))
          | true =>
              rw [printUuid, if_pos rfl, huuid]
              exact .fail (hQ _ rfl)
      | some v =>
          have hprint : printUuid myAgent_debug data = pure () := by
            cases myAgent_debug with
            | false => rfl
            | true => rw [printUuid, if_pos rfl, huuid]; rfl
          rw [hprint, Steps.pure_bind]
          refine .assign_bind (hP _ rfl) ?_
          rw [Steps.ofOption_some, Steps.pure_bind]
          exact hset data v hdecode huuid _ rfl

/-- **What a callback goes through**, for a `Q` about the topics: it is enough to look at the
answer to a registration. -/
theorem goes_of_registration {P : Handshake → Prop} (hQ : ∀ t t', t'.topics = t.topics → Q t → Q t')
    (hP : ∀ t, Q t → P t) {m : Publication Bytes}
    (h : firstTopic a.myAgent_registration_response_topic ≠ some m.topic → Q a)
    (hregistration : firstTopic a.myAgent_registration_response_topic = some m.topic →
      Steps.Goes P (onRegistrationResponse S myAgent_debug m.payload) a fun _ t => Q t) :
    Steps.Goes P (mqttOnMessage S myAgent_debug m) a fun _ t => Q t := by
  rw [mqttOnMessage]
  refine .get_bind ?_
  cases hfirst : firstTopic a.myAgent_registration_response_topic with
  | none => exact .fail (h (by simp [hfirst]))
  | some registration =>
      rw [Steps.ofOption_some, Steps.pure_bind]
      refine .ite (fun htopic => hregistration (htopic ▸ hfirst)) fun hother => ?_
      have h : Q a := h fun hsame => hother (Option.some.inj (hfirst.symm.trans hsame)).symm
      cases firstTopic a.myDevice_registration_response_topic with
      | none => exact .fail h
      | some device =>
          refine .ite (fun _ => (goes_onDeviceRegistrationResponse hQ h).weaken hP) fun _ => ?_
          cases firstTopic a.myAgent_deregistration_response_topic with
          | none => exact .fail h
          | some deregistration =>
              exact .ite (fun _ => (goes_onDeregistrationResponse hQ h).weaken hP) fun _ => .pure h

end

/-- **The topics of a callback**: nothing is taken out of `userdata`, and when the callback ends all
topics are in `userdata`. -/
theorem goes_mqttOnMessage (h : Ends a a.myAgent_registration_response_topic a)
    (m : Publication Bytes) : ∃ U, Steps.Goes (After a U) (mqttOnMessage S myAgent_debug m) a
      fun _ t => Ends a U t := by
  have hframe : ∀ U t t', t'.topics = t.topics → Ends a U t → Ends a U t' := by
    intro U t t' htopics ht
    simp only [topics, Prod.mk.injEq] at htopics
    obtain ⟨-, huserdata, -, -, hdevices, hderegistration⟩ := htopics
    exact ht.of_topics huserdata hdevices hderegistration
  have hkeep := fun t ht => hframe a.myAgent_registration_response_topic a t ht h
  by_cases htopic : firstTopic a.myAgent_registration_response_topic = some m.topic ∧
    ∃ data v, S.decode m.payload = some data ∧ data.uuid? = some v
  · -- the two topics of the uuid will be added
    obtain ⟨hfirst, data, v, hdecode, huuid⟩ := htopic
    obtain ⟨U, hU⟩ : ∃ U, U = a.myAgent_registration_response_topic
      ++ [("device-registration/" ++ v.str ++ "/response", 2)]
      ++ [("agent-deregistration/" ++ v.str ++ "/response", 2)] := ⟨_, rfl⟩
    have hsub : a.myAgent_registration_response_topic ⊆ U := by
      rw [hU, List.append_assoc]
      exact List.subset_append_left _ _
    have hafter : ∀ t, t.topics = a.topics → After a U t := fun t ht =>
      ⟨(hkeep t ht).1.grows, List.Subset.trans (hkeep t ht).1.userdata hsub,
        List.Subset.trans (hkeep t ht).1.devices hsub,
        List.Subset.trans (hkeep t ht).1.deregistration hsub⟩
    refine ⟨U, goes_of_registration (hframe _) (fun _ ht => ht.1) (fun hno => absurd hfirst hno)
      fun _ => goes_onRegistrationResponse hafter ?_ ?_⟩
    · intro hno
      exact absurd (huuid.symm.trans (hno data hdecode)) (by simp)
    · intro data' v' hdecode' huuid' t ht
      obtain rfl := Option.some.inj (hdecode.symm.trans hdecode')
      obtain rfl := Option.some.inj (huuid.symm.trans huuid')
      have huserdata : t.myAgent_registration_response_topic
          = a.myAgent_registration_response_topic := (Prod.mk.inj (Prod.mk.inj ht).2).1
      have hset : After a U { t with myAgent_uuid := v } :=
        (hafter t ht).of_topics rfl rfl rfl
      exact .assign_bind hset (goes_setTopics hset (by rw [hU, huserdata]))
  · refine ⟨_, goes_of_registration (hframe _) (fun _ ht => ht.1) (fun _ => h) fun hfirst => ?_⟩
    refine goes_onRegistrationResponse (fun t ht => (hkeep t ht).1) (fun _ => hkeep) ?_
    intro data v hdecode huuid
    exact absurd ⟨hfirst, data, v, hdecode, huuid⟩ htopic

end

end Handshake

/-! ## The agent listens -/

/-- The main thread has asked, or is about to, and waits for the answer. -/
def Phase.waits : Phase → Bool
  | registering | awaitRegistration _ | publishDevices .. | awaitDevices ..
  | publishDeregistration .. | awaitDeregistration .. => true
  | _ => false

/-- The topics that the answer comes on, for which the main thread waits or is about to. -/
def Phase.responseTopics (myAgent_uid : String) : Phase → List (String × ℕ)
  | registering | awaitRegistration _ => [("agent-registration/" ++ myAgent_uid ++ "/response", 2)]
  | subscribeDevices _ responseTopic _ | publishDevices _ responseTopic _
  | awaitDevices _ responseTopic _ _ | publishDeregistration _ responseTopic _
  | awaitDeregistration responseTopic _ => responseTopic
  | _ => []

namespace AgentThreads

/-- What the attributes will be when the callback has returned. -/
def settled (x : AgentThreads) : Handshake := x.pending.getLast?.getD x.self

lemma settled_at_rest {x : AgentThreads} (h : x.pending = []) : x.settled = x.self := by
  rw [settled, h]
  rfl

/-- A callback that goes on will end as before. -/
lemma settled_statement {x : AgentThreads} {t : Handshake} {ts : List Handshake}
    (h : x.pending = t :: ts) : settled { x with self := t, pending := ts } = x.settled := by
  rw [settled, settled, h]
  cases ts with
  | nil => rfl
  | cons t' ts =>
      rw [List.getLast?_cons_cons, List.getLast?_eq_some_getLast (List.cons_ne_nil t' ts)]
      rfl

/-- `U` has all topics that the attributes hold, or will hold, or that the main thread has taken
from them; and when the callback has returned they are all in `userdata`. -/
structure Covers (uid : String) (U : List (String × ℕ)) (x : AgentThreads) : Prop where
  own : ∀ t ∈ x.self :: x.pending,
    ("agent-registration/" ++ uid ++ "/response", 2) ∈ t.myAgent_registration_response_topic
  devices : ∀ t ∈ x.self :: x.pending, t.myDevice_registration_response_topic ⊆ U
  deregistration : ∀ t ∈ x.self :: x.pending, t.myAgent_deregistration_response_topic ⊆ U
  userdata : ∀ t ∈ x.self :: x.pending, t.myAgent_registration_response_topic ⊆ U
  settled : U ⊆ x.settled.myAgent_registration_response_topic
  held : x.phase.responseTopics uid ⊆ U

/-- The agent is subscribed to what it waits for, and it waits for something. -/
structure Listening (uid : String) (x : AgentThreads) : Prop where
  asked : x.phase.waits = true ∨ (∃ topic R u, x.phase = .subscribeDevices topic R u) →
    x.phase.responseTopics uid ≠ []
  subscribed : x.phase.waits = true → x.connected = true → x.phase.responseTopics uid ⊆ x.session

lemma poll_cases (flag : Bool) (count : ℕ) (next : Phase) (wait : ℕ → Phase) :
    Phase.poll flag count next wait = next ∨ Phase.poll flag count next wait = .exited 300 ∨
      count + 1 ≤ 300 ∧ Phase.poll flag count next wait = wait (count + 1) := by
  rw [Phase.poll]
  split_ifs with hflag hcount
  · exact Or.inl rfl
  · exact Or.inr (Or.inl rfl)
  · exact Or.inr (Or.inr ⟨by omega, rfl⟩)

/-- Either the broker has the topics and the main thread goes on, or it tries again. -/
lemma subscribe_cases (x : AgentThreads) (topics : List (String × ℕ)) (next retry : Phase) :
    x.subscribe topics next retry = { x with session := x.session ++ topics, phase := next } ∨
      x.subscribe topics next retry = { x with phase := retry } := by
  rw [subscribe]
  split_ifs
  · exact Or.inl rfl
  · exact Or.inr rfl

section
variable {Bytes : Type} {S : MessageSerializer Bytes} {myAgent_debug : Bool} {uid : String}
  {U : List (String × ℕ)} {x y : AgentThreads}

lemma Covers.of_phase (h : Covers uid U x) (hself : y.self = x.self)
    (hpending : y.pending = x.pending) (hheld : y.phase.responseTopics uid ⊆ U) :
    Covers uid U y := by
  have hsettled : y.settled = x.settled := by
    rw [AgentThreads.settled, AgentThreads.settled, hself, hpending]
  constructor
  · rw [hself, hpending]; exact h.own
  · rw [hself, hpending]; exact h.devices
  · rw [hself, hpending]; exact h.deregistration
  · rw [hself, hpending]; exact h.userdata
  · rw [hsettled]; exact h.settled
  · exact hheld

/-- A phase in which nothing is asked. -/
lemma Listening.of_idle (hwaits : y.phase.waits = false)
    (hsubscribe : ∀ topic R u, y.phase ≠ .subscribeDevices topic R u) : Listening uid y where
  asked := by
    rintro (hw | ⟨topic, R, u, hphase⟩)
    · exact absurd (hwaits.symm.trans hw) (by simp)
    · exact absurd hphase (hsubscribe topic R u)
  subscribed hw := absurd (hwaits.symm.trans hw) (by simp)

/-- The wait goes on. -/
lemma Listening.of_topics (h : Listening uid x) (hx : x.phase.waits = true)
    (htopics : y.phase.responseTopics uid = x.phase.responseTopics uid)
    (hconnected : y.connected = x.connected) (hsession : y.session = x.session) :
    Listening uid y where
  asked _ := htopics ▸ h.asked (Or.inl hx)
  subscribed _ hc := by
    rw [htopics, hsession]
    exact h.subscribed hx (hconnected ▸ hc)

/-- A `subscribe` has come to its end. -/
lemma Listening.of_subscribed (hasked : y.phase.responseTopics uid ≠ [])
    (hsession : y.phase.responseTopics uid ⊆ y.session) : Listening uid y :=
  ⟨fun _ => hasked, fun _ _ => hsession⟩

/-- The state with another phase: nothing is asked in it. -/
lemma idle (h : Covers uid U x) {phase : Phase} (hself : y.self = x.self)
    (hpending : y.pending = x.pending) (hphase : y.phase = phase)
    (hwaits : phase.waits = false) (htopics : phase.responseTopics uid = [])
    (hsubscribe : ∀ topic R u, phase ≠ .subscribeDevices topic R u) :
    Covers uid U y ∧ Listening uid y := by
  subst hphase
  exact ⟨h.of_phase hself hpending (by simp [htopics]), .of_idle hwaits hsubscribe⟩

lemma keeps_poll (h : Covers uid U x) (hl : Listening uid x) (flag : Bool) (count : ℕ)
    {next : Phase} {wait : ℕ → Phase} (hx : x.phase.waits = true)
    (hnext : next.waits = false) (hnextTopics : next.responseTopics uid = [])
    (hsubscribe : ∀ topic R u, next ≠ .subscribeDevices topic R u)
    (hwait : (wait (count + 1)).responseTopics uid = x.phase.responseTopics uid) :
    Covers uid U { x with phase := .poll flag count next wait } ∧
      Listening uid { x with phase := .poll flag count next wait } := by
  rcases poll_cases flag count next wait with hp | hp | ⟨-, hp⟩
  · exact idle h rfl rfl hp hnext hnextTopics hsubscribe
  · exact idle h rfl rfl hp rfl rfl (by simp)
  · rw [hp]
    exact ⟨h.of_phase rfl rfl (hwait ▸ h.held), hl.of_topics hx hwait rfl rfl⟩

lemma keeps_publish (h : Covers uid U x) (hl : Listening uid x) (output : AgentOutput) {next : Phase}
    (hx : x.phase.waits = true)
    (hnext : next.responseTopics uid = x.phase.responseTopics uid) :
    Covers uid U (x.publish output next) ∧ Listening uid (x.publish output next) :=
  ⟨h.of_phase rfl rfl fun _ ht => h.held (hnext ▸ ht), hl.of_topics hx hnext rfl rfl⟩

/-- One turn of a loop around `subscribe` keeps the coverage: what is waited for next has been
subscribed to. -/
lemma keeps_subscribe (h : Covers uid U x) {topics : List (String × ℕ)} {next retry : Phase}
    (hnext : next.responseTopics uid ⊆ topics) (hasked : next.responseTopics uid ≠ [])
    (hU : topics ⊆ U) (hretry : retry.responseTopics uid ⊆ U) (hwaits : retry.waits = false)
    (hsubscribe : ∀ topic R u, retry = .subscribeDevices topic R u → R ≠ []) :
    Covers uid U (x.subscribe topics next retry) ∧
      Listening uid (x.subscribe topics next retry) := by
  rcases subscribe_cases x topics next retry with hs | hs
  · rw [hs]
    exact ⟨h.of_phase rfl rfl (List.Subset.trans hnext hU),
      .of_subscribed hasked (List.Subset.trans hnext (List.subset_append_right _ _))⟩
  · rw [hs]
    refine ⟨h.of_phase rfl rfl hretry, ⟨?_, fun hw => absurd (hwaits.symm.trans hw) (by simp)⟩⟩
    rintro (hw | ⟨topic, R, u, hphase⟩)
    · exact absurd (hwaits.symm.trans hw) (by simp)
    · obtain rfl : retry = .subscribeDevices topic R u := hphase
      exact hsubscribe topic R u rfl

lemma keeps_mqttDeregistration (h : Covers uid U x) :
    Covers uid U x.mqttDeregistration ∧ Listening uid x.mqttDeregistration := by
  rw [mqttDeregistration]
  cases x.self.myAgent_deregistration_request_topic with
  | nil => exact idle h rfl rfl rfl rfl rfl (by simp)
  | cons requestTopic rest => exact idle h rfl rfl rfl rfl rfl (by simp)

/-- **The main thread** waits only where it has subscribed, and the topics it will wait on are
covered. -/
theorem keeps_main (h : Covers uid U x) (hl : Listening uid x) :
    Covers uid U x.main ∧ Listening uid x.main := by
  have hself : x.self ∈ x.self :: x.pending := List.mem_cons_self
  rw [main]
  cases hphase : x.phase with
  | connecting => exact idle h rfl rfl rfl rfl rfl (by simp)
  | subscribing =>
      refine keeps_subscribe h ?_ (by simp [Phase.responseTopics]) (h.userdata _ hself)
        (by simp [Phase.responseTopics]) rfl (by simp)
      simpa [Phase.responseTopics] using h.own _ hself
  | registering =>
      exact keeps_publish h hl _ (by rw [hphase]; rfl) (by rw [hphase]; rfl)
  | awaitRegistration count =>
      exact keeps_poll h hl _ _ (by rw [hphase]; rfl) rfl rfl (by simp) (by rw [hphase]; rfl)
  | createDeviceMap => exact idle h rfl rfl rfl rfl rfl (by simp)
  | deviceRegistration uuid =>
      cases x.self.myDevice_registration_request_topic with
      | none => exact idle h rfl rfl rfl rfl rfl (by simp)
      | some topic =>
          dsimp only
          split_ifs with hempty
          · exact idle h rfl rfl rfl rfl rfl (by simp)
          · refine keeps_subscribe h (List.Subset.refl _) hempty (h.devices _ hself)
              (h.devices _ hself) rfl ?_
            rintro _ _ _ ⟨⟩
            exact hempty
  | subscribeDevices topic responseTopic uuid =>
      have hheld : responseTopic ⊆ U := by
        have := h.held
        rwa [hphase] at this
      have hasked : responseTopic ≠ [] := by
        have := hl.asked (Or.inr ⟨topic, responseTopic, uuid, hphase⟩)
        rwa [hphase] at this
      refine keeps_subscribe h (List.Subset.refl _) hasked hheld hheld rfl ?_
      rintro _ _ _ ⟨⟩
      exact hasked
  | publishDevices topic responseTopic uuid =>
      exact keeps_publish h hl _ (by rw [hphase]; rfl) (by rw [hphase]; rfl)
  | awaitDevices topic responseTopic uuid count =>
      exact keeps_poll h hl _ _ (by rw [hphase]; rfl) rfl rfl (by simp) (by rw [hphase]; rfl)
  | sendData =>
      have hsend : (x.publish .data .sendData).phase = .sendData := rfl
      exact idle h rfl rfl hsend rfl rfl (by simp)
  | subscribeDeregistration requestTopic uuid =>
      dsimp only
      split_ifs with hempty
      · exact idle h rfl rfl rfl rfl rfl (by simp)
      · exact keeps_subscribe h (List.Subset.refl _) hempty (h.deregistration _ hself)
          (by simp [Phase.responseTopics]) rfl (by simp)
  | publishDeregistration requestTopic responseTopic uuid =>
      cases uuid with
      | uuid u =>
          exact keeps_publish h hl _ (by rw [hphase]; rfl) (by rw [hphase]; rfl)
      | minusOne => exact idle h rfl rfl rfl rfl rfl (by simp)
      | null => exact idle h rfl rfl rfl rfl rfl (by simp)
  | awaitDeregistration responseTopic count =>
      exact keeps_poll h hl _ _ (by rw [hphase]; rfl) rfl rfl (by simp) (by rw [hphase]; rfl)
  | closing => exact idle h rfl rfl rfl rfl rfl (by simp)
  | exited code => exact ⟨h, hl⟩
  | raised => exact ⟨h, hl⟩

lemma keeps_interrupt (h : Covers uid U x) (hl : Listening uid x) :
    Covers uid U x.interrupt ∧ Listening uid x.interrupt := by
  rw [interrupt]
  split
  · exact ⟨h, hl⟩
  · exact ⟨h, hl⟩
  · exact keeps_mqttDeregistration h

/-- A callback begins. -/
lemma Covers.message (h : Covers uid U x) (hpending : x.pending = []) (m : Publication Bytes) :
    ∃ U, Covers uid U { x with
      pending := ((Handshake.mqttOnMessage S myAgent_debug m).run x.self).states
        ++ [((Handshake.mqttOnMessage S myAgent_debug m).run x.self).final] } := by
  have hself : x.self ∈ x.self :: x.pending := List.mem_cons_self
  have hall : U ⊆ x.self.myAgent_registration_response_topic :=
    settled_at_rest hpending ▸ h.settled
  have hends : x.self.Ends x.self.myAgent_registration_response_topic x.self :=
    ⟨⟨List.Subset.refl _, List.Subset.refl _, List.Subset.trans (h.devices _ hself) hall,
      List.Subset.trans (h.deregistration _ hself) hall⟩, List.Subset.refl _⟩
  obtain ⟨U', hgoes⟩ := @Handshake.goes_mqttOnMessage _ S myAgent_debug x.self hends m
  have hafter : ∀ t ∈ ((Handshake.mqttOnMessage S myAgent_debug m).run x.self).states
      ++ [((Handshake.mqttOnMessage S myAgent_debug m).run x.self).final], x.self.After U' t := by
    intro t ht
    rcases List.mem_append.mp ht with ht | ht
    · exact hgoes.always t ht
    · exact List.mem_singleton.mp ht ▸ hgoes.ends.1
  have hself' : x.self.myAgent_registration_response_topic ⊆ U' :=
    List.Subset.trans hgoes.ends.1.grows hgoes.ends.1.userdata
  refine ⟨U', List.forall_mem_cons.mpr ⟨h.own _ hself, fun t ht => (hafter t ht).grows
    (h.own _ hself)⟩, List.forall_mem_cons.mpr ⟨?_, fun t ht => (hafter t ht).devices⟩,
    List.forall_mem_cons.mpr ⟨?_, fun t ht => (hafter t ht).deregistration⟩,
    List.forall_mem_cons.mpr ⟨hself', fun t ht => (hafter t ht).userdata⟩, ?_, ?_⟩
  · exact List.Subset.trans hends.1.devices hself'
  · exact List.Subset.trans hends.1.deregistration hself'
  · rw [AgentThreads.settled]
    simpa using hgoes.ends.2
  · exact List.Subset.trans h.held (List.Subset.trans hall hself')

/-- A callback goes on. -/
lemma Covers.statement {t : Handshake} {ts : List Handshake} (h : Covers uid U x)
    (hpending : x.pending = t :: ts) : Covers uid U { x with self := t, pending := ts } := by
  have hsub : ∀ s ∈ t :: ts, s ∈ x.self :: x.pending := fun s hs =>
    List.mem_cons_of_mem _ (hpending ▸ hs)
  refine ⟨fun s hs => h.own s (hsub s hs), fun s hs => h.devices s (hsub s hs),
    fun s hs => h.deregistration s (hsub s hs), fun s hs => h.userdata s (hsub s hs), ?_, h.held⟩
  rw [settled_statement hpending]
  exact h.settled

/-- **One step** keeps the two halves of the invariant: what will be in `userdata`, and what the
broker has. -/
theorem keeps_step (h : ∃ U, Covers uid U x) (hl : Listening uid x) (e : ThreadEvent Bytes) :
    (∃ U, Covers uid U (x.step S myAgent_debug e)) ∧
      Listening uid (x.step S myAgent_debug e) := by
  obtain ⟨U, h⟩ := h
  have hstay : (∃ U, Covers uid U x) ∧ Listening uid x := ⟨⟨U, h⟩, hl⟩
  cases e with
  | main => exact ⟨⟨U, (keeps_main h hl).1⟩, (keeps_main h hl).2⟩
  | interrupt => exact ⟨⟨U, (keeps_interrupt h hl).1⟩, (keeps_interrupt h hl).2⟩
  | message m =>
      rw [step]
      split_ifs with hruns
      · exact ⟨h.message hruns.2.2 m, hl.asked, hl.subscribed⟩
      · exact hstay
  | statement =>
      rw [step]
      split
      · exact hstay
      · rename_i t ts hpending
        split_ifs
        · exact ⟨⟨U, h.statement hpending⟩, hl.asked, hl.subscribed⟩
        · exact hstay
  | connectionLost =>
      exact ⟨⟨U, h.of_phase rfl rfl h.held⟩, hl.asked, fun _ hc => absurd hc (by simp [step])⟩
  | connack sessionPresent =>
      rw [step]
      by_cases hruns : x.phase.looping = true ∧ x.pending = []
      · rw [if_pos hruns]
        refine ⟨⟨U, h.of_phase rfl rfl h.held⟩, hl.asked, fun _ _ => ?_⟩
        -- no callback is running, so what is waited for is in `userdata`
        have hall : U ⊆ x.self.myAgent_registration_response_topic :=
          settled_at_rest hruns.2 ▸ h.settled
        exact List.Subset.trans h.held
          (List.Subset.trans hall (List.subset_append_right _ _))
      · rw [if_neg hruns]
        exact hstay

lemma covers_start (uid : String) :
    Covers uid [("agent-registration/" ++ uid ++ "/response", 2)] (start uid) := by
  constructor <;> simp [start, Handshake.start, AgentThreads.settled, Phase.responseTopics]

lemma listening_start (uid : String) : Listening uid (start uid) :=
  .of_idle rfl (by simp [start])

variable (S myAgent_debug uid) in
lemma keeps_run (events : List (ThreadEvent Bytes)) :
    (∃ U, Covers uid U (run S myAgent_debug uid events)) ∧
      Listening uid (run S myAgent_debug uid events) := by
  induction events using List.reverseRecOn with
  | nil => exact ⟨⟨_, covers_start uid⟩, listening_start uid⟩
  | append_singleton events e ih =>
      rw [run_concat]
      exact keeps_step ih.1 ih.2 e

end

end AgentThreads

/-- **The agent can hear the answer it waits for.**  Whatever the callback, the broker and a signal
do in between: while the main thread waits, it waits for an answer on some topic, and is subscribed
to this topic whenever the client is connected, also after the broker has lost the session. -/
theorem listening_run {Bytes : Type} (S : MessageSerializer Bytes) (myAgent_debug : Bool)
    (myAgent_uid : String) (events : List (ThreadEvent Bytes))
    (hwaits : (AgentThreads.run S myAgent_debug myAgent_uid events).phase.waits = true) :
    let x := AgentThreads.run S myAgent_debug myAgent_uid events
    x.phase.responseTopics myAgent_uid ≠ [] ∧
      (x.connected = true → x.phase.responseTopics myAgent_uid ⊆ x.session) := by
  have hl := (AgentThreads.keeps_run S myAgent_debug myAgent_uid events).2
  exact ⟨hl.asked (Or.inl hwaits), hl.subscribed hwaits⟩

/-- The agent is registered and asks for its devices; then the broker is started again. -/
def brokerRestarted : List (ThreadEvent Message) :=
  List.replicate 3 .main
    ++ [.message ⟨"agent-registration/node11/response",
      .registerResponse ⟨"node11", true, "Registration succeed", ⟨7⟩, ∅⟩⟩]
    ++ List.replicate 13 .statement ++ List.replicate 4 .main
    ++ [.connectionLost, .connack false]

/-- An agent that waits for its devices when the broker is started again is subscribed again to
their topic. -/
theorem listening_run_broker_restarted :
    let x := AgentThreads.run structuralSerializer false "node11" brokerRestarted
    x.phase.responseTopics "node11" ≠ [] ∧
      (x.connected = true → x.phase.responseTopics "node11" ⊆ x.session) :=
  listening_run structuralSerializer false "node11" brokerRestarted (by decide)

end KrakenMare
