import KrakenMare.Agent.Identity
import KrakenMare.Framework.Listeners

/-!
# Topics on both sides

The framework makes its topics in `impl/MqttUtils.java` from the words in `config.properties`; the
Python agents write theirs out, in the constructor where they hold the uid and in `mqtt_on_message`
where they hold the uuid the framework has given them.  The simulator and the Redfish agent have
the same texts.  Nothing but these texts connects the two sides, so they have to agree.

All topics are of one form: a word, an identity, and `request` or `response` (`topicOf`).  The
framework subscribes to the three words with `+` for the identity.

* `matches_topicFilter_iff` — which listener of the framework gets what is published on a topic:
  the one with its word, if it is a request.
* `ResponseKind.topic_injective` — responses of different kinds or to different ids are on
  different topics.
* `topics_agree` — **every request reaches the one listener that expects it, every response is
  published where the agent waits for it, and no response comes back to the framework or reaches
  another agent.**

A uid must be one level of a topic and no wildcard for this, which it is when the host has a proper
network name; a UUID always is.
-/

namespace KrakenMare

open Lib

/-! ## The framework -/

/-- `MqttUtils.getRegistrationRequestTopic`, the filter for registrations. -/
def getRegistrationRequestTopic : String := "agent-registration" ++ "/+/request"

/-- `MqttUtils.getSensorListRequestTopic`, the filter for device lists. -/
def getSensorListRequestTopic : String := "device-registration" ++ "/+/request"

/-- `MqttUtils.getDeregistrationRequestTopic`, the filter for deregistrations. -/
def getDeregistrationRequestTopic : String := "agent-deregistration" ++ "/+/request"

/-- The listeners that `startFramework` registers, each for one filter. -/
inductive FrameworkListener
  | MqttRegistrationListener
  | MqttDeviceListListener
  | MqttDeregistrationListener
deriving DecidableEq

namespace FrameworkListener

/-- The filter that `registerNew` adds a listener for, with a wildcard where the identity stands. -/
def topicFilter : FrameworkListener → String
  | MqttRegistrationListener => getRegistrationRequestTopic
  | MqttDeviceListListener => getSensorListRequestTopic
  | MqttDeregistrationListener => getDeregistrationRequestTopic

/-- A payload of the type `P` that the listener extends `FrameworkMqttListener` with. -/
def Expects : FrameworkListener → Message → Prop
  | MqttRegistrationListener, m => ∃ payload, m = .registerRequest payload
  | MqttDeviceListListener, m => ∃ payload, m = .deviceList payload
  | MqttDeregistrationListener, m => ∃ payload, m = .deregisterRequest payload

/-- The listener's word in `config.properties`, with which its topics begin. -/
def word : FrameworkListener → String
  | MqttRegistrationListener => "agent-registration"
  | MqttDeviceListListener => "device-registration"
  | MqttDeregistrationListener => "agent-deregistration"

end FrameworkListener

/-- The kind of a response, and the id that goes into its topic. -/
inductive ResponseKind
  | registration (uid : String)
  | deviceList (uuid : UUID)
  | deregistration (uuid : UUID)
deriving DecidableEq

/-- The topic on which the framework publishes a response, made from what is in the request. -/
def ResponseKind.topic : ResponseKind → String
  | registration uid => getRegistrationResponseTopic uid
  | deviceList uuid => getSensorListResponseTopic uuid
  | deregistration uuid => getDeregistrationResponseTopic uuid

/-! ## The agents -/

/-- What an agent publishes to the framework: on which topic, and which record. -/
structure AgentRequest where
  topic : String
  payload : Message
deriving DecidableEq

/-- Set in the constructor, from the uid; the other request topics are set from the uuid. -/
def myAgent_registration_request_topic (myAgent_uid : String) : List (String × ℕ) :=
  [("agent-registration/" ++ myAgent_uid ++ "/request", 2)]

/-- What `mqtt_registration` publishes: the registration data as it is. -/
def publishRegistration (requestTopic : String × ℕ) (RegistrationData : RegisterRequest) :
    AgentRequest :=
  ⟨requestTopic.1, .registerRequest RegistrationData⟩

/-- What `mqtt_device_registration` publishes: the device map as it is. -/
def publishDeviceRegistration (deviceMQTTtopic : String) (deviceMap : DeviceList) : AgentRequest :=
  ⟨deviceMQTTtopic, .deviceList deviceMap⟩

/-- What `mqtt_deregistration` publishes: a record with the uuid alone. -/
def publishDeregistration (requestTopic : String × ℕ) (uuid : UUID) : AgentRequest :=
  ⟨requestTopic.1, .deregisterRequest ⟨uuid⟩⟩

/-- The requests of an agent, made as `run` and `signal_handler` make them. -/
inductive Requests (myAgent_uid : String) (self : Handshake) : AgentRequest → Prop
  | registration {requestTopic : String × ℕ} (RegistrationData : RegisterRequest)
      (h : (myAgent_registration_request_topic myAgent_uid).head? = some requestTopic) :
      Requests myAgent_uid self (publishRegistration requestTopic RegistrationData)
  | devices {topic : String} (deviceMap : DeviceList)
      (h : self.myDevice_registration_request_topic = some topic) :
      Requests myAgent_uid self (publishDeviceRegistration topic deviceMap)
  | deregistration {requestTopic : String × ℕ} {uuid : UUID}
      (h : self.myAgent_deregistration_request_topic.head? = some requestTopic)
      (huuid : self.myAgent_uuid = .uuid uuid) :
      Requests myAgent_uid self (publishDeregistration requestTopic uuid)

/-- An agent after its callback for the response to its registration. -/
def registeredAgent {Bytes : Type} (S : MessageSerializer Bytes) (myAgent_debug : Bool)
    (myAgent_uid : String) (r : RegisterResponse) : Handshake :=
  ((Handshake.mqttOnMessage S myAgent_debug
    ⟨getRegistrationResponseTopic myAgent_uid, S.encode (.registerResponse r)⟩).run
      (Handshake.start myAgent_uid)).final

/-! ## The texts -/

/-- A topic of three levels, if neither of the two parts has a slash in it. -/
def topicOf (l : FrameworkListener) (id last : String) : String :=
  l.word ++ "/" ++ id ++ "/" ++ last

/-- Both sides write `/request` and `/response` in one piece. -/
lemma append_slash (s last : String) : s ++ ("/" ++ last) = s ++ "/" ++ last :=
  String.append_assoc.symm

lemma slash_request : "/request" = "/" ++ "request" := by decide +kernel

lemma slash_response : "/response" = "/" ++ "response" := by decide +kernel

open FrameworkListener

lemma topicFilter_eq (l : FrameworkListener) : l.topicFilter = topicOf l "+" "request" := by
  have hlast : "/+/request" = "/" ++ "+" ++ "/" ++ "request" := by decide +kernel
  have hparts : l.topicFilter = l.word ++ "/+/request" := by
    cases l <;> rfl
  rw [hparts, hlast, topicOf]
  simp only [String.append_assoc]

/-- The topics of the framework. -/
lemma responseTopic_eq (l : FrameworkListener) (id : String) :
    l.word ++ "/" ++ id ++ "/response" = topicOf l id "response" := by
  rw [slash_response, append_slash, topicOf]

/-- The topics of the agents, where the word and its slash are one piece too. -/
lemma agentTopic_eq {first last : String} {l : FrameworkListener} (hfirst : first = l.word ++ "/")
    {last' : String} (hlast : last = "/" ++ last') (id : String) :
    first ++ id ++ last = topicOf l id last' := by
  rw [hfirst, hlast, append_slash, topicOf]

/-! ## Which topics match -/

lemma word_injective : ∀ {k l : FrameworkListener}, k.word = l.word → k = l := by
  intro k l h
  cases k <;> cases l <;> first | rfl | exact absurd h (by decide)

lemma slash_not_mem_word : ∀ l : FrameworkListener, '/' ∉ l.word.toList := by
  intro l
  cases l <;> decide

lemma plain_word : ∀ l : FrameworkListener, Topics.Plain l.word.toList := by
  intro l
  cases l <;> exact ⟨by decide, by decide⟩

lemma levels_topicOf (l : FrameworkListener) (id last : String) :
    Topics.levels (topicOf l id last) = l.word.toList :: Topics.levels (id ++ "/" ++ last) := by
  have hparts : topicOf l id last = l.word ++ "/" ++ (id ++ "/" ++ last) := by
    simp only [topicOf, String.append_assoc]
  rw [hparts, Topics.levels_append (slash_not_mem_word l)]

lemma reserved_topicOf (l : FrameworkListener) (id last : String) :
    Topics.reserved (topicOf l id last) = false := by
  have hne : l.word ≠ "" := by cases l <;> decide
  have hword : Topics.reserved l.word = false := by cases l <;> decide
  rw [topicOf, String.append_assoc, String.append_assoc, String.append_assoc,
    Topics.reserved_append hne, hword]

/-- **The listener for a topic**: the one with its word, if it is a request; so each request reaches
one listener. -/
theorem matches_topicFilter_iff (k l : FrameworkListener) {id last : String}
    (hid : '/' ∉ id.toList) (hlast : '/' ∉ last.toList) :
    Topics.matchesTopic k.topicFilter (topicOf l id last) = true ↔ k = l ∧ last = "request" := by
  rw [topicFilter_eq, topicOf, topicOf, Topics.matches_plus_iff (slash_not_mem_word k) (by decide)
    (slash_not_mem_word l) hid hlast ⟨plain_word k, by decide, by decide⟩ (reserved_topicOf l id last)]
  exact and_congr ⟨word_injective, congrArg word⟩ eq_comm

/-- The kind and the id of a response, apart.  The kind is that of the listener that sends it. -/
def ResponseKind.listener : ResponseKind → FrameworkListener
  | registration _ => .MqttRegistrationListener
  | deviceList _ => .MqttDeviceListListener
  | deregistration _ => .MqttDeregistrationListener

/-- The identity in the topic of a response: the uid of an agent that has no uuid yet, or else its
uuid. -/
def ResponseKind.id : ResponseKind → String
  | registration uid => uid
  | deviceList uuid | deregistration uuid => uuid.toString

namespace ResponseKind

lemma topic_eq : ∀ k : ResponseKind, k.topic = topicOf k.listener k.id "response"
  | registration uid => responseTopic_eq .MqttRegistrationListener uid
  | deviceList uuid => responseTopic_eq .MqttDeviceListListener uuid.toString
  | deregistration uuid => responseTopic_eq .MqttDeregistrationListener uuid.toString

lemma eq_of_listener_id : ∀ {k k' : ResponseKind}, k.listener = k'.listener → k.id = k'.id → k = k'
  | registration _, registration _, _, h => congrArg registration h
  | deviceList _, deviceList _, _, h => congrArg deviceList (UUID.toString_injective h)
  | deregistration _, deregistration _, _, h => congrArg deregistration (UUID.toString_injective h)

/-- **Responses of different kinds or to different ids** are on different topics, so no agent gets
the answer to another id. -/
theorem topic_injective : Function.Injective topic := by
  intro k k' h
  rw [topic_eq, topic_eq] at h
  have hlevels := congrArg Topics.levels h
  rw [levels_topicOf, levels_topicOf] at hlevels
  have hword : k.listener.word = k'.listener.word :=
    String.toList_injective (List.cons.inj hlevels).1
  rw [topicOf, topicOf, hword] at h
  have hid := (String.append_left_inj _).mp ((String.append_left_inj _).mp h)
  exact eq_of_listener_id (word_injective hword) ((String.append_right_inj _).mp hid)

/-- An id that is one level of a topic, and no wildcard.  Every UUID is; a uid is if the host name
is plain. -/
def OneLevel (k : ResponseKind) : Prop := ∀ c ∈ k.id.toList, c ≠ '/' ∧ c ≠ '+' ∧ c ≠ '#'

lemma oneLevel_uuid (uuid : UUID) : (deviceList uuid).OneLevel ∧ (deregistration uuid).OneLevel := by
  have h : ∀ c ∈ uuid.toString.toList, c ≠ '/' ∧ c ≠ '+' ∧ c ≠ '#' := by
    intro c hc
    refine ⟨?_, ?_, ?_⟩ <;> rintro rfl <;>
      exact absurd hc (uuid.not_mem_toString (by decide) (by decide))
  exact ⟨h, h⟩

variable {k : ResponseKind}

lemma OneLevel.slash_not_mem (h : k.OneLevel) : '/' ∉ k.id.toList := fun hc => (h _ hc).1 rfl

lemma OneLevel.plain (h : k.OneLevel) : Topics.Plain k.id.toList := by
  constructor
  · intro heq
    exact (h '+' (by rw [heq]; exact List.mem_singleton_self _)).2.1 rfl
  · intro heq
    exact (h '#' (by rw [heq]; exact List.mem_singleton_self _)).2.2 rfl

/-- **No listener** of the framework gets a response, its own or that of another one. -/
theorem OneLevel.not_matches_topic (h : k.OneLevel) (l : FrameworkListener) :
    Topics.matchesTopic l.topicFilter k.topic = false := by
  rw [Bool.eq_false_iff, topic_eq]
  intro hmatch
  have hlast := ((matches_topicFilter_iff l k.listener h.slash_not_mem (by decide)).mp hmatch).2
  exact absurd hlast (by decide)

/-- **A subscription** to a response topic is to that topic and no other, as it has no wildcard. -/
theorem OneLevel.matches_topic_iff (h : k.OneLevel) (topic : String) :
    Topics.matchesTopic k.topic topic = true ↔ k.topic = topic := by
  refine Topics.matches_iff_eq fun f hf => ?_
  rw [topic_eq, topicOf, Topics.levels_three (slash_not_mem_word _) h.slash_not_mem (by decide)] at hf
  simp only [List.mem_cons, List.not_mem_nil, or_false] at hf
  rcases hf with rfl | rfl | rfl
  · exact plain_word _
  · exact h.plain
  · exact ⟨by decide, by decide⟩

end ResponseKind

/-! ## Agreement -/

section
variable {Bytes : Type} (S : MessageSerializer Bytes) (myAgent_debug : Bool)

/-- The callback for the response sets the uuid and all five topics from the record. -/
lemma setFrom_registeredAgent (myAgent_uid : String) (r : RegisterResponse) :
    Handshake.SetFrom (registeredAgent S myAgent_debug myAgent_uid r) r.uuid := by
  have htopic : getRegistrationResponseTopic myAgent_uid
      = "agent-registration/" ++ myAgent_uid ++ "/response" := by
    have hword : "agent-registration" ++ "/" = "agent-registration/" := by decide +kernel
    exact congrArg (fun s => s ++ myAgent_uid ++ "/response") hword
  have hstart : Handshake.firstTopic
      (Handshake.start myAgent_uid).myAgent_registration_response_topic
      = some ("agent-registration/" ++ myAgent_uid ++ "/response") := rfl
  rw [registeredAgent, Handshake.mqttOnMessage, Steps.run_get_bind, hstart, Steps.ofOption_some,
    Steps.pure_bind, if_pos htopic,
    Handshake.final_onRegistrationResponse myAgent_debug (S.decode_encode _)]
  exact ⟨rfl, rfl, rfl, rfl, rfl⟩

variable {myAgent_uid : String}

/-- The topic of a request, and the listener it is for. -/
lemma Requests.topic_eq {r : RegisterResponse} {q : AgentRequest}
    (h : Requests myAgent_uid (registeredAgent S myAgent_debug myAgent_uid r) q) :
    ∃ k : ResponseKind, (k = .registration myAgent_uid ∨ k = .deviceList r.uuid ∨
        k = .deregistration r.uuid) ∧
      k.listener.Expects q.payload ∧ q.topic = topicOf k.listener k.id "request" := by
  have hset := setFrom_registeredAgent S myAgent_debug myAgent_uid r
  cases h with
  | registration data h =>
      obtain rfl := Option.some.inj h
      exact ⟨.registration myAgent_uid, Or.inl rfl, ⟨data, rfl⟩,
        agentTopic_eq (l := .MqttRegistrationListener) (by decide +kernel) slash_request _⟩
  | devices deviceMap h =>
      rw [hset.deviceRequest] at h
      obtain rfl := Option.some.inj h
      exact ⟨.deviceList r.uuid, Or.inr (Or.inl rfl), ⟨deviceMap, rfl⟩,
        agentTopic_eq (l := .MqttDeviceListListener) (by decide +kernel) slash_request _⟩
  | deregistration h _ =>
      rw [hset.deregistrationRequest] at h
      obtain rfl := Option.some.inj h
      exact ⟨.deregistration r.uuid, Or.inr (Or.inr rfl), ⟨⟨_⟩, rfl⟩,
        agentTopic_eq (l := .MqttDeregistrationListener) (by decide +kernel) slash_request _⟩

/-- **The two sides agree.**  For an agent and the response to its registration: every request
reaches the listener that expects its payload and no other; every response is published on the
topic that the agent subscribes to for it, which matches no other topic and no filter of the
framework; and responses of different kinds or to different ids go to different topics. -/
theorem topics_agree (huid : ∀ c ∈ myAgent_uid.toList, c ≠ '/' ∧ c ≠ '+' ∧ c ≠ '#')
    (r : RegisterResponse) :
    let self := registeredAgent S myAgent_debug myAgent_uid r
    (∀ q, Requests myAgent_uid self q → ∃ l : FrameworkListener, l.Expects q.payload ∧
      ∀ k : FrameworkListener, Topics.matchesTopic k.topicFilter q.topic = true ↔ k = l) ∧
    ((Handshake.start myAgent_uid).myAgent_registration_response_topic
        = [(getRegistrationResponseTopic myAgent_uid, 2)] ∧
      self.myDevice_registration_response_topic = [(getSensorListResponseTopic r.uuid, 2)] ∧
      self.myAgent_deregistration_response_topic = [(getDeregistrationResponseTopic r.uuid, 2)]) ∧
    (∀ k : ResponseKind, k = .registration myAgent_uid ∨ k = .deviceList r.uuid ∨
        k = .deregistration r.uuid →
      (∀ topic, Topics.matchesTopic k.topic topic = true ↔ k.topic = topic) ∧
      ∀ l : FrameworkListener, Topics.matchesTopic l.topicFilter k.topic = false) ∧
    Function.Injective ResponseKind.topic := by
  intro self
  have hset : Handshake.SetFrom self r.uuid :=
    setFrom_registeredAgent S myAgent_debug myAgent_uid r
  have hlevel : ∀ k : ResponseKind, k = .registration myAgent_uid ∨ k = .deviceList r.uuid ∨
      k = .deregistration r.uuid → k.OneLevel := by
    rintro k (rfl | rfl | rfl)
    · exact huid
    · exact (ResponseKind.oneLevel_uuid r.uuid).1
    · exact (ResponseKind.oneLevel_uuid r.uuid).2
  refine ⟨fun q hq => ?_, ⟨?_, ?_, ?_⟩, fun k hk => ⟨?_, ?_⟩, ResponseKind.topic_injective⟩
  · obtain ⟨k, hk, hexpects, htopic⟩ := hq.topic_eq
    refine ⟨k.listener, hexpects, fun l => ?_⟩
    rw [htopic, matches_topicFilter_iff l k.listener (hlevel k hk).slash_not_mem (by decide)]
    exact and_iff_left rfl
  · have htopic := (ResponseKind.registration myAgent_uid).topic_eq
    rw [show getRegistrationResponseTopic myAgent_uid = _ from htopic]
    exact congrArg (fun t => [(t, 2)])
      (agentTopic_eq (l := .MqttRegistrationListener) (by decide +kernel) slash_response _)
  · rw [hset.deviceResponse, show getSensorListResponseTopic r.uuid = _ from
      (ResponseKind.deviceList r.uuid).topic_eq]
    exact congrArg (fun t => [(t, 2)])
      (agentTopic_eq (l := .MqttDeviceListListener) (by decide +kernel) slash_response _)
  · rw [hset.deregistrationResponse, show getDeregistrationResponseTopic r.uuid = _ from
      (ResponseKind.deregistration r.uuid).topic_eq]
    exact congrArg (fun t => [(t, 2)])
      (agentTopic_eq (l := .MqttDeregistrationListener) (by decide +kernel) slash_response _)
  · exact (hlevel k hk).matches_topic_iff
  · exact (hlevel k hk).not_matches_topic

end

/-- An agent `iru7` that gets the uuid `7`, with the debug lines of its callback on. -/
theorem topics_agree_iru7 :
    let self := registeredAgent structuralSerializer true "iru7"
      ⟨"iru7", true, "Registration succeed", ⟨7⟩, ∅⟩
    self.myDevice_registration_response_topic = [(getSensorListResponseTopic ⟨7⟩, 2)] ∧
      ∃ l : FrameworkListener, l.Expects (.deregisterRequest ⟨⟨7⟩⟩) ∧
        Topics.matchesTopic l.topicFilter
          ("agent-deregistration/" ++ (UUID.mk 7).toString ++ "/request") = true := by
  intro self
  have huid : ∀ c ∈ "iru7".toList, c ≠ '/' ∧ c ≠ '+' ∧ c ≠ '#' := by
    have hlist : "iru7".toList = ['i', 'r', 'u', '7'] := by decide +kernel
    simp [hlist]
  obtain ⟨hrequests, ⟨-, hdevices, -⟩, -⟩ := topics_agree structuralSerializer true huid
    ⟨"iru7", true, "Registration succeed", ⟨7⟩, ∅⟩
  have hset := setFrom_registeredAgent structuralSerializer true "iru7"
    ⟨"iru7", true, "Registration succeed", ⟨7⟩, ∅⟩
  obtain ⟨l, hexpects, hmatch⟩ := hrequests _
    (.deregistration (by rw [hset.deregistrationRequest]; rfl) hset.uuid)
  exact ⟨hdevices, l, hexpects, (hmatch l).mpr rfl⟩

end KrakenMare
