import KrakenMare.Agent.Requests
import KrakenMare.Agent.Routing
import KrakenMare.Framework.DeviceUuids
import KrakenMare.Framework.DeviceLists

/-!
# What the answers of the framework leave with an agent

A handler publishes an answer after it has done what the answer says (`Says`).  So what an agent
with its two threads has from such answers is true of the framework: its uuid, the uuids of its
sensors, and that its deregistration is over.

**What has been done** is said of histories of the framework, and cannot be undone: a registration
with this uid has created the agent (`Assigned`), an answer to one of its device lists has been
published (`Told`), a deregistration has made its delete (`Deleted`).

* `says_of_published` — **every publication of the framework says what has been done**, on the
  topic of the identity it is about.
* `goes_genuine` — a callback on such a publication, statement by statement.  The topic decides
  which branch it takes, and the identity in the topic is what makes the answer one for this agent.
* `Honest.step` — the agent asks for no uuid but those that its uid was given, and is done only
  when a handler of the framework has run its delete for one of them.

An agent may have been given several uuids, since its registration request may be delivered again;
it goes by the last one it was told, and `Genuine` is about whichever that is at the moment.
-/

namespace KrakenMare

open Lib Lib.Interleaving AgentRedisRepository MqttDeviceListListener Protocol

variable {G : World → Request → Call RedisCmd → Prop} {h h' : Past} {uid : String} {u v : UUID}

/-! ## What has been done -/

/-- A registration with this uid has created the agent `u`, so that the uuid was given to the
uid. -/
def Assigned (h : Past) (uid : String) (u : UUID) : Prop :=
  ∃ j m id, Created h j m id u ∧ m.uid = uid

/-- A deregistration has run its `HDEL` for the agent `u`, whether or not the field was still
there. -/
def Deleted (h : Past) (u : UUID) : Prop :=
  ∃ j, ∃ n : ℕ, (j, (⟨.store (.hdel (agentKey (some u))), n⟩ : Answered Answer)) ∈ h.log

/-- The map is the answer to a device list for a uuid of this uid. -/
def Told (h : Past) (uid : String) (map : Dict String SensorUuids) : Prop :=
  ∃ u j r, Assigned h uid u ∧ (j, r) ∈ responses h u ∧ map = r.deviceUuids

lemma Assigned.mono (ha : Assigned h uid u) (he : h.Extends h') : Assigned h' uid u := by
  obtain ⟨j, m, id, hc, hm⟩ := ha
  exact ⟨j, m, id, hc.mono he, hm⟩

/-- A uuid is given to one uid. -/
lemma Assigned.uid_eq (hr : Reachable G h) {uid' : String} (ha : Assigned h uid u)
    (ha' : Assigned h uid' u) : uid = uid' := by
  obtain ⟨j, m, id, hc, rfl⟩ := ha
  obtain ⟨j', m', id', hc', rfl⟩ := ha'
  obtain rfl := drawn_unique hr hc.mem_draw hc'.mem_draw
  rw [(hc.unique hc').1]

lemma Deleted.mono (hd : Deleted h u) (he : h.Extends h') : Deleted h' u := by
  obtain ⟨j, n, hmem⟩ := hd
  exact ⟨j, n, he.mem hmem⟩

lemma Told.mono {map : Dict String SensorUuids} (ht : Told h uid map) (he : h.Extends h') :
    Told h' uid map := by
  obtain ⟨u, j, r, ha, hmem, hmap⟩ := ht
  exact ⟨u, j, r, ha.mono he, (he.log.filterMap _).mem hmem, hmap⟩

/-- What an answer of each kind says: that an agent was created for the uid, that the devices were
assigned, that a delete was run. -/
inductive Says (h : Past) : ResponseKind → Message → Prop
  | registration {uid : String} {r : RegisterResponse} (ha : Assigned h uid r.uuid) :
      Says h (.registration uid) (.registerResponse r)
  | deviceList {j : ℕ} {r : DeviceListResponse} (hr : (j, r) ∈ responses h r.uuid) :
      Says h (.deviceList r.uuid) (.deviceListResponse r)
  | deregistration {r : DeregisterResponse} (hd : Deleted h r.agentUuid) :
      Says h (.deregistration r.agentUuid) (.deregisterResponse r)

/-- **A publication says what has been done**: it is an answer of one of the three kinds, on the
topic of its kind, and what it says is already true when it is published. -/
theorem says_of_published (hr : Reachable G h) {j : ℕ} {topic : String} {message : Message}
    (hmem : (j, (⟨.publish topic message, true⟩ : Answered Answer)) ∈ h.log) :
    ∃ k : ResponseKind, topic = k.topic ∧ Says h k message := by
  obtain ⟨m, l₁, l₂, hm, hown, hn⟩ := hr.mem_log hmem
  have hnext : Next m l₁ (.publish topic message) := hn
  cases hnext with
  | welcome m id u n =>
      have hc : Created h j m id u := ⟨hm, n, hown ▸ List.prefix_append _ _⟩
      exact ⟨.registration m.uid, rfl, .registration ⟨j, m, id, hc, rfl⟩⟩
  | respond m us a n hus =>
      have hr : (j, Protocol.deviceListResponse m us) ∈ responses h m.uuid :=
        mem_responses.mpr ⟨rfl, _, hmem⟩
      have hsays : Says h (.deviceList m.uuid)
          (.deviceListResponse (Protocol.deviceListResponse m us)) :=
        Says.deviceList (r := Protocol.deviceListResponse m us) hr
      exact ⟨.deviceList m.uuid, rfl, hsays⟩
  | goodbye m a n =>
      -- what was deleted is what was fetched
      have hget : (j, (⟨.store (.hget (agentKey (some m.uuid))), some a⟩ : Answered Answer))
          ∈ h.log := History.mem_own.mp (by rw [hown]; simp [Protocol.deleted, found])
      have hdel : (j, (⟨.store (.hdel (agentKey a.uuid)), n⟩ : Answered Answer)) ∈ h.log :=
        History.mem_own.mp (by rw [hown]; simp [Protocol.deleted])
      obtain ⟨v, hk, hv⟩ := (represented hr).fetched j _ a hget
      obtain rfl := agentKey_injective hk
      have hd : Deleted h m.uuid := ⟨j, n, hv.uuid ▸ hdel⟩
      have hsays : Says h (.deregistration m.uuid) (.deregisterResponse ⟨m.uuid, n == 1⟩) :=
        Says.deregistration (r := ⟨m.uuid, n == 1⟩) hd
      exact ⟨.deregistration m.uuid, rfl, hsays⟩

/-- The topics of the agents, in one piece. -/
lemma topic_registration (uid : String) :
    (ResponseKind.registration uid).topic = "agent-registration/" ++ uid ++ "/response" := by
  have hword : "agent-registration" ++ "/" = "agent-registration/" := by decide +kernel
  exact congrArg (fun s => s ++ uid ++ "/response") hword

lemma topic_deviceList (u : UUID) : (ResponseKind.deviceList u).topic
    = "device-registration/" ++ u.toString ++ "/response" := by
  have hword : "device-registration" ++ "/" = "device-registration/" := by decide +kernel
  exact congrArg (fun s => s ++ u.toString ++ "/response") hword

lemma topic_deregistration (u : UUID) : (ResponseKind.deregistration u).topic
    = "agent-deregistration/" ++ u.toString ++ "/response" := by
  have hword : "agent-deregistration" ++ "/" = "agent-deregistration/" := by decide +kernel
  exact congrArg (fun s => s ++ u.toString ++ "/response") hword

/-! ## What a callback makes of it -/

/-- What the agent has been told is true: its uuid, its map and the two flags come from what the
framework has done for its uid. -/
structure Genuine (h : Past) (uid : String) (a : Handshake) : Prop where
  uuid : ∀ u, a.myAgent_uuid = .uuid u → Assigned h uid u
  map : a.myDeviceSensorUUIDsMap = ∅ ∨ Told h uid a.myDeviceSensorUUIDsMap
  devices : a.myDeviceRegistered = true → Told h uid a.myDeviceSensorUUIDsMap
  deregistered : a.myMQTTderegistered = true → ∃ u, Assigned h uid u ∧ Deleted h u

/-- Between two callbacks the topics of the agent are those of its uuid. -/
structure AtRest (h : Past) (uid : String) (a : Handshake) : Prop where
  genuine : Genuine h uid a
  registration : Handshake.firstTopic a.myAgent_registration_response_topic
    = some (ResponseKind.registration uid).topic
  topics : a.myDevice_registration_response_topic = [] ∨ ∃ u, a.myAgent_uuid = .uuid u ∧
    a.myDevice_registration_response_topic = [((ResponseKind.deviceList u).topic, 2)] ∧
    a.myAgent_deregistration_response_topic = [((ResponseKind.deregistration u).topic, 2)]

lemma Genuine.mono {a : Handshake} (hg : Genuine h uid a) (he : h.Extends h') :
    Genuine h' uid a where
  uuid u hu := (hg.uuid u hu).mono he
  map := hg.map.imp_right fun ht => ht.mono he
  devices hd := (hg.devices hd).mono he
  deregistered hd := by
    obtain ⟨u, ha, hdel⟩ := hg.deregistered hd
    exact ⟨u, ha.mono he, hdel.mono he⟩

lemma AtRest.mono {a : Handshake} (ha : AtRest h uid a) (he : h.Extends h') : AtRest h' uid a :=
  ⟨ha.genuine.mono he, ha.registration, ha.topics⟩

lemma genuine_start (h : Past) (uid : String) : Genuine h uid (.start uid) where
  uuid u hu := absurd hu (by simp [Handshake.start])
  map := Or.inl rfl
  devices hd := absurd hd (by simp [Handshake.start])
  deregistered hd := absurd hd (by simp [Handshake.start])

lemma atRest_start (h : Past) (uid : String) : AtRest h uid (.start uid) :=
  ⟨genuine_start h uid, congrArg some (topic_registration uid).symm, Or.inl rfl⟩

section
variable {Bytes : Type} {S : MessageSerializer Bytes} {myAgent_debug : Bool} {a : Handshake}

open Handshake

/-- What `Genuine` is about, apart from all else that a callback may change. -/
def Handshake.told (a : Handshake) : AgentUuid × Dict String SensorUuids × Bool × Bool :=
  (a.myAgent_uuid, a.myDeviceSensorUUIDsMap, a.myDeviceRegistered, a.myMQTTderegistered)

lemma Genuine.of_told {t t' : Handshake} (hg : Genuine h uid t) (ht : t'.told = t.told) :
    Genuine h uid t' := by
  simp only [Handshake.told, Prod.mk.injEq] at ht
  obtain ⟨huuid, hmap, hdevices, hderegistered⟩ := ht
  constructor
  · rw [huuid]; exact hg.uuid
  · rw [hmap]; exact hg.map
  · rw [hdevices, hmap]; exact hg.devices
  · rw [hderegistered]; exact hg.deregistered

/-- The topics are set after the uuid, and nothing else. -/
lemma told_setTopics (a : Handshake) : ∀ t ∈ (setTopics.run a).states, t.told = a.told := by
  intro t ht
  simp only [setTopics, Steps.run_assign_bind, Steps.run_assign, List.mem_cons, List.not_mem_nil,
    or_false] at ht
  rcases ht with rfl | rfl | rfl | rfl | rfl | rfl | rfl | rfl | rfl <;> rfl

/-- The states that the branch for the registration response goes through, one for each
assignment. -/
lemma states_onRegistrationResponse (myAgent_debug : Bool) {payload : Bytes} {r : RegisterResponse}
    (hdecode : S.decode payload = some (.registerResponse r)) (a : Handshake) :
    ((onRegistrationResponse S myAgent_debug payload).run a).states =
      { a with decoded := a.decoded ++ [.registerResponse r] }
        :: { a with decoded := a.decoded ++ [.registerResponse r], myMQTTregistered := true }
        :: { a with
          decoded := a.decoded ++ [.registerResponse r]
          myMQTTregistered := true
          myAgent_uuid := .uuid r.uuid }
        :: (setTopics.run { a with
          decoded := a.decoded ++ [.registerResponse r]
          myMQTTregistered := true
          myAgent_uuid := .uuid r.uuid }).states := by
  have hprint : printUuid myAgent_debug (.registerResponse r) = pure () := by
    cases myAgent_debug <;> rfl
  rw [onRegistrationResponse, decodeMessage_bind hdecode, Steps.run_assign_bind, hprint]
  rfl

/-- A uuid for the agent. -/
lemma Genuine.setUuid (hg : Genuine h uid a) (ha : Assigned h uid u) :
    Genuine h uid { a with myAgent_uuid := .uuid u } :=
  ⟨fun _ hv => AgentUuid.uuid.inj hv ▸ ha, hg.map, hg.devices, hg.deregistered⟩

/-- The answer to a registration. -/
lemma goes_registered (ha : AtRest h uid a) {payload : Bytes} {r : RegisterResponse}
    (hdecode : S.decode payload = some (.registerResponse r)) (hr : Assigned h uid r.uuid) :
    Steps.Goes (Genuine h uid) (onRegistrationResponse S myAgent_debug payload) a
      fun _ t => AtRest h uid t := by
  have huuid : Genuine h uid { a with myAgent_uuid := .uuid r.uuid } :=
    Genuine.setUuid ha.genuine hr
  constructor
  · rw [Steps.Always, states_onRegistrationResponse myAgent_debug hdecode]
    intro t ht
    simp only [List.mem_cons] at ht
    rcases ht with rfl | rfl | rfl | ht
    · exact Genuine.of_told ha.genuine rfl
    · exact Genuine.of_told ha.genuine rfl
    · exact Genuine.of_told huuid rfl
    · have hsame := told_setTopics _ t ht
      exact Genuine.of_told huuid hsame
  · rw [final_onRegistrationResponse myAgent_debug hdecode]
    refine ⟨Genuine.of_told huuid rfl, ?_, Or.inr ⟨r.uuid, rfl, ?_, ?_⟩⟩
    · exact firstTopic_append (firstTopic_append ha.registration _) _
    · rw [topic_deviceList]
    · rw [topic_deregistration]

/-- The callback on an answer to a device list for the agent. -/
lemma run_onDeviceRegistrationResponse {payload : Bytes} {r : DeviceListResponse}
    (hdecode : S.decode payload = some (.deviceListResponse r))
    (hu : a.myAgent_uuid = .uuid r.uuid) :
    ((onDeviceRegistrationResponse S payload).run a) =
      ⟨[{ a with decoded := a.decoded ++ [.deviceListResponse r] },
        { a with
          decoded := a.decoded ++ [.deviceListResponse r]
          myDeviceSensorUUIDsMap := r.deviceUuids },
        { a with
          decoded := a.decoded ++ [.deviceListResponse r]
          myDeviceSensorUUIDsMap := r.deviceUuids
          myDeviceRegistered := true }],
        { a with
          decoded := a.decoded ++ [.deviceListResponse r]
          myDeviceSensorUUIDsMap := r.deviceUuids
          myDeviceRegistered := true }, some ()⟩ := by
  have hstore : (storeDeviceUuids (.deviceListResponse r)).run
      { a with decoded := a.decoded ++ [.deviceListResponse r] }
        = ⟨[{ a with
            decoded := a.decoded ++ [.deviceListResponse r]
            myDeviceSensorUUIDsMap := r.deviceUuids }],
          { a with
            decoded := a.decoded ++ [.deviceListResponse r]
            myDeviceSensorUUIDsMap := r.deviceUuids }, some ()⟩ := by
    have hsame : AgentUuid.uuid r.uuid = a.myAgent_uuid := hu.symm
    rw [storeDeviceUuids, Steps.run_get_bind, Message.uuid?, Steps.ofOption_some,
      Steps.pure_bind, if_pos hsame]
    rfl
  rw [onDeviceRegistrationResponse, decodeMessage_bind hdecode, Steps.run_assign_bind,
    Steps.run_bind_of_result _ (by rw [hstore]), hstore]
  rfl

/-- The answer to a device list. -/
lemma goes_devices (ha : AtRest h uid a) {payload : Bytes} {r : DeviceListResponse}
    (hdecode : S.decode payload = some (.deviceListResponse r))
    (hu : a.myAgent_uuid = .uuid r.uuid) {j : ℕ} (hr : (j, r) ∈ responses h r.uuid) :
    Steps.Goes (Genuine h uid) (onDeviceRegistrationResponse S payload) a
      fun _ t => AtRest h uid t := by
  have htold : Told h uid r.deviceUuids := ⟨r.uuid, j, r, ha.genuine.uuid _ hu, hr, rfl⟩
  have hmap : Genuine h uid { a with myDeviceSensorUUIDsMap := r.deviceUuids } :=
    ⟨ha.genuine.uuid, Or.inr htold, fun _ => htold, ha.genuine.deregistered⟩
  have hflag : Genuine h uid { a with
      myDeviceSensorUUIDsMap := r.deviceUuids
      myDeviceRegistered := true } :=
    ⟨ha.genuine.uuid, Or.inr htold, fun _ => htold, ha.genuine.deregistered⟩
  have hrun := run_onDeviceRegistrationResponse hdecode hu
  constructor
  · rw [Steps.Always, hrun]
    intro t ht
    simp only [List.mem_cons, List.not_mem_nil, or_false] at ht
    rcases ht with rfl | rfl | rfl
    · exact Genuine.of_told ha.genuine rfl
    · exact Genuine.of_told hmap rfl
    · exact Genuine.of_told hflag rfl
  · rw [hrun]
    exact ⟨Genuine.of_told hflag rfl, ha.registration, ha.topics⟩

/-- The answer to a deregistration. -/
lemma goes_deregistered (ha : AtRest h uid a) {payload : Bytes} {data : Message}
    (hdecode : S.decode payload = some data) (hu : a.myAgent_uuid = .uuid u) (hd : Deleted h u) :
    Steps.Goes (Genuine h uid) (onDeregistrationResponse S payload) a
      fun _ t => AtRest h uid t := by
  have hflag : Genuine h uid { a with myMQTTderegistered := true } :=
    ⟨ha.genuine.uuid, ha.genuine.map, ha.genuine.devices,
      fun _ => ⟨u, ha.genuine.uuid u hu, hd⟩⟩
  refine .assign_bind hflag ?_
  rw [decodeMessage_bind hdecode]
  refine .assign_bind (Genuine.of_told hflag rfl) (.pure ?_)
  exact ⟨Genuine.of_told hflag rfl, ha.registration, ha.topics⟩

/-- **A callback on an answer of the framework** leaves what is true at every statement, and the
agent at rest when it is over. -/
theorem goes_genuine (ha : AtRest h uid a) {k : ResponseKind} {message : Message}
    (hs : Says h k message) :
    Steps.Goes (Genuine h uid) (mqttOnMessage S myAgent_debug ⟨k.topic, S.encode message⟩) a
      fun _ t => AtRest h uid t := by
  rw [mqttOnMessage]
  refine .get_bind ?_
  rw [ha.registration, Steps.ofOption_some, Steps.pure_bind]
  refine .ite (fun htopic => ?_) fun _ => ?_
  · obtain rfl := ResponseKind.topic_injective htopic
    cases hs with
    | registration hr => exact goes_registered ha (S.decode_encode _) hr
  rcases ha.topics with hnone | ⟨u, hu, hdevice, hderegistration⟩
  · rw [hnone]
    exact .fail ha
  rw [hdevice]
  refine .ite (fun htopic : k.topic = (ResponseKind.deviceList u).topic => ?_) fun _ => ?_
  · obtain rfl := ResponseKind.topic_injective htopic
    cases hs with
    | deviceList hr => exact goes_devices ha (S.decode_encode _) hu hr
  rw [hderegistration]
  refine .ite (fun htopic : k.topic = (ResponseKind.deregistration u).topic => ?_) fun _ => .pure ha
  obtain rfl := ResponseKind.topic_injective htopic
  cases hs with
  | deregistration hd => exact goes_deregistered ha (S.decode_encode _) hu hd

end

/-! ## Both threads -/

/-- A request that is about an agent is about one of these uuids. -/
def AgentOutput.About (K : UUID → Prop) : AgentOutput → Prop
  | register | data => True
  | devices _ uuid => ∀ u, uuid = .uuid u → K u
  | deregister _ u => K u

/-- And so is what the main thread has read, where it has the uuid in a local variable. -/
def Phase.About (K : UUID → Prop) : Phase → Prop
  | deviceRegistration uuid | subscribeDevices _ _ uuid | publishDevices _ _ uuid
  | awaitDevices _ _ uuid _ | subscribeDeregistration _ uuid | publishDeregistration _ _ uuid =>
      ∀ u, uuid = .uuid u → K u
  | _ => True

/-- The agent has been told that it is deregistered, and has nothing left to do but to close the
client. -/
def Phase.leaving (phase : Phase) : Prop := phase = .closing ∨ phase = .exited 0

lemma AgentOutput.About.mono {K K' : UUID → Prop} (hK : ∀ u, K u → K' u) :
    ∀ {o : AgentOutput}, o.About K → o.About K'
  | register, _ | data, _ => trivial
  | devices _ _, ho => fun u hu => hK u (ho u hu)
  | deregister _ _, ho => hK _ ho

lemma Phase.About.mono {K K' : UUID → Prop} (hK : ∀ u, K u → K' u) {phase : Phase}
    (hp : phase.About K) : phase.About K' := by
  unfold Phase.About at hp ⊢
  split at hp
  all_goals first | exact fun u hu => hK u (hp u hu) | trivial

/-- What the agent holds, asks for and acts on is true of the framework. -/
structure Honest (h : Past) (uid : String) (x : AgentThreads) : Prop where
  genuine : ∀ t ∈ x.self :: x.pending, Genuine h uid t
  settled : AtRest h uid x.settled
  phase : x.phase.About (Assigned h uid)
  left : x.phase.leaving → ∃ u, Assigned h uid u ∧ Deleted h u
  published : ∀ o ∈ x.published, o.About (Assigned h uid)

lemma Honest.mono {x : AgentThreads} (hx : Honest h uid x) (he : h.Extends h') :
    Honest h' uid x where
  genuine t ht := (hx.genuine t ht).mono he
  settled := hx.settled.mono he
  phase := hx.phase.mono fun _ ha => ha.mono he
  left hl := by
    obtain ⟨u, ha, hd⟩ := hx.left hl
    exact ⟨u, ha.mono he, hd.mono he⟩
  published o ho := (hx.published o ho).mono fun _ ha => ha.mono he

lemma honest_start (h : Past) (uid : String) : Honest h uid (.start uid) where
  genuine t ht := List.mem_singleton.mp ht ▸ genuine_start h uid
  settled := atRest_start h uid
  phase := trivial
  left hl := absurd hl (by simp [Phase.leaving, AgentThreads.start])
  published o ho := absurd ho (by simp [AgentThreads.start])

section
variable {Bytes : Type} {S : MessageSerializer Bytes} {myAgent_debug : Bool} {x y : AgentThreads}

open AgentThreads

/-- The main thread has gone on, and is not leaving. -/
lemma Honest.of_phase (hx : Honest h uid x) (hself : y.self = x.self)
    (hpending : y.pending = x.pending) (hphase : y.phase.About (Assigned h uid))
    (hleft : ¬ y.phase.leaving) (hpublished : y.published = x.published) : Honest h uid y := by
  have hsettled : y.settled = x.settled := by
    rw [AgentThreads.settled, AgentThreads.settled, hself, hpending]
  constructor
  · rw [hself, hpending]; exact hx.genuine
  · rw [hsettled]; exact hx.settled
  · exact hphase
  · exact fun hl => absurd hl hleft
  · rw [hpublished]; exact hx.published

lemma Honest.publish (hx : Honest h uid x) {output : AgentOutput} {next : Phase}
    (houtput : output.About (Assigned h uid)) (hnext : next.About (Assigned h uid))
    (hleft : ¬ next.leaving) : Honest h uid (x.publish output next) where
  genuine := hx.genuine
  settled := hx.settled
  phase := hnext
  left hl := absurd hl hleft
  published o ho := by
    rcases List.mem_append.mp ho with ho | ho
    · exact hx.published o ho
    · exact List.mem_singleton.mp ho ▸ houtput

lemma Honest.subscribe (hx : Honest h uid x) {topics : List (String × ℕ)} {next retry : Phase}
    (hnext : next.About (Assigned h uid)) (hretry : retry.About (Assigned h uid))
    (hleft : ¬ next.leaving ∧ ¬ retry.leaving) : Honest h uid (x.subscribe topics next retry) := by
  rcases subscribe_cases x topics next retry with hs | hs
  · rw [hs]
    exact hx.of_phase rfl rfl hnext hleft.1 rfl
  · rw [hs]
    exact hx.of_phase rfl rfl hretry hleft.2 rfl

lemma Honest.mqttDeregistration (hx : Honest h uid x) : Honest h uid x.mqttDeregistration := by
  rw [AgentThreads.mqttDeregistration]
  cases x.self.myAgent_deregistration_request_topic with
  | nil => exact hx.of_phase rfl rfl trivial (by simp [Phase.leaving]) rfl
  | cons requestTopic rest =>
      exact hx.of_phase rfl rfl (hx.genuine _ List.mem_cons_self).uuid (by simp [Phase.leaving]) rfl

/-- **The main thread** asks for what it has been given: all that it publishes has been read from
the attributes. -/
theorem Honest.main (hx : Honest h uid x) : Honest h uid x.main := by
  have hself := (hx.genuine _ List.mem_cons_self).uuid
  have hphaseAbout := hx.phase
  have hraised : Honest h uid { x with phase := .raised } :=
    hx.of_phase rfl rfl trivial (by simp [Phase.leaving]) rfl
  rw [AgentThreads.main]
  cases hphase : x.phase with
  | connecting => exact hx.of_phase rfl rfl trivial (by simp [Phase.leaving]) rfl
  | subscribing => exact hx.subscribe trivial trivial (by simp [Phase.leaving])
  | registering => exact hx.publish trivial trivial (by simp [Phase.leaving])
  | awaitRegistration count =>
      rcases poll_cases x.self.myMQTTregistered count .createDeviceMap .awaitRegistration with
        hp | hp | ⟨-, hp⟩ <;>
      · dsimp only
        rw [hp]
        exact hx.of_phase rfl rfl trivial (by simp [Phase.leaving]) rfl
  | createDeviceMap => exact hx.of_phase rfl rfl hself (by simp [Phase.leaving]) rfl
  | deviceRegistration uuid =>
      rw [hphase] at hphaseAbout
      cases x.self.myDevice_registration_request_topic with
      | none => exact hraised
      | some topic =>
          dsimp only
          split_ifs
          · exact hraised
          · exact hx.subscribe hphaseAbout hphaseAbout (by simp [Phase.leaving])
  | subscribeDevices topic responseTopic uuid =>
      rw [hphase] at hphaseAbout
      exact hx.subscribe hphaseAbout hphaseAbout (by simp [Phase.leaving])
  | publishDevices topic responseTopic uuid =>
      rw [hphase] at hphaseAbout
      exact hx.publish hphaseAbout hphaseAbout (by simp [Phase.leaving])
  | awaitDevices topic responseTopic uuid count =>
      rw [hphase] at hphaseAbout
      dsimp only
      rcases poll_cases x.self.myDeviceRegistered count .sendData
        (.awaitDevices topic responseTopic uuid) with hp | hp | ⟨-, hp⟩
      · rw [hp]
        exact hx.of_phase rfl rfl trivial (by simp [Phase.leaving]) rfl
      · rw [hp]
        exact hx.of_phase rfl rfl trivial (by simp [Phase.leaving]) rfl
      · rw [hp]
        exact hx.of_phase rfl rfl hphaseAbout (by simp [Phase.leaving]) rfl
  | sendData => exact hx.publish trivial trivial (by simp [Phase.leaving])
  | subscribeDeregistration requestTopic uuid =>
      rw [hphase] at hphaseAbout
      dsimp only
      split_ifs
      · exact hraised
      · exact hx.subscribe hphaseAbout hphaseAbout (by simp [Phase.leaving])
  | publishDeregistration requestTopic responseTopic uuid =>
      rw [hphase] at hphaseAbout
      cases uuid with
      | uuid u => exact hx.publish (hphaseAbout u rfl) trivial (by simp [Phase.leaving])
      | minusOne => exact hraised
      | null => exact hraised
  | awaitDeregistration responseTopic count =>
      -- here alone the main thread goes on to leave, and it has seen the flag
      dsimp only
      rw [Phase.poll]
      split_ifs with hflag
      · have hdeleted := (hx.genuine _ List.mem_cons_self).deregistered hflag
        exact ⟨hx.genuine, hx.settled, trivial, fun _ => hdeleted, hx.published⟩
      · exact hx.of_phase rfl rfl trivial (by simp [Phase.leaving]) rfl
      · exact hx.of_phase rfl rfl trivial (by simp [Phase.leaving]) rfl
  | closing =>
      have hdeleted := hx.left (Or.inl hphase)
      exact ⟨hx.genuine, hx.settled, trivial, fun _ => hdeleted, hx.published⟩
  | exited code => exact hx
  | raised => exact hx

/-- **One step**, where the MQTT client is only handed answers of the framework, keeps the agent
honest. -/
theorem Honest.step (hx : Honest h uid x) {e : ThreadEvent Bytes}
    (he : ∀ m, e = .message m → ∃ k message, Says h k message ∧ m = ⟨k.topic, S.encode message⟩) :
    Honest h uid (x.step S myAgent_debug e) := by
  cases e with
  | main => exact hx.main
  | interrupt =>
      rw [AgentThreads.step, interrupt]
      split
      · exact hx
      · exact hx
      · exact hx.mqttDeregistration
  | message m =>
      obtain ⟨k, message, hs, rfl⟩ := he m rfl
      rw [AgentThreads.step]
      split_ifs with hruns
      · have hrest : AtRest h uid x.self := settled_at_rest hruns.2.2 ▸ hx.settled
        have hgoes := @goes_genuine h uid _ S myAgent_debug x.self hrest k message hs
        refine ⟨List.forall_mem_cons.mpr ⟨hrest.genuine, fun t ht => ?_⟩, ?_, hx.phase, hx.left,
          hx.published⟩
        · rcases List.mem_append.mp ht with ht | ht
          · exact hgoes.always t ht
          · exact List.mem_singleton.mp ht ▸ hgoes.ends.genuine
        · rw [AgentThreads.settled]
          simpa using hgoes.ends
      · exact hx
  | statement =>
      rw [AgentThreads.step]
      split
      · exact hx
      · rename_i t ts hpending
        split_ifs
        · have hgenuine := hx.genuine
          rw [hpending] at hgenuine
          refine ⟨fun s hs => hgenuine s (List.mem_cons_of_mem _ hs), ?_, hx.phase, hx.left,
            hx.published⟩
          rw [settled_statement hpending]
          exact hx.settled
        · exact hx
  | connectionLost => exact ⟨hx.genuine, hx.settled, hx.phase, hx.left, hx.published⟩
  | connack sessionPresent =>
      rw [AgentThreads.step]
      split
      · exact ⟨hx.genuine, hx.settled, hx.phase, hx.left, hx.published⟩
      · exact hx

end

/-! ## What has been published -/

namespace AgentThreads

variable {Bytes : Type} {S : MessageSerializer Bytes} {myAgent_debug : Bool}

/-- The main thread takes back nothing that it has published; it adds one output at most. -/
lemma published_main (x : AgentThreads) : x.published <+: x.main.published := by
  have hsubscribe : ∀ topics next retry,
      x.published <+: (x.subscribe topics next retry).published := by
    intro topics next retry
    have hsame : (x.subscribe topics next retry).published = x.published := by
      rcases subscribe_cases x topics next retry with hs | hs <;> rw [hs]
    exact hsame ▸ List.prefix_refl _
  have hpublish : ∀ output next, x.published <+: (x.publish output next).published :=
    fun output next => List.prefix_append _ _
  rw [main]
  cases x.phase with
  | subscribing => exact hsubscribe _ _ _
  | registering => exact hpublish _ _
  | deviceRegistration uuid =>
      cases x.self.myDevice_registration_request_topic with
      | none => exact List.prefix_refl _
      | some topic =>
          dsimp only
          split_ifs
          · exact List.prefix_refl _
          · exact hsubscribe _ _ _
  | subscribeDevices topic responseTopic uuid => exact hsubscribe _ _ _
  | publishDevices topic responseTopic uuid => exact hpublish _ _
  | sendData => exact hpublish _ _
  | subscribeDeregistration requestTopic uuid =>
      dsimp only
      split_ifs
      · exact List.prefix_refl _
      · exact hsubscribe _ _ _
  | publishDeregistration requestTopic responseTopic uuid =>
      cases uuid with
      | uuid u => exact hpublish _ _
      | minusOne => exact List.prefix_refl _
      | null => exact List.prefix_refl _
  | connecting | awaitRegistration | createDeviceMap | awaitDevices | awaitDeregistration | closing
  | exited | raised => exact List.prefix_refl _

/-- What an agent has published stays published. -/
lemma published_step (x : AgentThreads) (t : ThreadEvent Bytes) :
    x.published <+: (x.step S myAgent_debug t).published := by
  cases t with
  | main => exact published_main x
  | interrupt =>
      rw [step, interrupt]
      split
      · exact List.prefix_refl _
      · exact List.prefix_refl _
      · rw [mqttDeregistration]
        split <;> exact List.prefix_refl _
  | message m =>
      rw [step]
      split <;> exact List.prefix_refl _
  | statement =>
      rw [step]
      split
      · exact List.prefix_refl _
      · split <;> exact List.prefix_refl _
  | connectionLost => exact List.prefix_refl _
  | connack sessionPresent =>
      rw [step]
      split <;> exact List.prefix_refl _

end AgentThreads

end KrakenMare
