import KrakenMare.Agent.Handshake
import KrakenMare.Lib.Topics

/-!
# The uid of an agent

The constructors of `simulator/IBswitchSimulator.py` and `redfish/RedfishAgent.py` put the name of
the host and a random number together, which their comments say is to insure that they are always
unique, and make the registration topics and the MQTT client id from that.  There is nothing
between the name and the number, so a host name that ends in digits can stand for a shorter name
and a longer number.

* `uid_eq_iff` — **two agents on different hosts have one uid just when the name of one host ends
  in digits that the other agent has drawn** (`Borrows`), with the name of the agent in between if
  it is a Redfish agent.
* `Borrows.node_ne` — the name of a host does not borrow from itself.
* `matches_responseTopic` — an agent gets what is published on the response topic of its uid, and
  nothing else; the uid is one level of a topic and no wildcard.

What two agents with one uid do to each other is in `Agent.Deployment`.  `Started` carries what the
source can rely on: a host name is a network name, so it has no slash, and the number is in its
range.
-/

namespace KrakenMare

open Lib

/-! ## The constructors -/

/-- The two Python agents of the repository, which make their names in two ways. -/
inductive AgentKind
  | IBswitchSimulator
  | RedfishAgent
deriving DecidableEq

/-- An agent on a host.  `node` is `platform.node()`, a network name and so without a slash, and
`draw` is `random.randint(1, 100001)`. -/
structure Started where
  kind : AgentKind
  node : String
  draw : ℕ
  node_level : '/' ∉ node.toList
  draw_range : 1 ≤ draw ∧ draw ≤ 100001

/-- The uid of a simulator: the name of its host and the number it has drawn. -/
def IBswitchSimulator.myAgent_uid (node : String) (draw : ℕ) : String := node ++ toString draw

/-- The name that a Redfish agent gives itself, and puts into its uid. -/
def RedfishAgent.myAgentName : String := "RedfishAgent"

/-- The uid of a Redfish agent, which has the name of the agent in the middle. -/
def RedfishAgent.myAgent_uid (node : String) (draw : ℕ) : String :=
  node ++ RedfishAgent.myAgentName ++ toString draw

/-- The registration data of a simulator, of which only the uid is its own. -/
def IBswitchSimulator.myRegistrationData (myAgent_uid : String) : RegisterRequest where
  uid := myAgent_uid
  name := "IBSwitchSimulator"
  type := "simulatorAgent"
  description := "This is a fine description"
  useSensorTemplate := false

/-- The registration data of a Redfish agent, of which only the uid is its own. -/
def RedfishAgent.myRegistrationData (myAgent_uid : String) : RegisterRequest where
  uid := myAgent_uid
  name := RedfishAgent.myAgentName
  type := "redfishAgent"
  description := "This is a fine description"
  useSensorTemplate := false

namespace Started

/-- `self.myAgent_uid`, by the kind of the agent, from the name of its host and what it has
drawn. -/
def myAgent_uid (a : Started) : String :=
  match a.kind with
  | .IBswitchSimulator => IBswitchSimulator.myAgent_uid a.node a.draw
  | .RedfishAgent => RedfishAgent.myAgent_uid a.node a.draw

/-- `self.myRegistrationData`, by the kind of the agent, with the uid in it. -/
def myRegistrationData (a : Started) : RegisterRequest :=
  match a.kind with
  | .IBswitchSimulator => IBswitchSimulator.myRegistrationData a.myAgent_uid
  | .RedfishAgent => RedfishAgent.myRegistrationData a.myAgent_uid

/-- The topic on which the agent publishes its registration request. -/
def requestTopic (a : Started) : String := "agent-registration/" ++ a.myAgent_uid ++ "/request"

/-- The topic that the agent subscribes to for the answer.  It is made of the uid, which is all
there is. -/
def responseTopic (a : Started) : String := "agent-registration/" ++ a.myAgent_uid ++ "/response"

/-- `mqtt_init` is called with the uid, and makes the client with `str(client_uid)`. -/
def clientId (a : Started) : String := a.myAgent_uid

lemma uid_myRegistrationData (a : Started) : a.myRegistrationData.uid = a.myAgent_uid := by
  rw [myRegistrationData]
  cases a.kind <;> rfl

end Started

/-! ## Digits -/

lemma isDigit_of_mem_toString {n : ℕ} {c : Char} (h : c ∈ (toString n).toList) : c.isDigit := by
  have hrepr : (toString n).toList = Nat.toDigits 10 n := Nat.toList_repr
  exact Nat.isDigit_of_mem_toDigits (by decide) (by decide) (hrepr ▸ h)

/-- Where two texts are cut differently, one of the cuts comes first. -/
lemma append_eq_append_iff {s t d e : String} : s ++ d = t ++ e ↔
    (∃ p, t = s ++ p ∧ d = p ++ e) ∨ ∃ p, s = t ++ p ∧ e = p ++ d := by
  constructor
  · intro h
    have hchars := congrArg String.toList h
    rw [String.toList_append, String.toList_append, List.append_eq_append_iff] at hchars
    rcases hchars with ⟨p, ht, hd⟩ | ⟨p, hs, he⟩
    · exact Or.inl ⟨String.ofList p, String.toList_injective (by simpa using ht),
        String.toList_injective (by simpa using hd)⟩
    · exact Or.inr ⟨String.ofList p, String.toList_injective (by simpa using hs),
        String.toList_injective (by simpa using he)⟩
  · rintro (⟨p, rfl, rfl⟩ | ⟨p, rfl, rfl⟩)
    · exact String.append_assoc.symm
    · exact String.append_assoc

/-- A text that ends in the name of the agent does not end in digits. -/
lemma myAgentName_ends {n s p : String} (hp : ∀ c ∈ p.toList, c.isDigit)
    (h : n ++ RedfishAgent.myAgentName = s ++ p) : p = "" := by
  have hlast := congrArg (fun t => t.toList.getLast?) h
  simp only [String.toList_append, List.getLast?_append] at hlast
  cases hq : p.toList.getLast? with
  | none => exact String.toList_injective (List.getLast?_eq_none_iff.mp hq)
  | some c =>
      have hname : RedfishAgent.myAgentName.toList.getLast? = some 't' := by decide
      rw [hname, hq] at hlast
      obtain rfl : 't' = c := Option.some.inj hlast
      exact absurd (hp _ (List.mem_of_getLast? hq)) (by decide)

/-! ## Two agents with one uid -/

namespace Started

/-- The simulator `a` is on a host whose name goes on where the uid of `b` has digits: it is the
name of the host of `b`, with `RedfishAgent` after it if `b` is a Redfish agent, and then the
leading digits of what `b` has drawn, the rest of which `a` has drawn. -/
def Borrows (a b : Started) : Prop :=
  match a.kind, b.kind with
  | .IBswitchSimulator, .IBswitchSimulator =>
      ∃ p, p ≠ "" ∧ a.node = b.node ++ p ∧ toString b.draw = p ++ toString a.draw
  | .IBswitchSimulator, .RedfishAgent =>
      ∃ p, a.node = b.node ++ RedfishAgent.myAgentName ++ p ∧
        toString b.draw = p ++ toString a.draw
  | .RedfishAgent, _ => False

/-- The name of a host does not borrow from itself. -/
lemma Borrows.node_ne {a b : Started} (h : a.Borrows b) : a.node ≠ b.node := by
  intro hnode
  rw [Borrows, hnode] at h
  cases ha : a.kind with
  | IBswitchSimulator =>
      cases hb : b.kind with
      | IBswitchSimulator =>
          rw [ha, hb] at h
          obtain ⟨p, hp, hn, -⟩ := h
          exact hp (String.append_eq_left_iff.mp hn.symm)
      | RedfishAgent =>
          rw [ha, hb] at h
          obtain ⟨p, hn, -⟩ := h
          rw [String.append_assoc] at hn
          have hempty := String.append_eq_left_iff.mp hn.symm
          exact absurd (String.append_eq_empty_iff.mp hempty).1 (by decide)
  | RedfishAgent =>
      rw [ha] at h
      exact h

/-- The digits of one draw that come first in another. -/
lemma digits_of_draw {p : String} {m n : ℕ} (h : toString m = p ++ toString n) :
    ∀ c ∈ p.toList, c.isDigit := by
  intro c hc
  refine isDigit_of_mem_toString (n := m) ?_
  rw [h, String.toList_append]
  exact List.mem_append_left _ hc

/-- A Redfish agent and a simulator. -/
lemma redfish_uid_eq_iff {n n' : String} {d d' : ℕ} :
    RedfishAgent.myAgent_uid n d = IBswitchSimulator.myAgent_uid n' d' ↔
      ∃ p, n' = n ++ RedfishAgent.myAgentName ++ p ∧ toString d = p ++ toString d' := by
  rw [RedfishAgent.myAgent_uid, IBswitchSimulator.myAgent_uid, append_eq_append_iff]
  constructor
  · rintro (h | ⟨p, hn, hd⟩)
    · exact h
    · obtain rfl := myAgentName_ends (digits_of_draw hd) hn
      exact ⟨"", by simpa using hn.symm, by simpa using hd.symm⟩
  · exact Or.inl

/-- **When two agents have one uid**: on hosts with different names, just when one name goes on with
digits that the other agent has drawn. -/
theorem uid_eq_iff {a b : Started} (hne : a.node ≠ b.node) :
    a.myAgent_uid = b.myAgent_uid ↔ a.Borrows b ∨ b.Borrows a := by
  rw [myAgent_uid, myAgent_uid, Borrows, Borrows]
  cases a.kind with
  | IBswitchSimulator =>
      cases b.kind with
      | IBswitchSimulator =>
          simp only [IBswitchSimulator.myAgent_uid, append_eq_append_iff]
          constructor
          · rintro (⟨p, hn, hd⟩ | ⟨p, hn, hd⟩)
            · exact Or.inr ⟨p, fun hp => hne (by simpa [hp] using hn.symm), hn, hd⟩
            · exact Or.inl ⟨p, fun hp => hne (by simpa [hp] using hn), hn, hd⟩
          · rintro (⟨p, -, hn, hd⟩ | ⟨p, -, hn, hd⟩)
            · exact Or.inr ⟨p, hn, hd⟩
            · exact Or.inl ⟨p, hn, hd⟩
      | RedfishAgent =>
          simp only [or_false]
          exact eq_comm.trans redfish_uid_eq_iff
  | RedfishAgent =>
      cases b.kind with
      | IBswitchSimulator =>
          simp only [false_or]
          exact redfish_uid_eq_iff
      | RedfishAgent =>
          simp only [or_false, iff_false]
          intro h
          rw [RedfishAgent.myAgent_uid, RedfishAgent.myAgent_uid, append_eq_append_iff] at h
          -- the digits of a draw do not reach into the name of the agent
          rcases h with ⟨p, hn, hd⟩ | ⟨p, hn, hd⟩
          · obtain rfl := myAgentName_ends (digits_of_draw hd) hn
            rw [String.append_empty, String.append_left_inj] at hn
            exact hne hn.symm
          · obtain rfl := myAgentName_ends (digits_of_draw hd) hn
            rw [String.append_empty, String.append_left_inj] at hn
            exact hne hn

/-! ## Topics and client ids -/

variable {a b : Started}

lemma requestTopic_inj : a.requestTopic = b.requestTopic ↔ a.myAgent_uid = b.myAgent_uid :=
  (String.append_left_inj _).trans (String.append_right_inj _)

lemma responseTopic_inj : a.responseTopic = b.responseTopic ↔ a.myAgent_uid = b.myAgent_uid :=
  (String.append_left_inj _).trans (String.append_right_inj _)

/-- The framework publishes the response where the agent expects it. -/
lemma getRegistrationResponseTopic_uid (a : Started) :
    getRegistrationResponseTopic a.myAgent_uid = a.responseTopic := by
  have h : "agent-registration" ++ "/" = "agent-registration/" := by decide +kernel
  exact congrArg (fun s => s ++ a.myAgent_uid ++ "/response") h

/-- The uid is one level of a topic. -/
lemma slash_not_mem_uid (a : Started) : '/' ∉ a.myAgent_uid.toList := by
  have hdraw : '/' ∉ (toString a.draw).toList := fun h =>
    absurd (isDigit_of_mem_toString h) (by decide)
  have hname : '/' ∉ RedfishAgent.myAgentName.toList := by decide
  rw [myAgent_uid]
  cases a.kind with
  | IBswitchSimulator =>
      simp only [IBswitchSimulator.myAgent_uid, String.toList_append, List.mem_append, not_or]
      exact ⟨a.node_level, hdraw⟩
  | RedfishAgent =>
      simp only [RedfishAgent.myAgent_uid, String.toList_append, List.mem_append, not_or]
      exact ⟨⟨a.node_level, hname⟩, hdraw⟩

/-- It ends in a digit, so it is no wildcard. -/
lemma plain_uid (a : Started) : Topics.Plain a.myAgent_uid.toList := by
  have hends : ∃ s, a.myAgent_uid = s ++ toString a.draw := by
    rw [myAgent_uid]
    cases a.kind with
    | IBswitchSimulator => exact ⟨_, rfl⟩
    | RedfishAgent => exact ⟨_, rfl⟩
  obtain ⟨s, hs⟩ := hends
  have hwild : ∀ c, a.myAgent_uid.toList = [c] → c.isDigit := by
    intro c hc
    have hdigits : (toString a.draw).toList = Nat.toDigits 10 a.draw := Nat.toList_repr
    obtain ⟨d, hd⟩ := List.exists_mem_of_ne_nil _ (hdigits ▸ Nat.toDigits_ne_nil)
    have hdc : d ∈ [c] := by
      rw [← hc, hs, String.toList_append]
      exact List.mem_append_right _ hd
    exact List.mem_singleton.mp hdc ▸ isDigit_of_mem_toString hd
  exact ⟨fun h => absurd (hwild _ h) (by decide), fun h => absurd (hwild _ h) (by decide)⟩

/-- The levels of the topic that the agent subscribes to. -/
lemma levels_responseTopic (a : Started) : Topics.levels a.responseTopic
    = ["agent-registration".toList, a.myAgent_uid.toList, "response".toList] := by
  have hhead : "agent-registration/" = "agent-registration" ++ "/" := by decide +kernel
  have htail : "/response" = "/" ++ "response" := by decide +kernel
  have hparts : a.responseTopic
      = "agent-registration" ++ "/" ++ (a.myAgent_uid ++ "/" ++ "response") :=
    calc a.responseTopic
        = "agent-registration" ++ "/" ++ a.myAgent_uid ++ ("/" ++ "response") :=
          congrArg₂ (fun s t => s ++ a.myAgent_uid ++ t) hhead htail
      _ = "agent-registration" ++ "/" ++ (a.myAgent_uid ++ "/" ++ "response") := by
          simp only [String.append_assoc]
  rw [hparts, Topics.levels_append (by decide), Topics.levels_append a.slash_not_mem_uid,
    Topics.levels_of_not_mem (by decide)]

/-- **The subscription of an agent** is to its own registration response topic and no other. -/
theorem matches_responseTopic (a : Started) (topic : String) :
    Topics.matchesTopic a.responseTopic topic = true ↔ a.responseTopic = topic := by
  refine Topics.matches_iff_eq fun f hf => ?_
  rw [levels_responseTopic] at hf
  simp only [List.mem_cons, List.not_mem_nil, or_false] at hf
  rcases hf with rfl | rfl | rfl
  · exact ⟨by decide, by decide⟩
  · exact a.plain_uid
  · exact ⟨by decide, by decide⟩

end Started

end KrakenMare
