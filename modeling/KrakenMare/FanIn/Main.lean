import KrakenMare.FanIn.FanIn
import Mathlib.Data.List.Basic

/-!
# The processes that `main` starts

`main` of `fanin/FanIn.py` and the constructor of `FanIn`.  A topic and its QoS come as one string,
`ibswitch/0:0`, from the configuration or put together by `main`, and are taken apart at the colon.
`--numberOfTopic` above 1 makes a process for each subtopic, and without it there is one process,
on a topic of its own in the configuration.

The model of one process, `FanIn`, is made in its first state by `FanIn.start`.  What is said here
is that these are the processes that run: `init` is the constructor, as far as topics and options
go, and it can raise on a string without a colon or with a QoS that is no number.  `main` lists the
processes, with `none` for one that has died so.

* `topicAndQos_append` — what has been put together is taken apart again, if the topic has no
  colon.
* `main_eq` — **under a sound configuration the processes are those of the subtopics from 0 on**,
  as many as the option says, and at least one.

A configuration is sound when the topic for the single process is the first of the subtopics, as it
is in the configuration files of the repository.  Python's `int` is a parameter.

Left out: the other options and settings, and the constructor of `AgentCommon`.
-/

namespace KrakenMare

/-- The topics in section `MQTT` of `FanIn.cfg`, as texts; the other sections are addresses and
options. -/
structure FanInConfig where
  mqttSingleThreadTopic : String
  mqttRegistrayionResultTopic : String
  mqttMultiProcessRootTopic : String
  mqttMultiProcessTopicQOS : String

/-- The options of the command line that the processes depend on. -/
structure FanInOptions where
  numberOfTopic : Option String
  batching : Bool
  checkmqtt : Bool
  mqttPassthrough : Bool

/-- A process after its constructor, with the topics that it will subscribe to. -/
structure Launched (Bytes : Type) where
  mqttTopicList : List (String × ℤ)
  self : FanIn Bytes
deriving DecidableEq

namespace FanIn

variable {Bytes : Type}

section
variable (int : String → Option ℤ)

/-- `value = s.split(":")`, then `value[0]` and `int(value[1])`; `none` where one of them raises.
The built-in `int` is a parameter. -/
def topicAndQos (s : String) : Option (String × ℤ) :=
  match s.toList.splitOn ':' with
  | topic :: qos :: _ => (int (String.ofList qos)).map (String.ofList topic, ·)
  | _ => none

/-- The constructor; an exception ends the process before it has subscribed to anything. -/
def init (config : FanInConfig) (options : FanInOptions) (TopicForThisProcess : Option String) :
    Option (Launched Bytes) := do
  let first ← topicAndQos int (TopicForThisProcess.getD config.mqttSingleThreadTopic)
  let result ← topicAndQos int config.mqttRegistrayionResultTopic
  some ⟨[first, result],
    start first.1 options.batching options.checkmqtt options.mqttPassthrough⟩

/-- `topics_list`, one topic with its QoS for each process that `main` starts. -/
def topicsList (config : FanInConfig) (numberOfMqttTopics : ℤ) : List String :=
  (List.range numberOfMqttTopics.toNat).map fun i =>
    config.mqttMultiProcessRootTopic ++ "/" ++ toString i ++ ":" ++ config.mqttMultiProcessTopicQOS

/-- The option as a number, and 1 if it is not given, or empty. -/
def numberOfMqttTopics (options : FanInOptions) : Option ℤ :=
  match options.numberOfTopic with
  | some s => if s = "" then some 1 else int s
  | none => some 1

/-- `main`: the processes, and `none` for one that has died in its constructor. -/
def main (config : FanInConfig) (options : FanInOptions) : List (Option (Launched Bytes)) :=
  match numberOfMqttTopics int options with
  | none => []
  | some n =>
      if n > 1 then (topicsList config n).map fun topic => init int config options (some topic)
      else [init int config options none]

variable {int}

lemma topicAndQos_append {topic qos : String} (htopic : ':' ∉ topic.toList)
    (hqos : ':' ∉ qos.toList) :
    topicAndQos int (topic ++ ":" ++ qos) = (int qos).map (topic, ·) := by
  have hcolon : ":".toList = [':'] := rfl
  have hsplit : (topic ++ ":" ++ qos).toList.splitOn ':' = [topic.toList, qos.toList] := by
    rw [String.toList_append, String.toList_append, hcolon, List.append_assoc]
    exact (List.splitOn_append_cons_self_of_not_mem htopic _).trans
      (congrArg _ (List.splitOn_eq_singleton hqos))
  rw [topicAndQos, hsplit]
  simp

end

/-! ## A sound configuration -/

/-- `s` is a topic and its QoS, with one colon between them. -/
def TopicWithQos (int : String → Option ℤ) (s topic : String) : Prop :=
  ∃ qos, s = topic ++ ":" ++ qos ∧ ':' ∉ topic.toList ∧ ':' ∉ qos.toList ∧ (int qos).isSome

/-- The single process has the first of the subtopics, and each topic has a QoS that `int` can read;
the shipped file is like this. -/
structure SoundConfig (int : String → Option ℤ) (config : FanInConfig) : Prop where
  root : ':' ∉ config.mqttMultiProcessRootTopic.toList
  qos : ':' ∉ config.mqttMultiProcessTopicQOS.toList
  int_qos : (int config.mqttMultiProcessTopicQOS).isSome
  single : TopicWithQos int config.mqttSingleThreadTopic
    (subtopic config.mqttMultiProcessRootTopic 0)
  result : ∃ topic, TopicWithQos int config.mqttRegistrayionResultTopic topic

variable {int : String → Option ℤ} {config : FanInConfig} {options : FanInOptions}

lemma TopicWithQos.parts {s topic : String} (h : TopicWithQos int s topic) :
    ∃ q, topicAndQos int s = some (topic, q) := by
  obtain ⟨qos, rfl, htopic, hqos, hint⟩ := h
  obtain ⟨q, hq⟩ := Option.isSome_iff_exists.mp hint
  exact ⟨q, by rw [topicAndQos_append htopic hqos, hq, Option.map_some]⟩

lemma colon_not_mem_subtopic {root : String} (hroot : ':' ∉ root.toList) (i : ℕ) :
    ':' ∉ (subtopic root i).toList := by
  have hslash : "/".toList = ['/'] := rfl
  have hdigits : (toString i).toList = Nat.toDigits 10 i := Nat.toList_repr
  rw [subtopic, String.toList_append, String.toList_append, hslash, hdigits]
  simp only [List.mem_append, List.mem_singleton, not_or]
  refine ⟨⟨hroot, by decide⟩, fun hcolon => ?_⟩
  have hdigit := Nat.isDigit_of_mem_toDigits (by decide) (by decide) hcolon
  exact absurd hdigit (by decide)

/-- **What `main` starts**: one process for each of the subtopics from 0 on, as many as the option
says, and at least one. -/
theorem main_eq (h : SoundConfig int config) {n : ℤ} (hn : numberOfMqttTopics int options = some n) :
    ∃ q result, (main int config options : List (Option (Launched Bytes)))
      = (List.range (max 1 n.toNat)).map fun i =>
        some ⟨[(subtopic config.mqttMultiProcessRootTopic i, q), result],
          processes config.mqttMultiProcessRootTopic options.batching options.checkmqtt
            options.mqttPassthrough i⟩ := by
  obtain ⟨result, hresult⟩ := h.result
  obtain ⟨q₂, hresult⟩ := hresult.parts
  rw [main, hn]
  dsimp only
  split_ifs with hmulti
  · obtain ⟨q, hq⟩ := Option.isSome_iff_exists.mp h.int_qos
    refine ⟨q, (result, q₂), ?_⟩
    rw [topicsList, List.map_map, max_eq_right (by omega)]
    refine List.map_congr_left fun i _ => ?_
    have hparts : topicAndQos int (subtopic config.mqttMultiProcessRootTopic i ++ ":"
        ++ config.mqttMultiProcessTopicQOS) = some (_, q) :=
      (topicAndQos_append (colon_not_mem_subtopic h.root i) h.qos).trans (by rw [hq]; rfl)
    show init int config options (some (subtopic config.mqttMultiProcessRootTopic i ++ ":"
      ++ config.mqttMultiProcessTopicQOS)) = _
    rw [init, Option.getD_some, hparts, hresult]
    rfl
  · obtain ⟨q₁, hsingle⟩ := h.single.parts
    refine ⟨q₁, (result, q₂), ?_⟩
    rw [init, Option.getD_none, hsingle, hresult, max_eq_left (by omega)]
    rfl

end FanIn

end KrakenMare
