import KrakenMare.Lib.Dict

/-!
# `FrameworkMqttClient`: subscribers and the life of the client

`framework/src/main/java/com/hpe/krakenmare/impl/FrameworkMqttClient.java`.  The object keeps its
subscribers in a list.  `start` makes a client of the MQTT library and `stop` gives it up, while
the list stays.  The subscriptions and their listeners belong to the client: after the library has
connected it again by itself, `connectComplete` registers all of the list, but after a first
connection it registers nothing.

So a connection that is lost and found again costs no subscriber, and a framework that is stopped
and started has none, although all of them are still in its list.

**The invariant.**  `Kept` says that registering the list once more would restore every subscriber
that was added.  This is what a reconnection does, so it is enough to carry a run through the times
without a connection.

* `subscribers_survive` — **as long as no client is made after a subscriber was added**, and no
  filter is given to a second listener, every added subscriber is subscribed whenever there is a
  connection.
* `lost_by_start` — a client made later has none of them.
* `subscriber_lost_by_restart` — a framework that is stopped and started again.

A subscriber counts as added when `addSubscriber` has returned.  One that throws has its subscriber
in the list all the same, if there was a client.
-/

namespace KrakenMare

open Lib

variable {Listener : Type}

/-- `FrameworkMqttClient.Subscriber`; its `callback` only logs. -/
structure Subscriber (Listener : Type) where
  topicFilter : String
  messageListener : Listener
deriving DecidableEq

/-- A client object of the MQTT library.  It has one listener for each filter, the one given
last. -/
structure MqttAsyncClient (Listener : Type) where
  connected : Bool
  subscriptions : Dict String Listener
deriving DecidableEq

/-- `client.subscribe`; `none` where it throws, because there is no connection. -/
def MqttAsyncClient.subscribe (c : MqttAsyncClient Listener) (s : Subscriber Listener) :
    Option (MqttAsyncClient Listener) :=
  if c.connected then
    some { c with subscriptions := c.subscriptions.set s.topicFilter s.messageListener }
  else none

/-- The fields of the object: the list of subscribers, and the client of the library while there is
one. -/
structure FrameworkMqttClient (Listener : Type) where
  subscribers : List (Subscriber Listener)
  client : Option (MqttAsyncClient Listener)
deriving DecidableEq

namespace FrameworkMqttClient

/-- A `FrameworkMqttClient` just constructed: no subscriber, no client. -/
def new : FrameworkMqttClient Listener := ⟨[], none⟩

/-- `addSubscriber`, and whether it returns.  It throws without a client, and when the subscription
throws; by then the subscriber is in the list. -/
def addSubscriber (s : Subscriber Listener) (f : FrameworkMqttClient Listener) :
    FrameworkMqttClient Listener × Bool :=
  match f.client with
  | none => (f, false)
  | some c =>
      let f := { f with subscribers := f.subscribers ++ [s] }
      match c.subscribe s with
      | none => (f, false)
      | some c => ({ f with client := some c }, true)

/-- `connectComplete`; a subscription that throws is logged and passed over. -/
def connectComplete (reconnect : Bool) (subscribers : List (Subscriber Listener))
    (c : MqttAsyncClient Listener) : MqttAsyncClient Listener :=
  if reconnect then subscribers.foldl (fun c s => (c.subscribe s).getD c) c else c

/-- `start()`, which does nothing when there is a client.  The connection is a first one, so
`connectComplete` is called with `reconnect` false and none of the listed subscribers is
registered. -/
def start (f : FrameworkMqttClient Listener) : FrameworkMqttClient Listener :=
  match f.client with
  | some _ => f
  | none => { f with client := some (connectComplete false f.subscribers ⟨true, ∅⟩) }

/-- `disconnects` says whether `disconnect()` goes through on a client that has lost its connection;
if it throws, the client is kept. -/
def stop (disconnects : Bool) (f : FrameworkMqttClient Listener) : FrameworkMqttClient Listener :=
  match f.client with
  | none => f
  | some c => if c.connected ∨ disconnects then { f with client := none } else f

/-- The library loses the connection.  The client object is still there, and with it its
listeners. -/
def connectionLost (f : FrameworkMqttClient Listener) : FrameworkMqttClient Listener :=
  { f with client := f.client.map fun c => { c with connected := false } }

/-- The library has connected a client again, and calls back. -/
def reconnected (f : FrameworkMqttClient Listener) : FrameworkMqttClient Listener :=
  match f.client with
  | none => f
  | some c =>
      if c.connected then f
      else { f with client := some (connectComplete true f.subscribers { c with connected := true }) }

end FrameworkMqttClient

open FrameworkMqttClient

/-! ## Runs -/

/-- What happens to the object: its three methods are called, and the library loses the connection
or finds it again. -/
inductive ClientEvent (Listener : Type)
  | start
  | stop (disconnects : Bool)
  | addSubscriber (s : Subscriber Listener)
  | connectionLost
  | reconnected
deriving DecidableEq

/-- The object, and the subscribers given to an `addSubscriber` that returned. -/
structure ClientLife (Listener : Type) where
  framework : FrameworkMqttClient Listener
  granted : List (Subscriber Listener)
deriving DecidableEq

namespace ClientLife

/-- The object before the first event: it has no client yet, and nothing has been granted. -/
def new : ClientLife Listener := ⟨.new, []⟩

/-- One event.  A subscriber counts as granted if `addSubscriber` has returned without an
exception. -/
def step (x : ClientLife Listener) : ClientEvent Listener → ClientLife Listener
  | .start => { x with framework := x.framework.start }
  | .stop disconnects => { x with framework := x.framework.stop disconnects }
  | .addSubscriber s =>
      let r := x.framework.addSubscriber s
      ⟨r.1, if r.2 then x.granted ++ [s] else x.granted⟩
  | .connectionLost => { x with framework := x.framework.connectionLost }
  | .reconnected => { x with framework := x.framework.reconnected }

/-- The events one after the other, from the beginning, in any order. -/
def run (events : List (ClientEvent Listener)) : ClientLife Listener := events.foldl step new

/-- With a connection, every subscriber that was added is subscribed on the client, with its
listener. -/
def Survive (x : ClientLife Listener) : Prop :=
  ∀ c, x.framework.client = some c → c.connected = true →
    ∀ s ∈ x.granted, c.subscriptions.get? s.topicFilter = some s.messageListener

/-- A client is made only while no subscriber has been added, and no filter that has been added is
given to another listener. -/
def Orderly (x : ClientLife Listener) : ClientEvent Listener → Prop
  | .start => x.framework.client = none → x.granted = []
  | .addSubscriber s => x.framework.client ≠ none →
      ∀ s' ∈ x.granted, s'.topicFilter = s.topicFilter → s'.messageListener = s.messageListener
  | _ => True

instance instDecidableOrderly [DecidableEq Listener] (x : ClientLife Listener) :
    ∀ e : ClientEvent Listener, Decidable (Orderly x e)
  | .start => inferInstanceAs (Decidable (_ → _))
  | .addSubscriber _ => inferInstanceAs (Decidable (_ → _))
  | .stop _ | .connectionLost | .reconnected => inferInstanceAs (Decidable True)

/-- Every step of a run is orderly, the state before it being the one that the run has come to. -/
def OrderlyRun (events : List (ClientEvent Listener)) : Prop :=
  ∀ pre e, pre ++ [e] <+: events → Orderly (run pre) e

lemma orderlyRun_of_take {events : List (ClientEvent Listener)}
    (h : ∀ i (hi : i < events.length), Orderly (run (events.take i)) events[i]) :
    OrderlyRun events := by
  rintro pre e ⟨rest, rfl⟩
  simpa using h pre.length (by simp)

/-! ## What every orderly step keeps -/

/-- The listener table entries of a list of subscribers, in the order in which they were added. -/
def entries (subscribers : List (Subscriber Listener)) : List (String × Listener) :=
  subscribers.map fun s => (s.topicFilter, s.messageListener)

/-- What registering a list of subscribers one after the other leaves in the listener table. -/
def registered (subscribers : List (Subscriber Listener)) : Dict String Listener :=
  Dict.ofEntries (entries subscribers)

/-- Registering the list again would restore every added subscriber. -/
structure Kept (x : ClientLife Listener) : Prop where
  listed : ∀ s ∈ x.granted,
    (registered x.framework.subscribers).get? s.topicFilter = some s.messageListener
  subscribed : x.Survive

variable {x : ClientLife Listener}

lemma registered_concat (subscribers : List (Subscriber Listener)) (s : Subscriber Listener)
    (filter : String) : (registered (subscribers ++ [s])).get? filter
      = if filter = s.topicFilter then some s.messageListener
        else (registered subscribers).get? filter := by
  rw [registered, entries, List.map_append]
  exact Dict.get?_ofEntries_concat _ _ filter

/-! ### The functions, by what state they find -/

lemma addSubscriber_none {f : FrameworkMqttClient Listener} (h : f.client = none)
    (s : Subscriber Listener) : f.addSubscriber s = (f, false) := by
  rw [FrameworkMqttClient.addSubscriber, h]

lemma addSubscriber_disconnected {f : FrameworkMqttClient Listener} {c : MqttAsyncClient Listener}
    (h : f.client = some c) (hc : c.connected = false) (s : Subscriber Listener) :
    f.addSubscriber s = (⟨f.subscribers ++ [s], some c⟩, false) := by
  rw [FrameworkMqttClient.addSubscriber, h]
  simp only [MqttAsyncClient.subscribe, hc, Bool.false_eq_true, if_false]

lemma addSubscriber_connected {f : FrameworkMqttClient Listener} {c : MqttAsyncClient Listener}
    (h : f.client = some c) (hc : c.connected = true) (s : Subscriber Listener) :
    f.addSubscriber s = (⟨f.subscribers ++ [s],
      some ⟨true, c.subscriptions.set s.topicFilter s.messageListener⟩⟩, true) := by
  rw [FrameworkMqttClient.addSubscriber, h]
  simp only [MqttAsyncClient.subscribe, hc, if_true]

/-- A connected client takes every subscription. -/
lemma connectComplete_connected (subscribers : List (Subscriber Listener)) :
    ∀ table : Dict String Listener, connectComplete true subscribers ⟨true, table⟩
      = ⟨true, (entries subscribers).foldl (fun d e => d.set e.1 e.2) table⟩ := by
  induction subscribers with
  | nil => exact fun _ => rfl
  | cons s subscribers ih => exact fun table => ih (table.set s.topicFilter s.messageListener)

lemma kept_new : Kept (new : ClientLife Listener) where
  listed := fun _ h => absurd h List.not_mem_nil
  subscribed := fun _ h => absurd h (by simp [new, FrameworkMqttClient.new])

/-- The same subscribers, and no client, or one without a connection. -/
lemma Kept.of_silent (h : Kept x) {f : FrameworkMqttClient Listener}
    (hlist : f.subscribers = x.framework.subscribers)
    (hsilent : ∀ c, f.client = some c → c.connected = false) : Kept { x with framework := f } where
  listed := by
    rw [hlist]
    exact h.listed
  subscribed := by
    intro c hc hconnected
    rw [hsilent c hc] at hconnected
    exact absurd hconnected (by simp)

/-- A client that is made has no listeners, which does no harm while nothing has been granted. -/
lemma Kept.start (h : Kept x) (hfresh : x.framework.client = none → x.granted = []) :
    Kept (x.step .start) := by
  cases hc : x.framework.client with
  | some c =>
      have hsame : x.step .start = x := by simp only [step, FrameworkMqttClient.start, hc]
      rwa [hsame]
  | none =>
      have hnone : (x.step .start).granted = [] := hfresh hc
      constructor
      · rw [hnone]
        exact fun _ hs => absurd hs List.not_mem_nil
      · rw [Survive, hnone]
        exact fun _ _ _ _ hs => absurd hs List.not_mem_nil

lemma Kept.stop (h : Kept x) (disconnects : Bool) : Kept (x.step (.stop disconnects)) := by
  simp only [step, FrameworkMqttClient.stop]
  cases hc : x.framework.client with
  | none => exact h
  | some c =>
      dsimp only
      split_ifs
      · exact h.of_silent rfl fun _ hnone => absurd hnone (by simp)
      · exact h

/-- A subscriber that is added last is restored last, so it is the others that have to agree with
it. -/
lemma Kept.addSubscriber (h : Kept x) {s : Subscriber Listener}
    (horderly : x.framework.client ≠ none → ∀ s' ∈ x.granted,
      s'.topicFilter = s.topicFilter → s'.messageListener = s.messageListener) :
    Kept (x.step (.addSubscriber s)) := by
  rw [step]
  cases hc : x.framework.client with
  | none =>
      rw [addSubscriber_none hc]
      exact h
  | some c =>
      have hsame := horderly (by simp [hc])
      -- the new subscriber at the end of the list hides none of the old ones
      have hold : ∀ s' ∈ x.granted, (registered (x.framework.subscribers ++ [s])).get?
          s'.topicFilter = some s'.messageListener := by
        intro s' hs'
        rw [registered_concat]
        split_ifs with hfilter
        · rw [hsame s' hs' hfilter]
        · exact h.listed s' hs'
      cases hconnected : c.connected with
      | false =>
          rw [addSubscriber_disconnected hc hconnected]
          refine ⟨hold, fun c' hc' hlive => ?_⟩
          rw [← Option.some.inj hc', hconnected] at hlive
          exact absurd hlive (by simp)
      | true =>
          rw [addSubscriber_connected hc hconnected]
          constructor
          · intro s' hs'
            rcases List.mem_append.mp hs' with hs' | hs'
            · exact hold s' hs'
            · rw [List.mem_singleton.mp hs', registered_concat, if_pos rfl]
          · intro c' hc' _ s' hs'
            obtain rfl := Option.some.inj hc'
            rw [Dict.get?_set]
            rcases List.mem_append.mp hs' with hs' | hs'
            · split_ifs with hfilter
              · rw [hsame s' hs' hfilter]
              · exact h.subscribed c hc hconnected s' hs'
            · rw [List.mem_singleton.mp hs', if_pos rfl]

/-- The list is registered again, and with it every subscriber that was granted. -/
lemma Kept.reconnected (h : Kept x) : Kept (x.step .reconnected) := by
  rw [step, FrameworkMqttClient.reconnected]
  cases hc : x.framework.client with
  | none => exact h
  | some c =>
      dsimp only
      split_ifs
      · exact h
      · refine ⟨h.listed, fun c' hc' _ s hs => ?_⟩
        rw [connectComplete_connected] at hc'
        obtain rfl := Option.some.inj hc'
        exact Dict.get?_foldl_set_of_ofEntries _ (h.listed s hs)

/-- **The step.**  Each event that is orderly keeps what can be restored: registering the list again
would bring back every granted subscriber, and a client with a connection has all of them. -/
theorem Kept.step (h : Kept x) : ∀ {e : ClientEvent Listener}, Orderly x e → Kept (x.step e)
  | .start, horderly => h.start horderly
  | .stop disconnects, _ => h.stop disconnects
  | .addSubscriber _, horderly => h.addSubscriber horderly
  | .connectionLost, _ => h.of_silent rfl fun c hc => by
      obtain ⟨_, -, rfl⟩ := Option.map_eq_some_iff.mp hc
      rfl
  | .reconnected, _ => h.reconnected

lemma run_concat (events : List (ClientEvent Listener)) (e : ClientEvent Listener) :
    run (events ++ [e]) = (run events).step e := by
  rw [run, List.foldl_append]
  rfl

/-- Every orderly run keeps the subscribers in the list, and on the client while there is a
connection. -/
theorem kept_run (events : List (ClientEvent Listener)) :
    OrderlyRun events → Kept (run events) := by
  induction events using List.reverseRecOn with
  | nil => exact fun _ => kept_new
  | append_singleton events e ih =>
      intro h
      rw [run_concat]
      refine (ih fun pre e' hpre => h pre e' (hpre.trans (List.prefix_append _ _))).step ?_
      exact h events e (List.prefix_refl _)

/-- **Subscribers survive** every run whose steps are orderly, in all the states it reaches. -/
theorem subscribers_survive (events : List (ClientEvent Listener)) (h : OrderlyRun events) :
    ∀ pre, pre <+: events → (run pre).Survive := fun pre hpre =>
  (kept_run pre fun pre' e hpre' => h pre' e (hpre'.trans hpre)).subscribed

/-- A subscriber outlives a lost connection, and an attempt to stop the client meanwhile, which
throws and so keeps the client; the second `start` finds it and does nothing. -/
theorem subscribers_survive_reconnection :
    let registration : Subscriber String := ⟨"agent-registration/+/request", "registration"⟩
    let events : List (ClientEvent String) :=
      [.start, .addSubscriber registration, .connectionLost, .stop false, .reconnected, .start]
    (run events).granted = [registration] ∧ ∀ pre, pre <+: events → (run pre).Survive := by
  intro registration events
  exact ⟨by decide, subscribers_survive events (orderlyRun_of_take (by decide))⟩

/-- **A client made later** has none of the subscribers added before: it is a new object, and what
`start` does not repeat is gone. -/
theorem lost_by_start (hclient : x.framework.client = none) (hgranted : x.granted ≠ []) :
    ¬ (x.step .start).Survive := by
  intro h
  obtain ⟨s, granted, hs⟩ := List.exists_cons_of_ne_nil hgranted
  have hstart : (x.step .start).framework.client = some ⟨true, ∅⟩ := by
    simp [step, FrameworkMqttClient.start, hclient, connectComplete]
  have hmem : s ∈ (x.step .start).granted := by
    show s ∈ x.granted
    rw [hs]
    exact List.mem_cons_self
  have hnone := h _ hstart rfl s hmem
  rw [Dict.get?_empty] at hnone
  exact absurd hnone (by simp)

/-- A framework that is stopped and started again: the second client is connected, and no request
reaches the listener. -/
theorem subscriber_lost_by_restart :
    let registration : Subscriber String := ⟨"agent-registration/+/request", "registration"⟩
    let events : List (ClientEvent String) :=
      [.start, .addSubscriber registration, .stop true, .start]
    (run events).granted = [registration] ∧
      (run events).framework = ⟨[registration], some ⟨true, ∅⟩⟩ ∧ ¬ (run events).Survive := by
  intro registration events
  refine ⟨by decide, by decide, fun h => ?_⟩
  exact absurd (h ⟨true, ∅⟩ (by decide) rfl registration (by decide)) (by decide)

end ClientLife

end KrakenMare
