import Mathlib.Data.List.Induction
import Mathlib.Logic.Function.Basic

/-!
# Senders, receivers and the messages between them

Senders act on their own state and leave an ever longer list of messages; every receiver has its
own queue for each sender.  A scheduler decides who moves: a sender acts, the oldest message of a
queue is delivered, or it is lost.  Nothing else is assumed, so a statement about `run` over all
lists of actions is one about every interleaving.

**The parts.**  A `Spec` says what the senders and receivers do and which messages reach which
receiver; its one law is that what has been sent is not taken back.  A `State` has besides the
states of both sides the messages in flight and, for each queue, those already taken out with their
fate.  A receiver that is handed messages of several senders gets them in some order, and only the
order among the messages of one sender is that of sending.

* `Wired` — the relation between senders, queues and receivers: every queue, together with what was
  taken out of it, is what the sender sent that way, and every receiver stands where the messages
  delivered to it take it.
* `wired_run` — **`Wired` holds after every run.**

From `Wired` a statement about a whole run becomes one about the list of messages that a receiver
was handed, which is a fold, and about the sublists of it that come from one sender.
-/

namespace Lib

namespace Network

/-- What became of a message that is no longer in flight: it has been handled, or nobody will see
it. -/
inductive Fate
  | received
  | lost
deriving DecidableEq

/-- Senders `ι` with states `A`, receivers `κ` with states `B`, messages `M`. -/
structure Spec (ι κ Call A B M : Type) where
  perform : ι → Call → A → A
  /-- all a sender has sent, oldest first -/
  sent : A → List M
  sent_perform : ∀ i c a, sent a <+: sent (perform i c a)
  accepts : κ → M → Bool
  handle : κ → M → B → B

/-- The state of the whole network: both sides, and between each two of them a queue and its
past. -/
structure State (ι κ A B M : Type) where
  sender : ι → A
  inFlight : ι → κ → List M
  /-- the messages taken out of the queue so far, oldest first -/
  settled : ι → κ → List (M × Fate)
  receiver : κ → B

/-- What a scheduler may do: let a sender act, deliver the oldest message of a queue, or lose it. -/
inductive Action (ι κ Call : Type)
  | perform (i : ι) (c : Call)
  | deliver (i : ι) (k : κ)
  | lose (i : ι) (k : κ)
deriving DecidableEq

/-- The call that an action lets sender `i` make, if it is one of that sender. -/
def Action.call? {ι κ Call : Type} [DecidableEq ι] (i : ι) : Action ι κ Call → Option Call
  | perform j c => if j = i then some c else none
  | _ => none

/-- The calls sender `i` makes in a run, in order; deliveries and losses are not among them. -/
def callsOf {ι κ Call : Type} [DecidableEq ι] (i : ι) (acts : List (Action ι κ Call)) :
    List Call := acts.filterMap (Action.call? i)

/-- A run that loses no message.  Some may still be in flight at its end. -/
def Lossless {ι κ Call : Type} (acts : List (Action ι κ Call)) : Prop :=
  ∀ i k, Action.lose i k ∉ acts

variable {ι κ Call A B M : Type}

/-- The network before the first action: nothing is in flight. -/
def State.start (a : ι → A) (b : κ → B) : State ι κ A B M where
  sender := a
  inFlight := fun _ _ => []
  settled := fun _ _ => []
  receiver := b

variable [DecidableEq ι] [DecidableEq κ] (N : Spec ι κ Call A B M)

/-- Take the oldest message of a queue out of it.  A received one is handled at once, and a lost one
is not. -/
def settle (w : State ι κ A B M) (i : ι) (k : κ) (fate : Fate) : State ι κ A B M :=
  match w.inFlight i k with
  | [] => w
  | m :: ms =>
      { w with
        inFlight := Function.update w.inFlight i (Function.update (w.inFlight i) k ms)
        settled := Function.update w.settled i
          (Function.update (w.settled i) k (w.settled i k ++ [(m, fate)]))
        receiver := match fate with
          | .received => Function.update w.receiver k (N.handle k m (w.receiver k))
          | .lost => w.receiver }

/-- A sender acts; what it newly sent is put into the queues. -/
def act (w : State ι κ A B M) (i : ι) (c : Call) : State ι κ A B M :=
  let a := N.perform i c (w.sender i)
  let new := (N.sent a).drop (N.sent (w.sender i)).length
  { w with
    sender := Function.update w.sender i a
    inFlight := Function.update w.inFlight i fun k => w.inFlight i k ++ new.filter (N.accepts k) }

/-- One action of the scheduler, which picks a sender, or a queue whose oldest message it
settles. -/
def step (w : State ι κ A B M) : Action ι κ Call → State ι κ A B M
  | .perform i c => act N w i c
  | .deliver i k => settle N w i k .received
  | .lose i k => settle N w i k .lost

/-- A run: the actions one after the other, in whatever order the scheduler picks them. -/
def run (w : State ι κ A B M) (acts : List (Action ι κ Call)) : State ι κ A B M :=
  acts.foldl (step N) w

/-! ## What holds after every run -/

/-- The messages of a queue that were delivered, oldest first. -/
def delivered (l : List (M × Fate)) : List M :=
  (l.filter fun x => x.2 = .received).map Prod.fst

/-- `log k` is what receiver `k` was handed, each message with its sender. -/
structure Wired (a : ι → A) (b : κ → B) (acts : List (Action ι κ Call)) (w : State ι κ A B M)
    (log : κ → List (ι × M)) : Prop where
  senders : ∀ i, w.sender i = (callsOf i acts).foldl (fun a c => N.perform i c a) (a i)
  queues : ∀ i k, (w.settled i k).map Prod.fst ++ w.inFlight i k
    = (N.sent (w.sender i)).filter (N.accepts k)
  receivers : ∀ k, w.receiver k = ((log k).map Prod.snd).foldl (fun b m => N.handle k m b) (b k)
  logs : ∀ i k, ((log k).filter fun x => x.1 = i).map Prod.snd = delivered (w.settled i k)
  lossless : Lossless acts → ∀ i k, ∀ x ∈ w.settled i k, x.2 = .received

variable {N} {a : ι → A} {b : κ → B} {acts : List (Action ι κ Call)} {w : State ι κ A B M}
  {log : κ → List (ι × M)}

omit [DecidableEq κ] in
lemma callsOf_concat (i : ι) (acts : List (Action ι κ Call)) (x : Action ι κ Call) :
    callsOf i (acts ++ [x]) = callsOf i acts ++ (x.call? i).toList := by
  simp only [callsOf, List.filterMap_append]
  cases h : x.call? i <;> simp [h]

omit [DecidableEq ι] [DecidableEq κ] in
lemma Lossless.of_concat {x : Action ι κ Call} (h : Lossless (acts ++ [x])) : Lossless acts :=
  fun i k hm => h i k (List.mem_append_left _ hm)

omit [DecidableEq κ] in
lemma wired_start (hsent : ∀ i, N.sent (a i) = []) :
    Wired N a b ([] : List (Action ι κ Call)) (State.start a b) fun _ => [] where
  senders := fun _ => rfl
  queues := fun i _ => by simp [State.start, hsent i]
  receivers := fun _ => rfl
  logs := fun _ _ => rfl
  lossless := fun _ _ _ x hx => by simp [State.start] at hx

omit [DecidableEq κ] in
/-- **A sender acts**: what it adds to its messages is in the queues behind those that are
waiting. -/
lemma Wired.act (h : Wired N a b acts w log) (i : ι) (c : Call) :
    Wired N a b (acts ++ [.perform i c]) (act N w i c) log where
  senders := by
    intro j
    rw [callsOf_concat, List.foldl_append, ← h.senders j]
    by_cases hj : j = i
    · subst hj
      simp [Network.act, Action.call?]
    · simp [Network.act, Action.call?, hj, Ne.symm hj]
  queues := by
    intro j k
    by_cases hj : j = i
    · subst hj
      obtain ⟨new, hnew⟩ := N.sent_perform j c (w.sender j)
      simp only [Network.act, Function.update_self]
      rw [← List.append_assoc, h.queues, ← List.filter_append, ← hnew, List.drop_left]
    · simp only [Network.act, Function.update_of_ne hj]
      exact h.queues j k
  receivers := h.receivers
  logs := h.logs
  lossless := fun hl => h.lossless hl.of_concat

/-- The log after a message has been settled, in which only received messages are noted. -/
def logAfter (log : κ → List (ι × M)) (i : ι) (k : κ) (m : M) : Fate → κ → List (ι × M)
  | .received => Function.update log k (log k ++ [(i, m)])
  | .lost => log

/-- **A queue is settled** that has a message: it goes to the past of its queue, and into the log of
the receiver if it was received. -/
lemma Wired.settle_cons (h : Wired N a b acts w log) {i : ι} {k : κ} {m : M} {ms : List M}
    (hq : w.inFlight i k = m :: ms) (fate : Fate) {x : Action ι κ Call}
    (hx : ∀ j, x.call? j = none) (hfate : fate = .lost → x = .lose i k) :
    Wired N a b (acts ++ [x]) (settle N w i k fate) (logAfter log i k m fate) where
  senders := by
    intro j
    rw [callsOf_concat, hx j]
    simp [settle, hq, h.senders j]
  queues := by
    intro j l
    have := h.queues j l
    by_cases hj : j = i
    · subst hj
      by_cases hl : l = k
      · subst hl
        simpa [settle, hq] using this
      · simpa [settle, hq, hl] using this
    · simpa [settle, hq, hj] using this
  receivers := by
    intro l
    have := h.receivers l
    cases fate with
    | lost => simpa [settle, hq, logAfter] using this
    | received =>
        by_cases hl : l = k
        · subst hl
          simp [settle, hq, logAfter, this]
        · simpa [settle, hq, logAfter, hl] using this
  logs := by
    intro j l
    have := h.logs j l
    by_cases hl : l = k
    · subst hl
      by_cases hj : j = i
      · subst hj
        cases fate <;> simp [settle, hq, logAfter, this, delivered]
      · cases fate <;> simp [settle, hq, logAfter, this, hj, Ne.symm hj]
    · by_cases hj : j = i
      · subst hj
        cases fate <;> simp [settle, hq, logAfter, this, hl]
      · cases fate <;> simp [settle, hq, logAfter, this, hl, hj]
  lossless := by
    intro hl j l y hy
    have old := h.lossless hl.of_concat
    have hrec : fate = .received := by
      cases fate with
      | received => rfl
      | lost => exact absurd (by simp [hfate rfl]) (hl i k)
    by_cases hj : j = i
    · subst hj
      by_cases hlk : l = k
      · subst hlk
        simp only [settle, hq, Function.update_self, List.mem_append, List.mem_singleton] at hy
        rcases hy with hy | rfl
        · exact old j l y hy
        · exact hrec
      · simp only [settle, hq, Function.update_self, Function.update_of_ne hlk] at hy
        exact old j l y hy
    · simp only [settle, hq, Function.update_of_ne hj] at hy
      exact old j l y hy

/-- Settling any queue keeps the network wired, with a log that may have grown. -/
lemma Wired.settle (h : Wired N a b acts w log) (i : ι) (k : κ) (fate : Fate)
    {x : Action ι κ Call} (hx : ∀ j, x.call? j = none) (hfate : fate = .lost → x = .lose i k) :
    ∃ log', Wired N a b (acts ++ [x]) (settle N w i k fate) log' := by
  cases hq : w.inFlight i k with
  | cons m ms => exact ⟨_, h.settle_cons hq fate hx hfate⟩
  | nil =>
      refine ⟨log, ⟨?_, ?_, ?_, ?_, ?_⟩⟩
      · intro j
        rw [callsOf_concat, hx j]
        simp [Network.settle, hq, h.senders j]
      · simpa [Network.settle, hq] using h.queues
      · simpa [Network.settle, hq] using h.receivers
      · simpa [Network.settle, hq] using h.logs
      · intro hl
        simpa [Network.settle, hq] using h.lossless hl.of_concat

/-- **Every run keeps the wiring.**  The log says in which order each receiver was handed its
messages. -/
theorem wired_run (hsent : ∀ i, N.sent (a i) = []) (acts : List (Action ι κ Call)) :
    ∃ log, Wired N a b acts (run N (State.start a b) acts) log := by
  induction acts using List.reverseRecOn with
  | nil => exact ⟨_, wired_start hsent⟩
  | append_singleton acts x ih =>
      obtain ⟨log, h⟩ := ih
      simp only [run, List.foldl_append, List.foldl_cons, List.foldl_nil]
      cases x with
      | perform i c => exact ⟨log, h.act i c⟩
      | deliver i k => exact h.settle i k .received (fun _ => rfl) (by simp)
      | lose i k => exact h.settle i k .lost (fun _ => rfl) (fun _ => rfl)

omit [DecidableEq κ] in
/-- With nothing lost, what was delivered is what was taken out of the queue. -/
lemma Wired.delivered_eq (h : Wired N a b acts w log) (hl : Lossless acts) (i : ι) (k : κ) :
    delivered (w.settled i k) = (w.settled i k).map Prod.fst := by
  rw [delivered, List.filter_eq_self.mpr]
  intro x hx
  simpa using h.lossless hl i k x hx

omit [DecidableEq κ] in
/-- What is in flight has been sent that way. -/
lemma Wired.mem_inFlight (h : Wired N a b acts w log) {i : ι} {k : κ} {m : M}
    (hm : m ∈ w.inFlight i k) : m ∈ N.sent (w.sender i) ∧ N.accepts k m = true := by
  have hqueue := h.queues i k ▸ List.mem_append_right ((w.settled i k).map Prod.fst) hm
  exact List.mem_filter.mp hqueue

omit [DecidableEq κ] in
/-- What a receiver was handed had been sent its way. -/
lemma Wired.mem_log (h : Wired N a b acts w log) {k : κ} {x : ι × M} (hx : x ∈ log k) :
    x.2 ∈ N.sent (w.sender x.1) ∧ N.accepts k x.2 = true := by
  have hmem : x.2 ∈ delivered (w.settled x.1 k) := by
    rw [← h.logs]
    exact List.mem_map_of_mem (List.mem_filter.mpr ⟨hx, by simp⟩)
  have hsub : x.2 ∈ (w.settled x.1 k).map Prod.fst :=
    (List.filter_sublist.map Prod.fst).subset hmem
  have hqueue := h.queues x.1 k ▸ List.mem_append_left (w.inFlight x.1 k) hsub
  exact List.mem_filter.mp hqueue

end Network

end Lib
