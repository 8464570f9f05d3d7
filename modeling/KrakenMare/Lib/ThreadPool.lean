import KrakenMare.Lib.Interleaving
import KrakenMare.Lib.Streams
import Mathlib.Algebra.Order.BigOperators.Group.List

/-!
# A pool with a fixed number of threads

Tasks that are submitted wait in a queue; a thread that is free takes the oldest of them, and works
on it until its program has come to an end.  `Lib.Interleaving` has a thread for every message at
once; here no more than `n` of them are at work.

An executor is a pool of `Lib.Interleaving`, whose threads are the tasks taken so far, together
with the queue of those that wait.  A thread is busy exactly when some task taken is not at its
end, so the number of busy threads is counted in the pool and needs no state of its own.

* `busy_run` — no more than `n` tasks are ever under way.
* `tasks_run` — every task submitted is taken once, in the order of submission, or still waits.
* `free_run` — **what a run does is what some run of `Lib.Interleaving` does**, so whatever holds
  of all runs there holds here.
* `length_log_le` — when the tasks make so many calls each, a run makes no more calls than that.
* `not_stuck` — with a thread at all, a run can go on as long as a task is not at its end and what
  it calls can be done.

Together the last two bound the work from both sides: there is always something to do until all is
done, and there is only so much of it.
-/

namespace Lib

namespace ThreadPool

open Interleaving

/-- The tasks taken are the threads of `pool`, those at their end included. -/
structure Executor (C : Type) (R : C → Type) (ε α Msg W : Type) where
  pool : Pool C R ε α Msg W
  /-- oldest first -/
  waiting : List Msg

/-- What may happen: a task is submitted, a free thread takes one, or a task makes its next call. -/
inductive Event (Msg O : Type)
  | execute (m : Msg)
  /-- a free thread takes a task -/
  | take
  /-- the task `i` goes on -/
  | run (i : ℕ) (oracle : O)
deriving DecidableEq

variable {C : Type} {R : C → Type} {ε α Msg W O : Type}

/-- The task is not at its end: it has a call to make, and keeps a thread of the pool. -/
def AtWork (t : Msg × Prog C R ε α) : Bool :=
  match t.2 with
  | .call _ _ => true
  | _ => false

/-- The number of threads that are not free; the pool never has more of them than its size. -/
def busy (p : Pool C R ε α Msg W) : ℕ := p.threads.countP AtWork

/-- An executor before the first task: nothing waits, and all threads are free. -/
def Executor.start (w : W) : Executor C R ε α Msg W := ⟨Pool.start w, []⟩

/-- The task that an event submits, if it is one that does. -/
def Event.submitted? : Event Msg O → Option Msg
  | .execute m => some m
  | _ => none

section
variable (n : ℕ) (handler : Msg → Prog C R ε α) (exec : (c : C) → O → W → Option (R c × W))

/-- One event.  Taking a task does nothing when none waits or when no thread is free. -/
def step (e : Executor C R ε α Msg W) : Event Msg O → Executor C R ε α Msg W
  | .execute m => { e with waiting := e.waiting ++ [m] }
  | .take =>
      match e.waiting with
      | [] => e
      | m :: ms =>
          if busy e.pool < n then ⟨Interleaving.step handler exec e.pool (.arrive m), ms⟩ else e
  | .run i oracle => { e with pool := Interleaving.step handler exec e.pool (.run i oracle) }

/-- A run: the events one after the other, tasks being submitted, taken up and carried on in any
order. -/
def run (e : Executor C R ε α Msg W) (events : List (Event Msg O)) : Executor C R ε α Msg W :=
  events.foldl (step n handler exec) e

end

variable {n : ℕ} {handler : Msg → Prog C R ε α} {exec : (c : C) → O → W → Option (R c × W)}

lemma run_concat (e : Executor C R ε α Msg W) (events : List (Event Msg O)) (x : Event Msg O) :
    run n handler exec e (events ++ [x]) = step n handler exec (run n handler exec e events) x := by
  simp [run]

/-! ## How many tasks are under way -/

/-- A task that makes a call keeps its thread, or sets it free. -/
lemma busy_runThread (p : Pool C R ε α Msg W) (i : ℕ) (oracle : O) :
    busy (runThread exec p i oracle) ≤ busy p := by
  rcases runThread_cases exec p i oracle with hsame | ⟨m, c, k, r, w, hi, hexec⟩
  · exact Nat.le_of_eq (congrArg busy hsame)
  · rw [runThread_eq hi hexec, busy, busy]
    obtain ⟨hlt, hget⟩ := List.getElem?_eq_some_iff.mp hi
    have hone : 0 < p.threads.countP AtWork :=
      List.countP_pos_iff.mpr ⟨_, List.mem_of_getElem? hi, rfl⟩
    have hcall : AtWork (m, Prog.call c k) = true := rfl
    rw [List.countP_set hlt, hget, if_pos hcall]
    split_ifs <;> omega

lemma busy_arrive (p : Pool C R ε α Msg W) (t : Msg × Prog C R ε α) :
    busy { p with threads := p.threads ++ [t] } ≤ busy p + 1 := by
  rw [busy, busy, List.countP_append, List.countP_singleton]
  split_ifs <;> omega

/-- **The limit.**  No more than `n` of the tasks that were taken are under way, at any moment of
any run. -/
theorem busy_run (w : W) (events : List (Event Msg O)) :
    busy (run n handler exec (.start w) events).pool ≤ n := by
  induction events using List.reverseRecOn with
  | nil => exact Nat.zero_le n
  | append_singleton events x ih =>
      rw [run_concat]
      cases x with
      | execute m => exact ih
      | run i oracle => exact Nat.le_trans (busy_runThread _ i oracle) ih
      | take =>
          rw [step]
          split
          · exact ih
          · split_ifs with hfree
            · exact Nat.le_trans (busy_arrive _ _) hfree
            · exact ih

/-! ## In which order the tasks are taken -/

/-- **First come, first served.**  The tasks taken and those still waiting are, in this order, the
tasks submitted. -/
theorem tasks_run (w : W) (events : List (Event Msg O)) :
    (run n handler exec (.start w) events).pool.history.messages
        ++ (run n handler exec (.start w) events).waiting
      = events.filterMap Event.submitted? := by
  induction events using List.reverseRecOn with
  | nil => rfl
  | append_singleton events x ih =>
      rw [run_concat, List.filterMap_append, ← ih]
      cases x with
      | execute m => simp [step, Event.submitted?]
      | run i oracle =>
          have hmessages : (Interleaving.run handler exec
              (run n handler exec (.start w) events).pool [.run i oracle]).history.messages
              = (run n handler exec (.start w) events).pool.history.messages ++ [] :=
            messages_run _ [.run i oracle]
          rw [List.append_nil] at hmessages
          show (Interleaving.run handler exec _ [.run i oracle]).history.messages ++ _ = _
          rw [hmessages]
          simp [step, Event.submitted?]
      | take =>
          rw [step]
          split
          · simp [Event.submitted?]
          · rename_i m ms hwaiting
            split_ifs
            · simp [Event.submitted?, Interleaving.step, Pool.history, hwaiting]
            · simp [Event.submitted?]

/-! ## The same without the limit -/

/-- **The limit only delays.**  The pool of a run is the pool of a run of `Lib.Interleaving`, whose
actions are the takes and the calls that were possible. -/
theorem free_run (w : W) (events : List (Event Msg O)) : ∃ acts : List (Action Msg O),
    (run n handler exec (.start w) events).pool
      = Interleaving.run handler exec (Pool.start w) acts := by
  induction events using List.reverseRecOn with
  | nil => exact ⟨[], rfl⟩
  | append_singleton events x ih =>
      obtain ⟨acts, hacts⟩ := ih
      have hone : ∀ a, Interleaving.step handler exec (run n handler exec (.start w) events).pool a
          = Interleaving.run handler exec (Pool.start w) (acts ++ [a]) := by
        intro a
        rw [Interleaving.run_append, ← hacts]
        rfl
      rw [run_concat]
      cases x with
      | execute m => exact ⟨acts, hacts⟩
      | run i oracle =>
          refine ⟨acts ++ [.run i oracle], ?_⟩
          rw [step]
          exact hone (.run i oracle)
      | take =>
          rw [step]
          split
          · exact ⟨acts, hacts⟩
          · rename_i m ms _
            split_ifs
            · exact ⟨acts ++ [.arrive m], hone (.arrive m)⟩
            · exact ⟨acts, hacts⟩

/-! ## How much there is to do -/

lemma length_le_of_path {P : List (Answered R) → C → Prop} {b : ℕ}
    (hb : ∀ l c, P l c → l.length < b) {l : List (Answered R)} (hl : Path P l) : l.length ≤ b := by
  cases hl with
  | nil => exact Nat.zero_le b
  | snoc r hl hc =>
      rw [List.length_append, List.length_singleton]
      exact hb _ _ hc

/-- **The work is bounded** when that of every task is: `calls m` calls for the message `m`. -/
theorem length_log_le {P : Msg → List (Answered R) → C → Prop} {G : W → Msg → C → Prop} {w₀ : W}
    {h : History C R Msg W} (hr : Reach exec P G w₀ h) (calls : Msg → ℕ)
    (hcalls : ∀ m l c, P m l c → l.length < calls m) :
    h.log.length ≤ (h.messages.map calls).sum := by
  have hown : ∀ i (hi : i < h.messages.length),
      (h.log.filter fun e => e.1 = i).length ≤ calls h.messages[i] := by
    intro i hi
    have hle := length_le_of_path (hcalls h.messages[i]) (hr.path (List.getElem?_eq_getElem hi))
    rwa [History.own, List.length_map] at hle
  have hperm := (perm_flatMap_range Prod.fst h.messages.length h.log hr.thread_lt).length_eq
  rw [← hperm, List.length_flatMap]
  have hmessages : h.messages.map calls
      = (List.range h.messages.length).map fun i => (h.messages[i]?.map calls).getD 0 := by
    refine List.ext_getElem (by simp) fun i hi hi' => ?_
    simp at hi
    simp [List.getElem?_eq_getElem hi]
  rw [hmessages]
  refine List.sum_le_sum fun i hi => ?_
  have hlt := List.mem_range.mp hi
  rw [List.getElem?_eq_getElem hlt]
  exact hown i hlt

/-! ## A run can go on -/

variable (n handler exec) in
/-- **Progress.**  While a task waits or is under way, and every next call can be done, there is an
event that is no submission and takes a task off the queue or adds a call to the log. -/
theorem not_stuck (hn : 0 < n) (e : Executor C R ε α Msg W)
    (hwork : e.waiting ≠ [] ∨ busy e.pool ≠ 0)
    (hdone : ∀ t ∈ e.pool.threads, ∀ c k, t.2 = .call c k →
      ∃ o r w, exec c o e.pool.world = some (r, w)) :
    ∃ x : Event Msg O, x.submitted? = none ∧
      ((step n handler exec e x).waiting.length < e.waiting.length ∨
        (step n handler exec e x).pool.log.length = e.pool.log.length + 1) := by
  by_cases hbusy : busy e.pool = 0
  · obtain ⟨m, ms, hwaiting⟩ := List.exists_cons_of_ne_nil (hwork.resolve_right (· hbusy))
    refine ⟨.take, rfl, Or.inl ?_⟩
    rw [step]
    split
    · rename_i hnil
      exact absurd (hnil.symm.trans hwaiting) (by simp)
    · rename_i m' ms' hcons
      rw [if_pos (by omega), hcons]
      exact Nat.lt_succ_self _
  · obtain ⟨t, ht, hat⟩ := List.countP_pos_iff.mp (Nat.pos_of_ne_zero hbusy)
    obtain ⟨m, p⟩ := t
    cases p with
    | ret a => exact absurd hat (by simp [AtWork])
    | throw e => exact absurd hat (by simp [AtWork])
    | call c k =>
        obtain ⟨i, hi⟩ := List.mem_iff_getElem?.mp ht
        obtain ⟨o, r, w, hexec⟩ := hdone _ ht c k rfl
        refine ⟨.run i o, rfl, Or.inr ?_⟩
        show (runThread exec e.pool i o).log.length = _
        rw [runThread, hi]
        simp only [hexec, List.length_append, List.length_singleton]

end ThreadPool

end Lib
