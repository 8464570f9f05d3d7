import KrakenMare.Lib.Program
import Mathlib.Data.List.Induction

/-!
# Programs that take turns

A pool of threads over one world: a message that arrives starts a thread with the program of its
handler, and a thread that is scheduled makes its next call, as one step.  What a call does is
`exec`; an oracle supplies what the world leaves open, and `none` means that the step is not
possible with that oracle.  The pool keeps a log of all calls with their answers.  Nothing is said
about who is scheduled when, so a statement about `run` over all lists of actions is one about
every interleaving.

**Histories.**  Programs are continuations, and an invariant about a pool would have to say where
in its program each thread stands.  A `History` is a pool without its programs, and `Reach` says by
rules which histories there are: a message arrives, or a thread makes a call that its handler could
make after the calls it has made.  The rules know of a handler only the predicate `P`, which
`Prog.Along` connects with the program.

* `reach_run` — **the history of every run obeys the rules**, given `Prog.Along` of every handler,
  so an invariant of runs is proved by induction over `Reach`.
* `Reach.mem_log` — where in its handler the thread behind an entry of the log stood.
* `extends_run` — what has happened stays in the history.
* `OnTrack.returned` — what `Prog.Along` says of a program's end holds of every thread that has
  returned.

The condition `G` of `Reach` restricts the runs that are looked at: `Meets` says of a run that
every call in it satisfies `G`, and is decidable where `G` is.
-/

namespace Lib

namespace Interleaving

/-- A call with its answer, whose type depends on the call. -/
abbrev Answered {C : Type} (R : C → Type) := Σ c, R c

/-- The state of a pool: the world, the threads, and the log of all calls made so far. -/
structure Pool (C : Type) (R : C → Type) (ε α Msg W : Type) where
  world : W
  /-- each thread with the message it handles -/
  threads : List (Msg × Prog C R ε α)
  /-- each call with the thread that made it, oldest first -/
  log : List (ℕ × Answered R)

/-- What a scheduler may do: let a message arrive, or let a thread make its next call, with an
oracle for what the world leaves open. -/
inductive Action (Msg O : Type)
  | arrive (m : Msg)
  | run (i : ℕ) (oracle : O)
deriving DecidableEq

variable {C : Type} {R : C → Type} {ε α Msg W O : Type}

/-- A pool before the first message: no threads, and nothing in the log. -/
def Pool.start (w : W) : Pool C R ε α Msg W := ⟨w, [], []⟩

/-- The calls a thread has made, in the order in which it made them, without those of the others. -/
def Pool.own (p : Pool C R ε α Msg W) (i : ℕ) : List (Answered R) :=
  (p.log.filter fun e => e.1 = i).map Prod.snd

section
variable (handler : Msg → Prog C R ε α) (exec : (c : C) → O → W → Option (R c × W))

/-- Thread `i` makes its next call.  It stays where it is if it has come to its end, or if the
oracle does not fit. -/
def runThread (p : Pool C R ε α Msg W) (i : ℕ) (oracle : O) : Pool C R ε α Msg W :=
  match p.threads[i]? with
  | some (m, .call c k) =>
      match exec c oracle p.world with
      | some (r, w) =>
          { world := w, threads := p.threads.set i (m, k r), log := p.log ++ [(i, ⟨c, r⟩)] }
      | none => p
  | _ => p

/-- One action of the scheduler: a message arrives, or some thread makes one call. -/
def step (p : Pool C R ε α Msg W) : Action Msg O → Pool C R ε α Msg W
  | .arrive m => { p with threads := p.threads ++ [(m, handler m)] }
  | .run i oracle => runThread exec p i oracle

/-- A run: the actions one after the other, so that a list of actions is one interleaving. -/
def run (p : Pool C R ε α Msg W) (acts : List (Action Msg O)) : Pool C R ε α Msg W :=
  acts.foldl (step handler exec) p

end

/-! ## Threads and their own calls -/

lemma own_concat (p : Pool C R ε α Msg W) (w : W) (threads : List (Msg × Prog C R ε α)) (i j : ℕ)
    (x : Answered R) :
    Pool.own ⟨w, threads, p.log ++ [(i, x)]⟩ j = p.own j ++ if i = j then [x] else [] := by
  by_cases h : i = j <;> simp [Pool.own, h]

variable {handler : Msg → Prog C R ε α} {exec : (c : C) → O → W → Option (R c × W)}
  {P : Msg → List (Answered R) → C → Prop} {Q : Msg → List (Answered R) → Except ε α → Prop}

/-- Every thread is where its handler can be after the calls it has made. -/
def OnTrack (P : Msg → List (Answered R) → C → Prop)
    (Q : Msg → List (Answered R) → Except ε α → Prop) (p : Pool C R ε α Msg W) : Prop :=
  (∀ i m q, p.threads[i]? = some (m, q) → Prog.Along (P m) (Q m) q (p.own i)) ∧
    ∀ e ∈ p.log, e.1 < p.threads.length

lemma OnTrack.returned {p : Pool C R ε α Msg W} (h : OnTrack P Q p) {i : ℕ} {m : Msg} {a : α}
    (hi : p.threads[i]? = some (m, .ret a)) : Q m (p.own i) (.ok a) := h.1 i m _ hi

/-- A thread that starts is on its track, at the beginning. -/
lemma onTrack_arrive (hh : ∀ m, Prog.Along (P m) (Q m) (handler m) []) {p : Pool C R ε α Msg W}
    (h : OnTrack P Q p) (m : Msg) :
    OnTrack P Q { p with threads := p.threads ++ [(m, handler m)] } := by
  refine ⟨?_, ?_⟩
  · intro i m' q hi
    rcases Nat.lt_trichotomy i p.threads.length with hlt | rfl | hgt
    · rw [List.getElem?_append_left hlt] at hi
      exact h.1 i m' q hi
    · -- the new thread has made no call
      have hnone : p.own p.threads.length = [] := by
        refine List.map_eq_nil_iff.mpr (List.filter_eq_nil_iff.mpr fun e he => ?_)
        have := h.2 e he
        simp only [decide_eq_true_eq]
        omega
      simp only [List.getElem?_concat_length, Option.some.injEq, Prod.mk.injEq] at hi
      obtain ⟨rfl, rfl⟩ := hi
      show Prog.Along _ _ _ (p.own _)
      rw [hnone]
      exact hh m
    · rw [List.getElem?_eq_none (by simp; omega)] at hi
      exact absurd hi (by simp)
  · intro e he
    have := h.2 e he
    simp only [List.length_append, List.length_singleton]
    omega

/-- A thread that makes a call stays on its track, and the others are where they were. -/
lemma onTrack_call {p : Pool C R ε α Msg W} (h : OnTrack P Q p) {i : ℕ} {m : Msg} {c : C}
    {k : R c → Prog C R ε α} (hi : p.threads[i]? = some (m, .call c k)) (r : R c) (w : W) :
    OnTrack P Q ⟨w, p.threads.set i (m, k r), p.log ++ [(i, ⟨c, r⟩)]⟩ := by
  have hlt := (List.getElem?_eq_some_iff.mp hi).1
  refine ⟨?_, ?_⟩
  · intro j m' q hj
    rw [own_concat]
    by_cases hij : i = j
    · subst hij
      rw [List.getElem?_set_self hlt] at hj
      obtain ⟨rfl, rfl⟩ := Prod.mk.inj (Option.some.inj hj)
      rw [if_pos rfl]
      exact (h.1 i m _ hi).2 r
    · rw [List.getElem?_set_ne hij] at hj
      rw [if_neg hij, List.append_nil]
      exact h.1 j m' q hj
  · intro e he
    rw [List.length_set]
    rcases List.mem_append.mp he with he | he
    · exact h.2 e he
    · rw [List.mem_singleton.mp he]
      exact hlt

/-! ## Histories -/

/-- A pool without its programs: the world, the messages that have arrived, and the log. -/
structure History (C : Type) (R : C → Type) (Msg W : Type) where
  world : W
  messages : List Msg
  log : List (ℕ × Answered R)

/-- The calls a thread has made, oldest first, with their answers. -/
def History.own (h : History C R Msg W) (i : ℕ) : List (Answered R) :=
  (h.log.filter fun e => e.1 = i).map Prod.snd

/-- The history of a pool forgets the programs and keeps the messages they handle. -/
def Pool.history (p : Pool C R ε α Msg W) : History C R Msg W :=
  ⟨p.world, p.threads.map Prod.fst, p.log⟩

lemma History.own_concat (w : W) (ms : List Msg) (l : List (ℕ × Answered R)) (i j : ℕ)
    (x : Answered R) : History.own ⟨w, ms, l ++ [(i, x)]⟩ j
      = History.own ⟨w, ms, l⟩ j ++ if i = j then [x] else [] := by
  by_cases h : i = j <;> simp [History.own, h]

lemma History.mem_own {h : History C R Msg W} {i : ℕ} {x : Answered R} :
    x ∈ h.own i ↔ (i, x) ∈ h.log := by
  simp [History.own]

/-- The histories there are, when every call also meets the condition `G` on the world before it
and the message its thread handles. -/
inductive Reach (exec : (c : C) → O → W → Option (R c × W))
    (P : Msg → List (Answered R) → C → Prop) (G : W → Msg → C → Prop) (w₀ : W) :
    History C R Msg W → Prop
  | start : Reach exec P G w₀ ⟨w₀, [], []⟩
  | arrive {h} (m : Msg) (hr : Reach exec P G w₀ h) :
      Reach exec P G w₀ { h with messages := h.messages ++ [m] }
  | call {h i m c r w} (o : O) (hr : Reach exec P G w₀ h) (hm : h.messages[i]? = some m)
      (hP : P m (h.own i) c) (hG : G h.world m c) (he : exec c o h.world = some (r, w)) :
      Reach exec P G w₀ ⟨w, h.messages, h.log ++ [(i, ⟨c, r⟩)]⟩

/-- The call that an action makes, if any, meets the condition `G`. -/
def Allowed (G : W → Msg → C → Prop) (p : Pool C R ε α Msg W) : Action Msg O → Prop
  | .arrive _ => True
  | .run i _ =>
      match p.threads[i]? with
      | some (m, .call c _) => G p.world m c
      | _ => True

/-- Every call of a run meets the condition `G`, at the moment when it is made. -/
def Meets (handler : Msg → Prog C R ε α) (exec : (c : C) → O → W → Option (R c × W))
    (G : W → Msg → C → Prop) : Pool C R ε α Msg W → List (Action Msg O) → Prop
  | _, [] => True
  | p, x :: acts => Allowed G p x ∧ Meets handler exec G (step handler exec p x) acts

instance (G : W → Msg → C → Prop) [∀ w m c, Decidable (G w m c)] (p : Pool C R ε α Msg W) :
    (x : Action Msg O) → Decidable (Allowed G p x)
  | .arrive _ => inferInstanceAs (Decidable True)
  | .run i _ =>
      match h : p.threads[i]? with
      | some (m, .call c _) => decidable_of_iff (G p.world m c) (by simp [Allowed, h])
      | some (_, .ret _) | some (_, .throw _) | none => .isTrue (by simp [Allowed, h])

instance (G : W → Msg → C → Prop) [∀ w m c, Decidable (G w m c)] : ∀ (p : Pool C R ε α Msg W)
    (acts : List (Action Msg O)), Decidable (Meets handler exec G p acts)
  | _, [] => inferInstanceAs (Decidable True)
  | p, x :: acts =>
      have := instDecidableMeets G (step handler exec p x) acts
      inferInstanceAs (Decidable (_ ∧ _))

variable {G : W → Msg → C → Prop} {w₀ : W}

lemma runThread_eq {p : Pool C R ε α Msg W} {i : ℕ} {o : O} {m : Msg} {c : C}
    {k : R c → Prog C R ε α} {r : R c} {w : W} (hi : p.threads[i]? = some (m, .call c k))
    (he : exec c o p.world = some (r, w)) : runThread exec p i o
      = ⟨w, p.threads.set i (m, k r), p.log ++ [(i, ⟨c, r⟩)]⟩ := by
  simp only [runThread, hi, he]

/-- The program of a thread changes, the message it handles does not. -/
lemma map_fst_set {ts : List (Msg × Prog C R ε α)} {i : ℕ} {m : Msg} {q q' : Prog C R ε α}
    (hi : ts[i]? = some (m, q)) : (ts.set i (m, q')).map Prod.fst = ts.map Prod.fst := by
  obtain ⟨hlt, hget⟩ := List.getElem?_eq_some_iff.mp hi
  calc (ts.set i (m, q')).map Prod.fst
      = (ts.set i (m, q)).map Prod.fst := by rw [List.map_set, List.map_set]
    _ = ts.map Prod.fst := by rw [← hget, List.set_getElem_self]

/-- A thread that is scheduled does nothing, or makes its next call.  Every proof about one step
starts from this. -/
theorem runThread_cases (exec : (c : C) → O → W → Option (R c × W)) (p : Pool C R ε α Msg W)
    (i : ℕ) (o : O) : runThread exec p i o = p ∨
      ∃ m c k r w, p.threads[i]? = some (m, .call c k) ∧ exec c o p.world = some (r, w) := by
  cases hi : p.threads[i]? with
  | none => exact Or.inl (by simp only [runThread, hi])
  | some t =>
      obtain ⟨m, q⟩ := t
      cases q with
      | ret a => exact Or.inl (by simp only [runThread, hi])
      | throw e => exact Or.inl (by simp only [runThread, hi])
      | call c k =>
          cases he : exec c o p.world with
          | none => exact Or.inl (by simp only [runThread, hi, he])
          | some x => exact Or.inr ⟨m, c, k, x.1, x.2, rfl, he⟩

lemma meets_concat {p : Pool C R ε α Msg W} {acts : List (Action Msg O)} {x : Action Msg O} :
    Meets handler exec G p (acts ++ [x]) ↔
      Meets handler exec G p acts ∧ Allowed G (run handler exec p acts) x := by
  induction acts generalizing p with
  | nil => simp [Meets, run]
  | cons y acts ih =>
      simp only [List.cons_append, Meets, ih, and_assoc]
      rfl

/-- A condition that every call meets. -/
lemma meets_of_forall (hG : ∀ w m c, G w m c) : ∀ (p : Pool C R ε α Msg W)
    (acts : List (Action Msg O)), Meets handler exec G p acts
  | _, [] => trivial
  | p, x :: acts => by
      refine ⟨?_, meets_of_forall hG _ acts⟩
      cases x with
      | arrive m => trivial
      | run i o =>
          simp only [Allowed]
          split
          · exact hG _ _ _
          · trivial

/-- **Runs obey the rules.**  When every handler keeps to `P` along all its calls, then after every
run whose calls meet `G` each thread is on its track, and the history is one of `Reach`. -/
theorem reach_run (hh : ∀ m, Prog.Along (P m) (Q m) (handler m) []) {acts : List (Action Msg O)}
    (hG : Meets handler exec G (Pool.start w₀) acts) :
    OnTrack P Q (run handler exec (Pool.start w₀) acts) ∧
      Reach exec P G w₀ (run handler exec (Pool.start w₀) acts).history := by
  induction acts using List.reverseRecOn with
  | nil =>
      exact ⟨⟨fun i m q hi => by simp [run, Pool.start] at hi, by simp [run, Pool.start]⟩, .start⟩
  | append_singleton acts x ih =>
      obtain ⟨hG, hx⟩ := meets_concat.mp hG
      obtain ⟨ht, hr⟩ := ih hG
      have hrun : run handler exec (Pool.start w₀) (acts ++ [x])
          = step handler exec (run handler exec (Pool.start w₀) acts) x := List.foldl_concat ..
      rw [hrun]
      cases x with
      | arrive m =>
          refine ⟨onTrack_arrive hh ht m, ?_⟩
          have := hr.arrive m
          simpa [step, Pool.history] using this
      | run i o =>
          rcases runThread_cases exec (run handler exec (Pool.start w₀) acts) i o with
            hsame | ⟨m, c, k, r, w, hi, he⟩
          · rw [step, hsame]
            exact ⟨ht, hr⟩
          · rw [step, runThread_eq hi he]
            refine ⟨onTrack_call ht hi r w, ?_⟩
            have hmsg : (run handler exec (Pool.start w₀) acts).history.messages[i]? = some m := by
              simp [Pool.history, hi]
            have hGc : G (run handler exec (Pool.start w₀) acts).world m c := by
              simpa only [Allowed, hi] using hx
            have hcall := hr.call o hmsg (ht.1 i m _ hi).1 hGc he
            rw [Pool.history, map_fst_set hi]
            exact hcall

/-! ## Facts about every history -/

/-- The calls a thread can have made, whatever the answers: each is one that the calls before it
allow. -/
inductive Path (P : List (Answered R) → C → Prop) : List (Answered R) → Prop
  | nil : Path P []
  | snoc {l c} (r : R c) (hl : Path P l) (hc : P l c) : Path P (l ++ [⟨c, r⟩])

/-- Before each call on a path stand the calls that made it possible, which is how the protocol is
used. -/
theorem Path.before {P : List (Answered R) → C → Prop} {l : List (Answered R)} (hl : Path P l)
    {x : Answered R} (hx : x ∈ l) : ∃ l₁ l₂, l = l₁ ++ x :: l₂ ∧ P l₁ x.1 := by
  induction hl with
  | nil => exact absurd hx List.not_mem_nil
  | snoc r hl hc ih =>
      rcases List.mem_append.mp hx with hx | hx
      · obtain ⟨l₁, l₂, rfl, hP⟩ := ih hx
        exact ⟨l₁, l₂ ++ [⟨_, r⟩], by simp, hP⟩
      · rw [List.mem_singleton.mp hx]
        exact ⟨_, [], rfl, hc⟩

namespace Reach

variable {h : History C R Msg W}

/-- Only threads that were started make calls, so a thread in the log has its message. -/
theorem thread_lt (hr : Reach exec P G w₀ h) : ∀ e ∈ h.log, e.1 < h.messages.length := by
  induction hr with
  | start => simp
  | arrive m hr ih =>
      intro e he
      rw [List.length_append]
      exact Nat.lt_of_lt_of_le (ih e he) (Nat.le_add_right _ _)
  | call o hr hm hP hG he ih =>
      intro e hmem
      rcases List.mem_append.mp hmem with hmem | hmem
      · exact ih e hmem
      · rw [List.mem_singleton.mp hmem]
        exact (List.getElem?_eq_some_iff.mp hm).1

/-- The calls of one thread, in order, are a path of its handler, whatever the other threads did in
between. -/
theorem path (hr : Reach exec P G w₀ h) {i : ℕ} {m : Msg} (hm : h.messages[i]? = some m) :
    Path (P m) (h.own i) := by
  induction hr with
  | start => exact absurd hm (by simp)
  | @arrive h' m' hr ih =>
      by_cases hlt : i < h'.messages.length
      · exact ih (by rwa [List.getElem?_append_left hlt] at hm)
      · -- a thread that has just been started has made no call
        have hnone : h'.own i = [] := List.map_eq_nil_iff.mpr <| List.filter_eq_nil_iff.mpr
          fun e he hei => hlt (decide_eq_true_iff.mp hei ▸ hr.thread_lt e he)
        show Path (P m) (h'.own i)
        rw [hnone]
        exact .nil
  | @call h' j m' c r w o hr hm' hP hG he ih =>
      rw [History.own_concat]
      by_cases hij : j = i
      · subst hij
        obtain rfl := Option.some.inj (hm'.symm.trans hm)
        rw [if_pos rfl]
        exact .snoc r (ih hm) hP
      · rw [if_neg hij, List.append_nil]
        exact ih hm

/-- **What stands behind an entry of the log**: the message its thread handles, and the calls the
thread had made by then. -/
theorem mem_log (hr : Reach exec P G w₀ h) {i : ℕ} {x : Answered R} (hx : (i, x) ∈ h.log) :
    ∃ m l₁ l₂, h.messages[i]? = some m ∧ h.own i = l₁ ++ x :: l₂ ∧ P m l₁ x.1 := by
  obtain ⟨m, hm⟩ : ∃ m, h.messages[i]? = some m :=
    ⟨_, List.getElem?_eq_getElem (hr.thread_lt _ hx)⟩
  obtain ⟨l₁, l₂, hl, hP⟩ := (hr.path hm).before (History.mem_own.mpr hx)
  exact ⟨m, l₁, l₂, hm, hl, hP⟩

end Reach

/-! ## Going on -/

/-- Nothing that has happened in `h` is undone in `h'`: no message and no call. -/
structure History.Extends (h h' : History C R Msg W) : Prop where
  messages : h.messages <+: h'.messages
  log : h.log <+: h'.log

namespace History.Extends

variable {h h' : History C R Msg W}

lemma arrive (h : History C R Msg W) (m : Msg) :
    h.Extends { h with messages := h.messages ++ [m] } :=
  ⟨List.prefix_append _ _, List.prefix_refl _⟩

lemma call (h : History C R Msg W) (w : W) (e : ℕ × Answered R) :
    h.Extends ⟨w, h.messages, h.log ++ [e]⟩ :=
  ⟨List.prefix_refl _, List.prefix_append _ _⟩

lemma message (he : h.Extends h') {i : ℕ} {m : Msg} (hm : h.messages[i]? = some m) :
    h'.messages[i]? = some m := by
  obtain ⟨l, hl⟩ := he.messages
  rw [← hl, List.getElem?_append_left (List.getElem?_eq_some_iff.mp hm).1]
  exact hm

lemma own (he : h.Extends h') (i : ℕ) : h.own i <+: h'.own i :=
  (he.log.filter _).map _

lemma mem (he : h.Extends h') {e : ℕ × Answered R} (hmem : e ∈ h.log) : e ∈ h'.log :=
  he.log.mem hmem

end History.Extends

/-- A run undoes nothing of what has happened before it: messages and log only grow. -/
theorem extends_run (p : Pool C R ε α Msg W) (acts : List (Action Msg O)) :
    p.history.Extends (run handler exec p acts).history := by
  induction acts generalizing p with
  | nil => exact ⟨List.prefix_refl _, List.prefix_refl _⟩
  | cons x acts ih =>
      have hx : p.history.Extends (step handler exec p x).history := by
        cases x with
        | arrive m => exact ⟨by simp [Pool.history, step], List.prefix_refl _⟩
        | run i o =>
            rcases runThread_cases exec p i o with hsame | ⟨m, c, k, r, w, hi, he⟩
            · rw [step, hsame]
              exact ⟨List.prefix_refl _, List.prefix_refl _⟩
            · have hmessages : (p.threads.set i (m, k r)).map Prod.fst = p.history.messages :=
                map_fst_set hi
              rw [step, runThread_eq hi he]
              exact ⟨⟨[], (List.append_nil _).trans hmessages.symm⟩, List.prefix_append _ _⟩
      have hrest := ih (step handler exec p x)
      exact ⟨hx.messages.trans hrest.messages, hx.log.trans hrest.log⟩

lemma run_append (p : Pool C R ε α Msg W) (acts acts' : List (Action Msg O)) :
    run handler exec p (acts ++ acts') = run handler exec (run handler exec p acts) acts' :=
  List.foldl_append ..

/-- The message that an action brings, if it is an arrival. -/
def Action.message? : Action Msg O → Option Msg
  | .arrive m => some m
  | .run _ _ => none

/-- There is one thread for each message that has arrived. -/
lemma messages_run (p : Pool C R ε α Msg W) (acts : List (Action Msg O)) :
    (run handler exec p acts).history.messages
      = p.history.messages ++ acts.filterMap Action.message? := by
  induction acts generalizing p with
  | nil => simp [run]
  | cons x acts ih =>
      have hstep : (step handler exec p x).history.messages
          = p.history.messages ++ [x].filterMap Action.message? := by
        cases x with
        | arrive m => simp [step, Pool.history, Action.message?]
        | run i o =>
            rcases runThread_cases exec p i o with hsame | ⟨m, c, k, r, w, hi, he⟩
            · simp [step, hsame, Action.message?]
            · simp [step, runThread_eq hi he, Pool.history, map_fst_set hi, Action.message?]
      have hrest := ih (step handler exec p x)
      rw [hstep, List.append_assoc, ← List.filterMap_append] at hrest
      exact hrest

/-- Two entries that show the same value are one entry, if no value shows twice. -/
lemma eq_of_nodup_filterMap {E V : Type} {f : E → Option V} {v : V} : ∀ {l : List E},
    (l.filterMap f).Nodup → ∀ {e e' : E}, e ∈ l → e' ∈ l → f e = some v → f e' = some v → e = e'
  | [], _, _, _, he, _, _, _ => absurd he List.not_mem_nil
  | x :: l, hnd, e, e', he, he', hv, hv' => by
      have htail : (l.filterMap f).Nodup := hnd.sublist (List.Sublist.filterMap f (by simp))
      -- the value of the head does not show in the tail
      have hhead : ∀ y ∈ l, f x = some v → f y ≠ some v := by
        intro y hy hx hyv
        rw [List.filterMap_cons_some hx, List.nodup_cons] at hnd
        exact hnd.1 (List.mem_filterMap.mpr ⟨y, hy, hyv⟩)
      rcases List.mem_cons.mp he with rfl | hmem <;> rcases List.mem_cons.mp he' with rfl | hmem'
      · rfl
      · exact absurd hv' (hhead _ hmem' hv)
      · exact absurd hv (hhead _ hmem hv')
      · exact eq_of_nodup_filterMap htail hmem hmem' hv hv'

end Interleaving

end Lib
