import Mathlib.Data.List.Basic
import Mathlib.Order.Basic

/-!
# Statements with another thread looking on

`Steps σ α` is a program that assigns to the attributes `σ` of an object which another thread
reads.  Its run goes through the states after each assignment, any of which the other thread may
see, and ends with a value or an exception.  An exception undoes nothing: the state stays what the
assignments before it have made of it.

* `run_pure`, `run_get_bind`, `run_assign_bind` and so on — a run, statement by statement.

**Four predicates on programs.**  Each has a rule for every kind of statement and one for
sequencing.

* `Always P p s` — every state that a run of `p` from `s` goes through satisfies `P`.
* `Keeps v p` — no run of `p` changes what `v` shows; `Keeps.bind` and so on are its rules.
* `Rises v p` — in no run of `p` does what `v` shows go down; `Rises.bind` and so on are its rules.
* `Goes P p s Q` — a run from `s` goes through states with `P` only and ends with `Q`; `Goes.bind`
  and so on are its rules.

**Callbacks.**  A client library calls back once for each message, and an exception in one callback
does not keep the next from being called.  `points` are all the states between two statements of a
sequence of callbacks, `always_points` is the invariant rule for them, and `afterAll` is the last
of the points (`afterAll_mem_points`).
-/

namespace Lib

/-- One run of a program: the states after its assignments, the last state, and the result, `none`
for an exception. -/
structure Ran (σ α : Type) where
  states : List σ
  final : σ
  result : Option α

/-- A program, by its runs: from each state, the states it goes through and how it ends. -/
structure Steps (σ α : Type) where
  run : σ → Ran σ α

namespace Steps

variable {σ α β M : Type}

/-- A program that assigns nothing and returns a value. -/
protected def pure (a : α) : Steps σ α := ⟨fun s => ⟨[], s, some a⟩⟩

/-- First the one program, then with its result the other, unless the first has raised an
exception. -/
protected def bind (p : Steps σ α) (k : α → Steps σ β) : Steps σ β where
  run s :=
    let r := p.run s
    match r.result with
    | none => ⟨r.states, r.final, none⟩
    | some a =>
        let r' := (k a).run r.final
        ⟨r.states ++ r'.states, r'.final, r'.result⟩

instance : Monad (Steps σ) where
  pure := Steps.pure
  bind := Steps.bind

/-- An exception is raised, and nothing of the program follows. -/
def fail : Steps σ α := ⟨fun s => ⟨[], s, none⟩⟩

/-- All attributes are read at once; a reader of one attribute looks at no other. -/
def get : Steps σ σ := ⟨fun s => ⟨[], s, some s⟩⟩

/-- One assignment.  It is the only thing after which another thread can see a new state. -/
def assign (f : σ → σ) : Steps σ Unit := ⟨fun s => ⟨[f s], f s, some ()⟩⟩

/-- A value, or an exception where there is none, such as a missing key. -/
def ofOption : Option α → Steps σ α
  | none => fail
  | some a => pure a

/-! ## Runs -/

section
variable (s : σ) (k : α → Steps σ β)

@[simp] lemma run_pure (a : α) : (pure a : Steps σ α).run s = ⟨[], s, some a⟩ := rfl

@[simp] lemma run_fail : (fail : Steps σ α).run s = ⟨[], s, none⟩ := rfl

@[simp] lemma run_assign (f : σ → σ) : (assign f).run s = ⟨[f s], f s, some ()⟩ := rfl

@[simp] lemma pure_bind (a : α) : (pure a : Steps σ α) >>= k = k a := rfl

@[simp] lemma fail_bind : (fail : Steps σ α) >>= k = fail := rfl

@[simp] lemma run_get_bind (k : σ → Steps σ β) : (get >>= k).run s = (k s).run s := rfl

@[simp] lemma run_assign_bind (f : σ → σ) (k : Unit → Steps σ β) : (assign f >>= k).run s
    = ⟨f s :: ((k ()).run (f s)).states, ((k ()).run (f s)).final, ((k ()).run (f s)).result⟩ :=
  rfl

@[simp] lemma ofOption_some (a : α) : (ofOption (some a) : Steps σ α) = pure a := rfl

@[simp] lemma ofOption_none : (ofOption none : Steps σ α) = fail := rfl

/-- The first part runs to its end, and the rest goes on from there. -/
lemma run_bind_of_result {p : Steps σ α} {s : σ} {a : α} (h : (p.run s).result = some a) :
    (p >>= k).run s = ⟨(p.run s).states ++ ((k a).run (p.run s).final).states,
      ((k a).run (p.run s).final).final, ((k a).run (p.run s).final).result⟩ := by
  show (Steps.bind p k).run s = _
  simp only [Steps.bind, h]

lemma run_bind_of_raise {p : Steps σ α} {s : σ} (h : (p.run s).result = none) :
    (p >>= k).run s = ⟨(p.run s).states, (p.run s).final, none⟩ := by
  show (Steps.bind p k).run s = _
  simp only [Steps.bind, h]

end

/-! ## What can be seen -/

/-- Every state that a run goes through satisfies `P`, so that another thread never finds one
without. -/
def Always (P : σ → Prop) (p : Steps σ α) (s : σ) : Prop := ∀ t ∈ (p.run s).states, P t

/-! ## What is not changed -/

/-- What `v` shows of the state is the same after a run as before, whether or not it ends with an
exception. -/
def Keeps {τ : Type} (v : σ → τ) (p : Steps σ α) : Prop := ∀ s, v (p.run s).final = v s

namespace Keeps

variable {τ : Type} {v : σ → τ}

lemma pure (a : α) : Keeps v (Pure.pure a : Steps σ α) := fun _ => rfl

lemma fail : Keeps v (Steps.fail : Steps σ α) := fun _ => rfl

lemma get : Keeps v (Steps.get : Steps σ σ) := fun _ => rfl

lemma assign {f : σ → σ} (h : ∀ s, v (f s) = v s) : Keeps v (Steps.assign f) := h

lemma ofOption : ∀ x : Option α, Keeps v (Steps.ofOption x)
  | none => fail
  | some a => pure a

/-- **The rule of sequencing**, for what is kept by both parts. -/
theorem bind {p : Steps σ α} {k : α → Steps σ β} (hp : Keeps v p) (hk : ∀ a, Keeps v (k a)) :
    Keeps v (p >>= k) := by
  intro s
  cases hr : (p.run s).result with
  | none =>
      rw [run_bind_of_raise k hr]
      exact hp s
  | some a =>
      rw [run_bind_of_result k hr]
      exact (hk a _).trans (hp s)

lemma ite {c : Prop} [Decidable c] {p q : Steps σ α} (hp : Keeps v p) (hq : Keeps v q) :
    Keeps v (if c then p else q) := by
  split_ifs
  · exact hp
  · exact hq

end Keeps

/-! ## What only goes up -/

/-- What `v` shows never goes down, from before a run, through its states, to its end. -/
def Rises {τ : Type} [Preorder τ] (v : σ → τ) (p : Steps σ α) : Prop :=
  ∀ s, (s :: (p.run s).states ++ [(p.run s).final]).Pairwise fun t t' => v t ≤ v t'

namespace Rises

variable {τ : Type} [Preorder τ] {v : σ → τ}

lemma pure (a : α) : Rises v (Pure.pure a : Steps σ α) := fun s => by simp

lemma fail : Rises v (Steps.fail : Steps σ α) := fun s => by simp

lemma get : Rises v (Steps.get : Steps σ σ) := fun s => by simp [Steps.get]

lemma assign {f : σ → σ} (h : ∀ s, v s ≤ v (f s)) : Rises v (Steps.assign f) := fun s => by
  simp [h s]

lemma ofOption : ∀ x : Option α, Rises v (Steps.ofOption x)
  | none => fail
  | some a => pure a

/-- **The rule of sequencing**, for what only rises in both parts. -/
theorem bind {p : Steps σ α} {k : α → Steps σ β} (hp : Rises v p) (hk : ∀ a, Rises v (k a)) :
    Rises v (p >>= k) := by
  intro s
  cases hr : (p.run s).result with
  | none =>
      rw [run_bind_of_raise k hr]
      exact hp s
  | some a =>
      rw [run_bind_of_result k hr]
      obtain ⟨hfirst, -, hlast⟩ := List.pairwise_append.mp (hp s)
      obtain ⟨hnext, hrest⟩ := List.pairwise_cons.mp (hk a (p.run s).final)
      rw [← List.cons_append, List.append_assoc]
      refine List.pairwise_append.mpr ⟨hfirst, hrest, fun t ht t' ht' => ?_⟩
      exact le_trans (hlast t ht _ (List.mem_singleton_self _)) (hnext t' ht')

lemma ite {c : Prop} [Decidable c] {p q : Steps σ α} (hp : Rises v p) (hq : Rises v q) :
    Rises v (if c then p else q) := by
  split_ifs
  · exact hp
  · exact hq

end Rises

/-! ## What a run goes through -/

/-- A run from `s` goes through states with `P` and ends with `Q`, in an exception or with a
result. -/
structure Goes (P : σ → Prop) (p : Steps σ α) (s : σ) (Q : Option α → σ → Prop) : Prop where
  always : Always P p s
  ends : Q (p.run s).result (p.run s).final

namespace Goes

variable {P : σ → Prop} {Q : Option α → σ → Prop} {s : σ}

lemma pure {a : α} (h : Q (some a) s) : Goes P (Pure.pure a : Steps σ α) s Q :=
  ⟨fun _ ht => absurd ht List.not_mem_nil, h⟩

lemma fail (h : Q none s) : Goes P (Steps.fail : Steps σ α) s Q :=
  ⟨fun _ ht => absurd ht List.not_mem_nil, h⟩

lemma assign {f : σ → σ} {R : Option Unit → σ → Prop} (hf : P (f s)) (h : R (some ()) (f s)) :
    Goes P (Steps.assign f) s R :=
  ⟨fun _ ht => List.mem_singleton.mp ht ▸ hf, h⟩

lemma mono {R : Option α → σ → Prop} {p : Steps σ α} (h : Goes P p s Q)
    (hQR : ∀ r t, Q r t → R r t) : Goes P p s R := ⟨h.always, hQR _ _ h.ends⟩

lemma weaken {P' : σ → Prop} {p : Steps σ α} (h : Goes P p s Q) (hP : ∀ t, P t → P' t) :
    Goes P' p s Q := ⟨fun t ht => hP t (h.always t ht), h.ends⟩

/-- **The rule of sequencing**, with a condition `R` between the parts; an exception in the first is
one of the whole. -/
theorem bind {p : Steps σ β} {k : β → Steps σ α} {R : Option β → σ → Prop} (hp : Goes P p s R)
    (hraise : ∀ t, R none t → Q none t) (hk : ∀ b t, R (some b) t → Goes P (k b) t Q) :
    Goes P (p >>= k) s Q := by
  have hends := hp.ends
  cases hr : (p.run s).result with
  | none =>
      rw [hr] at hends
      constructor
      · rw [Always, run_bind_of_raise k hr]
        exact hp.always
      · rw [run_bind_of_raise k hr]
        exact hraise _ hends
  | some b =>
      rw [hr] at hends
      have hrest := hk b _ hends
      constructor
      · rw [Always, run_bind_of_result k hr]
        intro t ht
        rcases List.mem_append.mp ht with ht | ht
        · exact hp.always t ht
        · exact hrest.always t ht
      · rw [run_bind_of_result k hr]
        exact hrest.ends

/-- The first part comes to its end, and the rest goes on from there. -/
lemma seq {p : Steps σ Unit} {k : Unit → Steps σ α} {R : σ → Prop}
    (hp : Goes P p s fun r t => r = some () ∧ R t) (hk : ∀ t, R t → Goes P (k ()) t Q) :
    Goes P (p >>= k) s Q := by
  refine bind hp ?_ ?_
  · rintro t ⟨hnone, -⟩
    exact absurd hnone (by simp)
  · rintro ⟨⟩ t ⟨-, ht⟩
    exact hk t ht

lemma get_bind {k : σ → Steps σ α} (h : Goes P (k s) s Q) : Goes P (Steps.get >>= k) s Q :=
  ⟨h.always, h.ends⟩

/-- One assignment, then the rest. -/
lemma assign_bind {f : σ → σ} {k : Unit → Steps σ α} (hf : P (f s)) (h : Goes P (k ()) (f s) Q) :
    Goes P (Steps.assign f >>= k) s Q := by
  refine seq (R := fun t => t = f s) (assign hf ⟨rfl, rfl⟩) ?_
  rintro t rfl
  exact h

lemma ite {c : Prop} [Decidable c] {p q : Steps σ α} (hp : c → Goes P p s Q)
    (hq : ¬ c → Goes P q s Q) : Goes P (if c then p else q) s Q := by
  split_ifs with h
  · exact hp h
  · exact hq h

end Goes

/-! ## Callbacks -/

variable (callback : M → Steps σ Unit)

/-- The state that a sequence of callbacks leaves.  An exception ends the callback it is raised
in. -/
def afterAll (messages : List M) (s : σ) : σ :=
  messages.foldl (fun s m => ((callback m).run s).final) s

/-- All states there are between two statements, the first included. -/
def points : List M → σ → List σ
  | [], s => [s]
  | m :: messages, s => s :: ((callback m).run s).states ++ points messages ((callback m).run s).final

variable {callback}

lemma afterAll_mem_points : ∀ (messages : List M) (s : σ),
    afterAll callback messages s ∈ points callback messages s
  | [], s => List.mem_singleton_self s
  | m :: messages, s =>
      List.mem_append_right _ (afterAll_mem_points messages ((callback m).run s).final)

/-- What every callback leaves as it should be, all of them do. -/
lemma afterAll_keeps {I : σ → Prop} (hkeep : ∀ m s, I s → I ((callback m).run s).final)
    (messages : List M) {s : σ} (hs : I s) : I (afterAll callback messages s) := by
  induction messages generalizing s with
  | nil => exact hs
  | cons m messages ih => exact ih (hkeep m s hs)

/-- **The invariant rule.**  `I` is kept by every callback, and what it goes through satisfies
`P`. -/
theorem always_points {I P : σ → Prop} {G : M → Prop} (hP : ∀ s, I s → P s)
    (hkeep : ∀ m s, G m → I s → Always P (callback m) s ∧ I ((callback m).run s).final) :
    ∀ {messages : List M} {s : σ}, (∀ m ∈ messages, G m) → I s →
      ∀ t ∈ points callback messages s, P t
  | [], s, _, hs, t, ht => by
      obtain rfl := List.mem_singleton.mp ht
      exact hP _ hs
  | m :: messages, s, hG, hs, t, ht => by
      obtain ⟨hstates, hfinal⟩ := hkeep m s (hG m List.mem_cons_self) hs
      rw [points, List.cons_append, List.mem_cons, List.mem_append] at ht
      rcases ht with rfl | ht | ht
      · exact hP _ hs
      · exact hstates t ht
      · exact always_points hP hkeep (fun m' hm' => hG m' (List.mem_cons_of_mem m hm')) hfinal t ht

end Steps

end Lib
