import Mathlib.Data.List.Basic

/-!
# Programs that call an outside world

A `Prog C R ε α` is a program that makes calls `c : C`, gets an answer of type `R c` for each, and
ends with a value or an exception.  It is a tree: at each call it branches over the answers.  What
a call does to the world is not part of the program, so the same program can be run in several
ways.

* `run` — alone, on a world of its own.
* `attempt` — alone, where a call may also throw instead of being answered; the program then ends
  at the first call that does.
* `Lib.Interleaving` — in turn with others, over one world.

**The logic of one program.**  `Along P Q p l` is about a program whatever the answers are: having
made the calls and got the answers in `l`, every call it makes satisfies `P` and its end satisfies
`Q`, both being about the calls and answers so far.  The rules are `Along.call` and `Along.bind`.

A statement `Along P Q p []` is proved once for a program, by going through its calls, and says
then what every scheduler will see of it.  `attempt_of_along` is a use of it for a program that
runs alone: when `P` says of every call that it does not throw, `attempt` is `run`.
-/

namespace Lib

/-- A program, by what it does next: it has come to its end, or it makes a call and goes on with the
answer. -/
inductive Prog (C : Type) (R : C → Type) (ε α : Type) : Type
  | ret (a : α)
  | throw (e : ε)
  | call (c : C) (k : R c → Prog C R ε α)

namespace Prog

variable {C : Type} {R : C → Type} {ε α β : Type}

/-- First the one program, then with its result the other.  An exception of the first is one of
both. -/
def bind : Prog C R ε α → (α → Prog C R ε β) → Prog C R ε β
  | ret a, f => f a
  | throw e, _ => throw e
  | call c k, f => call c fun r => (k r).bind f

instance : Monad (Prog C R ε) where
  pure := ret
  bind := bind

/-- One call, its answer being the result; longer programs are put together from these. -/
def perform (c : C) : Prog C R ε (R c) := call c ret

@[simp] lemma pure_eq (a : α) : (pure a : Prog C R ε α) = ret a := rfl

@[simp] lemma ret_bind (a : α) (f : α → Prog C R ε β) : (ret a : Prog C R ε α) >>= f = f a := rfl

@[simp] lemma throw_bind (e : ε) (f : α → Prog C R ε β) :
    (throw e : Prog C R ε α) >>= f = throw e := rfl

@[simp] lemma call_bind (c : C) (k : R c → Prog C R ε α) (f : α → Prog C R ε β) :
    call c k >>= f = call c fun r => k r >>= f := rfl

@[simp] lemma perform_bind (c : C) (f : R c → Prog C R ε β) :
    (perform c : Prog C R ε (R c)) >>= f = call c f := rfl

lemma bind_assoc {γ : Type} (p : Prog C R ε α) (f : α → Prog C R ε β) (g : β → Prog C R ε γ) :
    p >>= f >>= g = p >>= fun a => f a >>= g := by
  induction p with
  | ret a => rfl
  | throw e => rfl
  | call c k ih => exact congrArg (call c) (funext ih)

/-- The program has come to its end without an exception, and has a result. -/
def returned : Prog C R ε α → Bool
  | ret _ => true
  | _ => false

/-! ## Running alone -/

section
variable {W : Type} (exec : (c : C) → W → R c × W)

/-- A program alone on a world, where `exec` says what each call does and answers. -/
def run : Prog C R ε α → W → Except ε α × W
  | ret a, w => (.ok a, w)
  | throw e, w => (.error e, w)
  | call c k, w => run (k (exec c w).1) (exec c w).2

@[simp] lemma run_ret (a : α) (w : W) : (ret a : Prog C R ε α).run exec w = (.ok a, w) := rfl

@[simp] lemma run_throw (e : ε) (w : W) : (throw e : Prog C R ε α).run exec w = (.error e, w) := rfl

@[simp] lemma run_call (c : C) (k : R c → Prog C R ε α) (w : W) :
    (call c k).run exec w = (k (exec c w).1).run exec (exec c w).2 := rfl

/-- The first part runs to its end, and the rest goes on from there, with its result and in the
state it has left. -/
theorem run_bind_ok {p : Prog C R ε α} {f : α → Prog C R ε β} {w w' : W} {a : α}
    (h : p.run exec w = (.ok a, w')) : (p >>= f).run exec w = (f a).run exec w' := by
  induction p generalizing w with
  | ret b =>
      obtain ⟨hb, rfl⟩ := Prod.mk.inj h
      obtain rfl := Except.ok.inj hb
      rfl
  | throw e => exact absurd (Prod.mk.inj h).1 (by simp)
  | call c k ih => exact ih _ h

end

/-! ## Running with calls that throw -/

section
variable {W : Type} (exec : (c : C) → W → R c × W) (throws : C → Bool)

/-- A call that throws has no effect and ends the program; what the calls before it have done
remains. -/
def attempt : Prog C R ε α → W → Except (ε ⊕ C) α × W
  | ret a, w => (.ok a, w)
  | throw e, w => (.error (.inl e), w)
  | call c k, w =>
      if throws c then (.error (.inr c), w) else attempt (k (exec c w).1) (exec c w).2

@[simp] lemma attempt_ret (a : α) (w : W) :
    (ret a : Prog C R ε α).attempt exec throws w = (.ok a, w) := rfl

@[simp] lemma attempt_throw (e : ε) (w : W) :
    (throw e : Prog C R ε α).attempt exec throws w = (.error (.inl e), w) := rfl

@[simp] lemma attempt_call (c : C) (k : R c → Prog C R ε α) (w : W) :
    (call c k).attempt exec throws w = if throws c then (.error (.inr c), w)
      else (k (exec c w).1).attempt exec throws (exec c w).2 := rfl

/-- The first part is attempted to its end, and the rest goes on from there; no call of it has
thrown. -/
theorem attempt_bind_ok {p : Prog C R ε α} {f : α → Prog C R ε β} {w w' : W} {a : α}
    (h : p.attempt exec throws w = (.ok a, w')) :
    (p >>= f).attempt exec throws w = (f a).attempt exec throws w' := by
  induction p generalizing w with
  | ret b =>
      obtain ⟨hb, rfl⟩ := Prod.mk.inj h
      obtain rfl := Except.ok.inj hb
      rfl
  | throw e => exact absurd (Prod.mk.inj h).1 (by simp)
  | call c k ih =>
      rw [attempt_call] at h
      rw [call_bind, attempt_call]
      split_ifs at h ⊢ with hc
      · exact absurd (Prod.mk.inj h).1 (by simp)
      · exact ih _ h

end

/-! ## The logic of one program -/

section
variable (P : List (Σ c, R c) → C → Prop) (Q : List (Σ c, R c) → Except ε α → Prop)

/-- Whatever the answers are, every call satisfies `P` and the end satisfies `Q`.  Both are about
the list of calls and answers so far, which starts as the given one. -/
def Along : Prog C R ε α → List (Σ c, R c) → Prop
  | ret a, l => Q l (.ok a)
  | throw e, l => Q l (.error e)
  | call c k, l => P l c ∧ ∀ r, Along (k r) (l ++ [⟨c, r⟩])

end

variable {P : List (Σ c, R c) → C → Prop} {Q : List (Σ c, R c) → Except ε α → Prop}
  {Q' : List (Σ c, R c) → Except ε β → Prop} {l : List (Σ c, R c)}

lemma Along.call {c : C} {k : R c → Prog C R ε α} (hc : P l c)
    (hk : ∀ r, Along P Q (k r) (l ++ [⟨c, r⟩])) : Along P Q (.call c k) l := ⟨hc, hk⟩

/-- **The rule of sequencing.**  What holds at the end of the first program is what the second may
start from. -/
theorem Along.bind {p : Prog C R ε α} {f : α → Prog C R ε β} (hp : Along P Q p l)
    (hok : ∀ l' a, Q l' (.ok a) → Along P Q' (f a) l')
    (herr : ∀ l' e, Q l' (.error e) → Q' l' (.error e)) : Along P Q' (p >>= f) l := by
  induction p generalizing l with
  | ret a => exact hok l a hp
  | throw e => exact herr l e hp
  | call c k ih => exact ⟨hp.1, fun r => ih r (hp.2 r)⟩

/-- A program none of whose calls throws runs to its end, as it does where no call can throw. -/
theorem attempt_of_along {W : Type} {exec : (c : C) → W → R c × W} {throws : C → Bool}
    {p : Prog C R ε α} (h : Along (fun _ c => throws c = false) Q p l) {w w' : W} {a : α}
    (hrun : p.run exec w = (.ok a, w')) : p.attempt exec throws w = (.ok a, w') := by
  induction p generalizing l w with
  | ret b =>
      obtain ⟨hb, rfl⟩ := Prod.mk.inj hrun
      obtain rfl := Except.ok.inj hb
      rfl
  | throw e => exact absurd (Prod.mk.inj hrun).1 (by simp)
  | call c k ih =>
      rw [attempt_call, if_neg (by simp [h.1])]
      exact ih _ (h.2 _) hrun

end Prog

end Lib
