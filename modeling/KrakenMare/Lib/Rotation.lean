import Mathlib.Data.List.Basic
import Mathlib.Logic.Function.Basic

/-!
# Numbered files that move up

A store keeps contents under names; `name 1`, `name 2`, … are the slots of a stack with the newest
content in slot 1.  To make room the contents move up one slot each, from the top down to slot 1,
so that the top one is overwritten.  This is how log files are rotated, with `name i` a path that
ends in `i`.

A move looks first whether there is anything to move, and removes what is in the way.  `moveUp_eq`
says that as long as no content stands above an empty slot this is the same as a plain renaming,
which also leaves an empty slot empty; the loop keeps that condition.

* `moveUp_eq` — one move, as long as it does not leave a content above an empty slot.
* `shift_spec` — the whole loop: the slots have moved, slot 1 is empty, nothing else has changed.
* `Holds.push` — **with a new content in slot 1 the slots hold a stack again**, of bounded height.

`name` is only assumed to be injective, so that moving one slot does not touch another.
-/

namespace Lib

namespace Rotation

variable {ι α : Type} [DecidableEq ι]

/-- Files with their contents; a name without a file has none. -/
abbrev Store (ι α : Type) := ι → Option α

/-- A file is removed; all other files stay as they are. -/
def remove (file : ι) (f : Store ι α) : Store ι α := Function.update f file none

/-- The content moves over to `dst`, and what was there is lost, as with the `rename` of a file
system. -/
def rename (src dst : ι) (f : Store ι α) : Store ι α :=
  Function.update (Function.update f dst (f src)) src none

/-- Slot `i` moves to slot `i + 1`, which is removed if it is there. -/
def moveUp (name : ℕ → ι) (i : ℕ) (f : Store ι α) : Store ι α :=
  if (f (name i)).isSome then
    rename (name i) (name (i + 1))
      (if (f (name (i + 1))).isSome then remove (name (i + 1)) f else f)
  else f

/-- The slots `n`, …, `1` move up, in this order: the upper ones go first and make room. -/
def shift (name : ℕ → ι) : ℕ → Store ι α → Store ι α
  | 0, f => f
  | i + 1, f => shift name i (moveUp name (i + 1) f)

/-- The slots hold a stack, the newest content in slot 1.  Slot 0 is not in use. -/
structure Holds (name : ℕ → ι) (l : List α) (f : Store ι α) : Prop where
  zero : f (name 0) = none
  slot : ∀ i, f (name (i + 1)) = l[i]?

variable {name : ℕ → ι} {f : Store ι α} {n : ℕ}

/-- Over an empty slot there is nothing to overwrite: the slot above it is empty as well. -/
def Supported (name : ℕ → ι) (i : ℕ) (f : Store ι α) : Prop :=
  f (name i) = none → f (name (i + 1)) = none

/-- A move over a slot that is supported is a `rename`, also when there is no file to move. -/
lemma moveUp_eq (hname : Function.Injective name) {i : ℕ} (h : Supported name i f) :
    moveUp name i f = rename (name i) (name (i + 1)) f := by
  have hne : name i ≠ name (i + 1) := hname.ne (Nat.ne_of_lt (Nat.lt_succ_self i))
  rw [moveUp]
  cases hsrc : f (name i) with
  | none =>
      rw [if_neg (by simp), rename, hsrc, ← h hsrc, Function.update_eq_self, h hsrc, ← hsrc,
        Function.update_eq_self]
  | some a =>
      rw [if_pos (by simp)]
      split_ifs
      · rw [rename, rename, remove, Function.update_of_ne hne, Function.update_idem]
      · rfl

/-- What `n` moves do: each slot has what was below it, the first is empty, and nothing else has
changed. -/
lemma shift_spec (hname : Function.Injective name) : ∀ (n : ℕ) (f : Store ι α),
    (0 < n → Supported name n f) →
    (∀ i, 0 < i → i ≤ n → shift name n f (name (i + 1)) = f (name i)) ∧
      (0 < n → shift name n f (name 1) = none) ∧
      ∀ j, (∀ i, 0 < i → i ≤ n + 1 → name i ≠ j) → shift name n f j = f j
  | 0, f, _ => ⟨fun i h0 hi => absurd h0 (by omega), fun h => absurd h (by omega), fun _ _ => rfl⟩
  | n + 1, f, h => by
      rw [shift, moveUp_eq hname (h n.succ_pos)]
      have hlow : ∀ j, name (n + 1) ≠ j → name (n + 2) ≠ j →
          rename (name (n + 1)) (name (n + 2)) f j = f j := by
        intro j h1 h2
        rw [rename, Function.update_of_ne h1.symm, Function.update_of_ne h2.symm]
      have hsrc : rename (name (n + 1)) (name (n + 2)) f (name (n + 1)) = none :=
        Function.update_self ..
      have hdst : rename (name (n + 1)) (name (n + 2)) f (name (n + 2)) = f (name (n + 1)) := by
        rw [rename, Function.update_of_ne (hname.ne (by omega)), Function.update_self]
      obtain ⟨hmoved, hfirst, hother⟩ := shift_spec hname n
        (rename (name (n + 1)) (name (n + 2)) f) fun _ _ => hsrc
      refine ⟨fun i h0 hi => ?_, fun _ => ?_, fun j hj => ?_⟩
      · rcases Nat.lt_or_ge n i with hlt | hge
        · obtain rfl : i = n + 1 := by omega
          rw [hother _ fun k _ hk => hname.ne (by omega), hdst]
        · rw [hmoved i h0 hge, hlow _ (hname.ne (by omega)) (hname.ne (by omega))]
      · rcases Nat.eq_zero_or_pos n with rfl | hpos
        · exact hsrc
        · exact hfirst hpos
      · rw [hother j fun i h0 hi => hj i h0 (by omega),
          hlow j (hj (n + 1) (by omega) (by omega)) (hj (n + 2) (by omega) (by omega))]

/-- Other files are left alone. -/
lemma shift_of_ne {j : ι} (hj : ∀ i, name i ≠ j) : ∀ (n : ℕ) (f : Store ι α), shift name n f j = f j
  | 0, f => rfl
  | n + 1, f => by
      rw [shift, shift_of_ne hj n, moveUp]
      split_ifs <;> simp [rename, remove, Function.update_of_ne, (hj _).symm]

/-- Empty slots stay empty, and nothing else changes. -/
lemma shift_of_none : ∀ {n : ℕ} {f : Store ι α}, (∀ i, f (name i) = none) → shift name n f = f
  | 0, f, _ => rfl
  | n + 1, f, h => by
      have hstill : moveUp name (n + 1) f = f := if_neg (by simp [h])
      rw [shift, hstill, shift_of_none h]

omit [DecidableEq ι] in
lemma Holds.congr {l : List α} {g : Store ι α} (h : Holds name l f)
    (heq : ∀ i, g (name i) = f (name i)) : Holds name l g :=
  ⟨(heq 0).trans h.zero, fun i => (heq (i + 1)).trans (h.slot i)⟩

/-- **The stack.**  With room for `n + 1` contents, the loop and a new content in slot 1 push it;
the oldest one is dropped when the room is used up. -/
theorem Holds.push (hname : Function.Injective name) {l : List α} (h : Holds name l f)
    (hroom : l.length ≤ n + 1) (a : α) :
    Holds name (a :: l.take n) (Function.update (shift name n f) (name 1) (some a)) := by
  have hsupported : 0 < n → Supported name n f := by
    intro hpos hnone
    obtain ⟨m, rfl⟩ : ∃ m, n = m + 1 := ⟨n - 1, by omega⟩
    rw [h.slot, List.getElem?_eq_none_iff] at hnone ⊢
    omega
  obtain ⟨hmoved, -, hother⟩ := shift_spec hname n f hsupported
  constructor
  · rw [Function.update_of_ne (hname.ne (by omega)), hother _ fun i h0 _ => hname.ne (by omega)]
    exact h.zero
  · intro i
    cases i with
    | zero => exact Function.update_self ..
    | succ i =>
        rw [Function.update_of_ne (hname.ne (by omega)), List.getElem?_cons_succ]
        rcases Nat.lt_or_ge i n with hlt | hge
        · rw [hmoved (i + 1) i.succ_pos hlt, h.slot, List.getElem?_take_of_lt hlt]
        · have habove : (l.take n)[i]? = none := List.getElem?_eq_none (by simp; omega)
          rw [hother _ fun k _ hk => hname.ne (by omega), h.slot, habove]
          exact List.getElem?_eq_none (by omega)

end Rotation

end Lib
