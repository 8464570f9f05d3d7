import Mathlib.Algebra.BigOperators.Group.Finset.Piecewise
import Mathlib.Algebra.Order.Group.Multiset
import Mathlib.Data.List.Flatten
import Mathlib.Data.List.Perm.Basic
import Mathlib.Data.List.Range
import Mathlib.Tactic.Ring

/-!
# Cutting a stream and handing it out

General facts about a stream that is cut into pieces and about pieces that are dealt to several
receivers, by turns or by a key.  Nothing here is about time: a stream is a list.

**Cutting.**  `getElem?_flatten` says where an element of the `i`-th piece is found in the stream:
when the pieces before it have length `N`, the piece starts at `i * N`.

**Handing out by a key.**

* `perm_flatMap_range` — the receivers `0 .. T-1`, each taking the pieces of its own key, together
  take every piece once.
* `sum_flatMap_key` — the same for a key that some pieces do not have: these go to nobody.
* `pairwise_of_filter` — an order among the pieces of one key, and between pieces of different
  keys, is an order of all.

**Handing out in turn.**  `getElem?_deal` says that the receiver `t` gets each `T`-th piece,
starting with the one that `turn` names, and `perm_flatMap_deal` that all receivers together get
everything.

**A pass that may fail.**  `mem_of_mapM`, `map_of_mapM` and `isSome_mapM` are about a pass over a
list that may fail at each of its elements, as a loop with lookups does.
-/

namespace Lib

variable {α : Type}

/-! ## Cutting -/

lemma length_flatten_of_length_eq {N : ℕ} : ∀ {bs : List (List α)}, (∀ b ∈ bs, b.length = N) →
    bs.flatten.length = bs.length * N
  | [], _ => by simp
  | b :: bs, h => by
      have ih := length_flatten_of_length_eq fun c hc => h c (List.mem_cons_of_mem b hc)
      rw [List.flatten_cons, List.length_append, ih, h b List.mem_cons_self, List.length_cons]
      ring

/-- An element of the `i`-th piece, in the stream.  Only the pieces before it need have length
`N`. -/
theorem getElem?_flatten {N : ℕ} : ∀ {bs : List (List α)} (rest : List α) (i k : ℕ)
    (hi : i < bs.length) (hk : k < bs[i].length),
    (∀ j (hj : j < bs.length), j < i → bs[j].length = N) →
    (bs.flatten ++ rest)[i * N + k]? = some bs[i][k]
  | b :: bs, rest, 0, k, _, hk, _ => by
      have hk' : k < b.length := hk
      rw [Nat.zero_mul, Nat.zero_add, List.flatten_cons, List.append_assoc,
        List.getElem?_append_left hk', List.getElem?_eq_getElem hk']
      rfl
  | b :: bs, rest, i + 1, k, hi, hk, h => by
      have hb : b.length = N := h 0 (Nat.zero_lt_of_lt hi) (Nat.succ_pos i)
      have hi' : i < bs.length := by simpa using hi
      have ih := getElem?_flatten rest i k hi' (by simpa using hk) fun j hj hji =>
        h (j + 1) (Nat.succ_lt_succ hj) (Nat.succ_lt_succ hji)
      have hpos : (i + 1) * N + k - b.length = i * N + k := by
        rw [hb, Nat.succ_mul]
        omega
      have hle : b.length ≤ (i + 1) * N + k := by
        rw [hb, Nat.succ_mul]
        omega
      rw [List.flatten_cons, List.append_assoc, List.getElem?_append_right hle, hpos, ih]
      rfl

lemma filterMap_eq_map_range {β : Type} (f : α → Option β) : ∀ (l : List α) (v : ℕ → β),
    (∀ k (hk : k < l.length), f l[k] = some (v k)) → l.filterMap f = (List.range l.length).map v
  | [], _, _ => rfl
  | a :: l, v, h => by
      have ih := filterMap_eq_map_range f l (fun k => v (k + 1)) fun k hk =>
        h (k + 1) (Nat.succ_lt_succ hk)
      have ha : f a = some (v 0) := h 0 (Nat.succ_pos _)
      rw [List.filterMap_cons_some ha, ih, List.length_cons, List.range_succ_eq_map, List.map_cons,
        List.map_map]
      rfl

lemma flatMap_zipIdx {β : Type} (f : α → List β) (l : List α) :
    (l.zipIdx.flatMap fun x => f x.1) = l.flatMap f := by
  conv_rhs => rw [← List.zipIdx_map_fst 0 l, List.flatMap_map]

/-! ## Handing out -/

/-- Dealing by a key below `T` keeps every element, once: the piles together are the stream, in
another order. -/
theorem perm_flatMap_range (key : α → ℕ) (T : ℕ) (l : List α) (h : ∀ a ∈ l, key a < T) :
    ((List.range T).flatMap fun t => l.filter fun a => key a = t).Perm l := by
  have below : ∀ T, ((List.range T).flatMap fun t => l.filter fun a => key a = t).Perm
      (l.filter fun a => key a < T) := by
    intro T
    induction T with
    | zero => simp
    | succ T ih =>
        rw [List.range_succ, List.flatMap_append, List.flatMap_singleton]
        refine (ih.append_right _).trans ?_
        have split := List.filter_append_perm (fun a => decide (key a < T))
          (l.filter fun a => key a < T + 1)
        rw [List.filter_filter, List.filter_filter] at split
        have hlt : (fun a => decide (key a < T) && decide (key a < T + 1))
            = fun a => decide (key a < T) := by
          funext a
          rw [← Bool.decide_and]
          exact decide_eq_decide.mpr (by omega)
        have heq : (fun a => !decide (key a < T) && decide (key a < T + 1))
            = fun a => decide (key a = T) := by
          funext a
          rw [← decide_not, ← Bool.decide_and]
          exact decide_eq_decide.mpr (by omega)
        rwa [hlt, heq] at split
  refine (below T).trans ?_
  rw [List.filter_eq_self.mpr (by simpa using h)]

/-- What receiver `t` of `T` gets when the elements are dealt in turn, the first one to `s`. -/
def deal (T s t : ℕ) (l : List α) : List α :=
  (l.zipIdx.filter fun x => (s + x.2) % T = t).map Prod.fst

/-- The position of the first element dealt to `t`, the first element of all being dealt to `s`. -/
def turn (T s t : ℕ) : ℕ := (t + (T - s % T)) % T

lemma deal_cons (T s t : ℕ) (a : α) (l : List α) :
    deal T s t (a :: l) = if s % T = t then a :: deal T (s + 1) t l else deal T (s + 1) t l := by
  have hrest : ((l.zipIdx 1).filter fun x => (s + x.2) % T = t).map Prod.fst
      = deal T (s + 1) t l := by
    have hmap : l.zipIdx 1 = l.zipIdx.map fun x => (x.1, 1 + x.2) := List.zipIdx_eq_map_add ..
    simp only [hmap, deal, List.filter_map, List.map_map, Function.comp_def, Nat.add_assoc]
  rw [← hrest, deal, List.zipIdx_cons]
  by_cases h : s % T = t
  · simp [h]
  · simp [h]

lemma turn_eq {T t : ℕ} (hT : 0 < T) (ht : t < T) (s : ℕ) :
    turn T s t = if t < s % T then t + T - s % T else t - s % T := by
  have hlt := Nat.mod_lt s hT
  unfold turn
  split_ifs with h
  · rw [Nat.mod_eq_of_lt (by omega)]
    omega
  · have hsum : t + (T - s % T) = t - s % T + T := by omega
    rw [hsum, Nat.add_mod_right, Nat.mod_eq_of_lt (by omega)]

lemma turn_of_mod_eq {T s t : ℕ} (hT : 0 < T) (ht : t < T) (h : s % T = t) : turn T s t = 0 := by
  rw [turn_eq hT ht, h, if_neg (lt_irrefl t), Nat.sub_self]

lemma turn_succ {T t : ℕ} (hT : 0 < T) (ht : t < T) (s : ℕ) :
    turn T (s + 1) t = if s % T = t then T - 1 else turn T s t - 1 := by
  have hlt := Nat.mod_lt s hT
  have hsucc : (s + 1) % T = if s % T + 1 = T then 0 else s % T + 1 := by
    rw [← Nat.mod_add_mod]
    split_ifs with h
    · rw [h, Nat.mod_self]
    · exact Nat.mod_eq_of_lt (by omega)
  rw [turn_eq hT ht, turn_eq hT ht, hsucc]
  split_ifs <;> omega

lemma turn_pos {T s t : ℕ} (hT : 0 < T) (ht : t < T) (h : s % T ≠ t) : 0 < turn T s t := by
  have hlt := Nat.mod_lt s hT
  rw [turn_eq hT ht]
  split_ifs <;> omega

lemma turn_lt {T : ℕ} (hT : 0 < T) (s t : ℕ) : turn T s t < T := Nat.mod_lt _ hT

/-- Receiver `t` gets every `T`-th element, starting with the one whose turn is his. -/
theorem getElem?_deal {T t : ℕ} (hT : 0 < T) (ht : t < T) : ∀ (l : List α) (s j : ℕ),
    (deal T s t l)[j]? = l[turn T s t + j * T]?
  | [], s, j => by simp [deal]
  | a :: l, s, j => by
      rw [deal_cons]
      split_ifs with h
      · rw [turn_of_mod_eq hT ht h]
        cases j with
        | zero => simp
        | succ j =>
            rw [List.getElem?_cons_succ, getElem?_deal hT ht l (s + 1) j, turn_succ hT ht s, if_pos h]
            have hpos : 0 + (j + 1) * T = T - 1 + j * T + 1 := by
              rw [Nat.succ_mul]
              omega
            rw [hpos, List.getElem?_cons_succ]
      · have hfirst := turn_pos hT ht h
        rw [getElem?_deal hT ht l (s + 1) j, turn_succ hT ht s, if_neg h]
        have hpos : turn T s t + j * T = turn T s t - 1 + j * T + 1 := by omega
        rw [hpos, List.getElem?_cons_succ]

/-- The receivers together get everything, once, if there is a receiver at all. -/
theorem perm_flatMap_deal {T : ℕ} (hT : 0 < T) (s : ℕ) (l : List α) :
    ((List.range T).flatMap fun t => deal T s t l).Perm l := by
  have h := (perm_flatMap_range (fun x : α × ℕ => (s + x.2) % T) T l.zipIdx
    fun x _ => Nat.mod_lt _ hT).map Prod.fst
  rw [List.map_flatMap] at h
  simpa [deal] using h

/-- Receivers take what is made of the pieces of their key; what has no key is taken by none. -/
theorem sum_flatMap_key {κ β : Type} [Fintype κ] [DecidableEq κ] (key : α → Option κ)
    (f : α → List β) (l : List α) :
    ∑ k, ((l.filter fun a => key a = some k).flatMap f : Multiset β)
      = ((l.filter fun a => (key a).isSome).flatMap f : List β) := by
  induction l with
  | nil => simp
  | cons a l ih =>
      cases hkey : key a with
      | none => simpa [List.filter_cons, hkey] using ih
      | some k =>
          have hsplit : ∀ k', (((a :: l).filter fun a => key a = some k').flatMap f : Multiset β)
              = (if k = k' then (f a : Multiset β) else 0)
                + ((l.filter fun a => key a = some k').flatMap f : List β) := by
            intro k'
            by_cases hk : k = k' <;> simp [hkey, hk]
          simp only [hsplit, Finset.sum_add_distrib, ih, Finset.sum_ite_eq, Finset.mem_univ, if_true]
          simp [hkey]

/-- What holds of the elements with one key, in order, and of any two with different keys, holds of
all, in order. -/
theorem pairwise_of_filter {κ : Type} [DecidableEq κ] {key : α → κ} {R : α → α → Prop} :
    ∀ {l : List α}, (∀ k, (l.filter fun a => key a = k).Pairwise R) →
      (∀ a ∈ l, ∀ b ∈ l, key a ≠ key b → R a b) → l.Pairwise R
  | [], _, _ => List.Pairwise.nil
  | a :: l, hsame, hother => by
      refine List.pairwise_cons.mpr ⟨fun b hb => ?_, pairwise_of_filter (fun k => ?_) fun b hb c hc =>
        hother b (List.mem_cons_of_mem a hb) c (List.mem_cons_of_mem a hc)⟩
      · by_cases hkey : key a = key b
        · have hrest := hsame (key b)
          rw [List.filter_cons_of_pos (by simpa using hkey)] at hrest
          exact (List.pairwise_cons.mp hrest).1 b (List.mem_filter.mpr ⟨hb, by simp⟩)
        · exact hother a List.mem_cons_self b (List.mem_cons_of_mem a hb) hkey
      · exact (hsame k).sublist ((List.sublist_cons_self a l).filter _)

/-! ## A pass that may fail -/

section
variable {β : Type} {f : α → Option β}

/-- Every result of a `mapM` that succeeds is that of some element of the list. -/
lemma mem_of_mapM : ∀ {l : List α} {l' : List β}, l.mapM f = some l' → ∀ b ∈ l',
    ∃ a ∈ l, f a = some b
  | [], l', h, b, hb => by
      obtain rfl := Option.some.inj h
      exact absurd hb List.not_mem_nil
  | a :: l, l', h, b, hb => by
      rw [List.mapM_cons] at h
      obtain ⟨b', hb', hrest⟩ := Option.bind_eq_some_iff.mp h
      obtain ⟨bs, hbs, hl'⟩ := Option.bind_eq_some_iff.mp hrest
      obtain rfl := Option.some.inj hl'
      rcases List.mem_cons.mp hb with rfl | hb
      · exact ⟨a, List.mem_cons_self, hb'⟩
      · obtain ⟨a', ha', hfa'⟩ := mem_of_mapM hbs b hb
        exact ⟨a', List.mem_cons_of_mem a ha', hfa'⟩

/-- What `f` says of each element, the pass says of the list. -/
lemma map_of_mapM {γ : Type} {g : β → γ} {k : α → γ} (hf : ∀ a b, f a = some b → g b = k a) :
    ∀ {l : List α} {l' : List β}, l.mapM f = some l' → l'.map g = l.map k
  | [], l', h => by
      obtain rfl := Option.some.inj h
      rfl
  | a :: l, l', h => by
      rw [List.mapM_cons] at h
      obtain ⟨b, hb, hrest⟩ := Option.bind_eq_some_iff.mp h
      obtain ⟨bs, hbs, hl'⟩ := Option.bind_eq_some_iff.mp hrest
      obtain rfl := Option.some.inj hl'
      rw [List.map_cons, List.map_cons, hf a b hb, map_of_mapM hf hbs]

lemma isSome_mapM : ∀ {l : List α}, (∀ a ∈ l, (f a).isSome) → (l.mapM f).isSome
  | [], _ => rfl
  | a :: l, h => by
      obtain ⟨b, hb⟩ := Option.isSome_iff_exists.mp (h a List.mem_cons_self)
      obtain ⟨bs, hbs⟩ := Option.isSome_iff_exists.mp
        (isSome_mapM fun a' ha' => h a' (List.mem_cons_of_mem a ha'))
      rw [List.mapM_cons, hb, hbs]
      rfl

end

end Lib
