import Mathlib.Data.List.DropRight
import Mathlib.Data.List.Induction
import Mathlib.Data.Int.Order.Basic
import Mathlib.Tactic.Linarith

/-!
# A monitor for counters that climb by single steps

A monitor watches the values of one counter.  It expects the first value to be `1` and every later
one to repeat the last value or to exceed it by one; anything else raises an alarm, which carries
the size of the jump.  Between two values it remembers nothing but the last one.

* `alarms_append` — watching a stream in two parts.
* `alarms_replicate` — a counter that stands still alarms at most once, at its first value.

**Bursts.**  A counter is often sent in bursts, the `j`-th of which shows `j + 1`, and the channel
loses some of them as a whole.  A burst may start late, with one value that still shows the count
of the burst before it.  This is what blinds the monitor: after a burst that was lost, the late
value of the next one shows exactly the step that the lost one would have shown.

* `alarms_received_of_all` — **no false alarm**: if every burst arrives there is none, given that
  the first one is not late.
* `alarms_after_loss_iff` — **which losses are seen**: those after which the next burst raises an
  alarm.
* `alarms_exact_iff` — **the size**: when what an alarm says is the number of bursts lost.

The last two are equivalences, for the next burst after any history of arrivals and losses, and
without a condition on which of the bursts are late.
-/

namespace Lib

namespace Monitor

/-- The alarms raised by one value, after the last value seen or after none. -/
def check : Option ℤ → ℤ → List ℤ
  | some c, v => if ¬ c = v - 1 ∧ ¬ c - v = 0 then [v - c] else []
  | none, v => if v ≠ 1 then [v - 1] else []

/-- The alarms raised by a stream of values, `last` being the last value seen before it. -/
def alarms (last : Option ℤ) : List ℤ → List ℤ
  | [] => []
  | v :: vs => check last v ++ alarms (some v) vs

/-- The last value seen after a stream, or the one from before if the stream is empty. -/
def lastSeen (last : Option ℤ) (vs : List ℤ) : Option ℤ := vs.getLast?.or last

@[simp] lemma alarms_nil (last : Option ℤ) : alarms last [] = [] := rfl

@[simp] lemma lastSeen_nil (last : Option ℤ) : lastSeen last [] = last := rfl

@[simp] lemma lastSeen_cons (last : Option ℤ) (v : ℤ) (vs : List ℤ) :
    lastSeen last (v :: vs) = lastSeen (some v) vs := by
  cases vs with
  | nil => rfl
  | cons w vs => simp [lastSeen, List.getLast?_cons]

lemma lastSeen_append (last : Option ℤ) (vs ws : List ℤ) :
    lastSeen last (vs ++ ws) = lastSeen (lastSeen last vs) ws := by
  induction vs generalizing last with
  | nil => rfl
  | cons v vs ih => rw [List.cons_append, lastSeen_cons, lastSeen_cons, ih]

/-- What is watched in two parts raises the alarms of both, the second part starting from the last
value of the first. -/
theorem alarms_append (last : Option ℤ) (vs ws : List ℤ) :
    alarms last (vs ++ ws) = alarms last vs ++ alarms (lastSeen last vs) ws := by
  induction vs generalizing last with
  | nil => rfl
  | cons v vs ih => rw [List.cons_append, alarms, alarms, lastSeen_cons, ih, List.append_assoc]

lemma check_self (v : ℤ) : check (some v) v = [] := by simp [check]

lemma check_succ (v : ℤ) : check (some v) (v + 1) = [] := by simp [check]

lemma check_none_ne_nil {v : ℤ} : check none v ≠ [] ↔ v ≠ 1 := by
  rw [check]
  split_ifs with h <;> simp [h]

lemma check_some_ne_nil {c v : ℤ} : check (some c) v ≠ [] ↔ v ≠ c + 1 ∧ v ≠ c := by
  rw [check]
  split_ifs with h
  · simp only [ne_eq, List.cons_ne_self, not_false_eq_true, true_iff]
    omega
  · simp only [ne_eq, not_true_eq_false, false_iff]
    omega

@[simp] lemma lastSeen_replicate (last : Option ℤ) (v : ℤ) (n : ℕ) :
    lastSeen last (List.replicate (n + 1) v) = some v := by
  simp [lastSeen, List.getLast?_replicate]

/-- A value that is repeated raises no alarm beyond that of its first occurrence. -/
@[simp] theorem alarms_replicate (last : Option ℤ) (v : ℤ) (n : ℕ) :
    alarms last (List.replicate (n + 1) v) = check last v := by
  induction n generalizing last with
  | zero => simp [alarms]
  | succ n ih => rw [List.replicate_succ, alarms, ih, check_self, List.append_nil]

/-! ## Bursts

A counter is often sent in bursts: many values at once, all showing the same count.  The `j`-th
burst shows `j + 1`, except that its first value may be late and still show `j`.
-/

/-- The `j`-th burst, of `L + 1` values: all of them the number of the burst, from 1 on, or the
first of them one less. -/
def burst (late : Bool) (j L : ℕ) : List ℤ :=
  (if late then (j : ℤ) else j + 1) :: List.replicate L ((j : ℤ) + 1)

/-- A sequence of bursts; only the last one may have a single value. -/
def Bursts (late : ℕ → Bool) (cs : List (List ℤ)) : Prop :=
  ∀ j (hj : j < cs.length), ∃ L, cs[j] = burst (late j) j L ∧ (j + 1 < cs.length → 0 < L)

/-- What is received when some bursts are lost: each burst comes with whether it arrived. -/
def received (l : List (List ℤ × Bool)) : List ℤ := (l.filter Prod.snd).flatMap Prod.fst

lemma received_concat (l : List (List ℤ × Bool)) (c : List ℤ) (got : Bool) :
    received (l ++ [(c, got)]) = received l ++ if got then c else [] := by
  cases got <;> simp [received]

/-- All values of a burst after its first show `j + 1` and raise no alarm. -/
lemma alarms_burst (last : Option ℤ) (late : Bool) (j L : ℕ) :
    alarms last (burst late j L) = check last (if late then (j : ℤ) else j + 1) := by
  have htail : ∀ v : ℤ, v = j ∨ v = j + 1 →
      alarms (some v) (List.replicate L ((j : ℤ) + 1)) = [] := by
    intro v hv
    cases L with
    | zero => rfl
    | succ L =>
        rw [alarms_replicate]
        rcases hv with rfl | rfl
        · exact check_succ _
        · exact check_self _
  rw [burst, alarms, htail _ (by cases late <;> simp), List.append_nil]

lemma lastSeen_burst (last : Option ℤ) (late : Bool) (j : ℕ) {L : ℕ} (hL : 0 < L) :
    lastSeen last (burst late j L) = some ((j : ℤ) + 1) := by
  obtain ⟨L, rfl⟩ := Nat.exists_eq_succ_of_ne_zero hL.ne'
  rw [burst, lastSeen_cons, lastSeen_replicate]

variable {late : ℕ → Bool}

/-- The next burst, after those of `l`. -/
lemma Bursts.next {l : List (List ℤ × Bool)} {c : List ℤ} {rest : List (List ℤ)}
    (h : Bursts late (l.map Prod.fst ++ c :: rest)) :
    ∃ L, c = burst (late l.length) l.length L ∧ (rest ≠ [] → 0 < L) := by
  obtain ⟨L, hc, hL⟩ := h l.length (by simp)
  refine ⟨L, by simpa using hc, fun hrest => hL ?_⟩
  simpa using List.length_pos_iff.mpr hrest

/-- The last value received before a burst shows the last burst that arrived. -/
lemma lastSeen_received (l : List (List ℤ × Bool)) : ∀ {c : List ℤ} {rest : List (List ℤ)},
    Bursts late (l.map Prod.fst ++ c :: rest) →
    (lastSeen none (received l) = none ∧ ∀ x ∈ l, x.2 = false) ∨
    ∃ j, ∃ hj : j < l.length, l[j].2 = true ∧
      (∀ k (hk : k < l.length), j < k → l[k].2 = false) ∧
      lastSeen none (received l) = some ((j : ℤ) + 1) := by
  induction l using List.reverseRecOn with
  | nil => exact fun _ => Or.inl ⟨rfl, by simp⟩
  | append_singleton l x ih =>
      obtain ⟨b, got⟩ := x
      intro c rest h
      have h' : Bursts late (l.map Prod.fst ++ b :: c :: rest) := by simpa using h
      cases got with
      | false =>
          rw [received_concat, if_neg (by simp), List.append_nil]
          rcases ih h' with ⟨hnone, hall⟩ | ⟨j, hj, hgot, hlost, hlast⟩
          · refine Or.inl ⟨hnone, fun x hx => ?_⟩
            rcases List.mem_append.mp hx with hx | hx
            · exact hall x hx
            · rw [List.mem_singleton.mp hx]
          · refine Or.inr ⟨j, by simp; omega, by rwa [List.getElem_append_left hj], ?_, hlast⟩
            intro k hk hjk
            rcases Nat.lt_or_ge k l.length with hkl | hkl
            · rw [List.getElem_append_left hkl]
              exact hlost k hkl hjk
            · have hk' : k = l.length := by
                simp at hk
                omega
              subst hk'
              simp
      | true =>
          obtain ⟨L, rfl, hL⟩ := h'.next
          refine Or.inr ⟨l.length, by simp, by simp, ?_, ?_⟩
          · intro k hk hlk
            simp at hk
            omega
          · rw [received_concat, if_pos rfl, lastSeen_append, lastSeen_burst _ _ _ (hL (by simp))]

lemma Bursts.of_append {cs ds : List (List ℤ)} (h : Bursts late (cs ++ ds)) : Bursts late cs := by
  intro j hj
  obtain ⟨L, hc, hL⟩ := h j (by simp; omega)
  exact ⟨L, by rwa [List.getElem_append_left hj] at hc, fun hlt => hL (by simp; omega)⟩

/-- **No false alarm.**  When every burst arrives and the first one is not late, there is none. -/
theorem alarms_received_of_all (hlate : late 0 = false) (l : List (List ℤ × Bool)) :
    Bursts late (l.map Prod.fst) → (∀ x ∈ l, x.2 = true) → alarms none (received l) = [] := by
  induction l using List.reverseRecOn with
  | nil => exact fun _ _ => rfl
  | append_singleton l x ih =>
      obtain ⟨b, got⟩ := x
      intro h hall
      have hgot : got = true := hall (b, got) (by simp)
      have hall' : ∀ x ∈ l, x.2 = true := fun x hx => hall x (List.mem_append_left _ hx)
      have h' : Bursts late (l.map Prod.fst ++ b :: []) := by simpa using h
      obtain ⟨L, rfl, -⟩ := h'.next
      rw [received_concat, if_pos hgot, alarms_append, ih h'.of_append hall', List.nil_append,
        alarms_burst]
      rcases lastSeen_received l h' with ⟨hnone, hlost⟩ | ⟨j, hj, -, hlost, hlast⟩
      · -- nothing before: this is the first burst
        obtain rfl : l = [] := by
          refine List.eq_nil_iff_forall_not_mem.mpr fun x hx => ?_
          have := hall' x hx
          rw [hlost x hx] at this
          exact absurd this (by simp)
        simp [received, hlate, check]
      · -- the burst before is the last one seen
        have hj' : j + 1 = l.length := by
          by_contra hne
          have hlt : j + 1 < l.length := by omega
          have := hlost (j + 1) hlt (Nat.lt_succ_self j)
          rw [hall' _ (List.getElem_mem hlt)] at this
          exact absurd this (by simp)
        have hcount : ((j : ℤ) + 1) = l.length := by exact_mod_cast hj'
        rw [hlast, hcount]
        split_ifs
        · exact check_self _
        · exact check_succ _

/-- **Which losses raise an alarm.**  The burst before `c` was lost.  Receiving `c` raises an alarm
unless `c` starts late and nothing but that one burst is missing: it was the first of all, or the
burst before it arrived. -/
theorem alarms_after_loss_iff {l : List (List ℤ × Bool)} {c b : List ℤ} {rest : List (List ℤ)}
    (h : Bursts late ((l ++ [(b, false)]).map Prod.fst ++ c :: rest)) :
    alarms (lastSeen none (received (l ++ [(b, false)]))) c ≠ [] ↔
      ¬ (late (l.length + 1) = true ∧ ∀ x, l.getLast? = some x → x.2 = true) := by
  obtain ⟨L, rfl, -⟩ := h.next
  simp only [List.length_append, List.length_singleton, alarms_burst]
  rcases lastSeen_received _ h with ⟨hnone, hlost⟩ | ⟨j, hj, hgot, hlost, hlast⟩
  · -- nothing has arrived so far
    rw [hnone, check_none_ne_nil]
    have hempty : (∀ x, l.getLast? = some x → x.2 = true) ↔ l = [] := by
      constructor
      · intro hx
        by_contra hne
        have := hlost _ (List.mem_append_left _ (List.getLast_mem hne))
        rw [hx _ (List.getLast?_eq_some_getLast hne)] at this
        exact absurd this (by simp)
      · rintro rfl x hx
        simp at hx
    rw [hempty]
    cases late (l.length + 1) with
    | false =>
        simp
        omega
    | true => simp
  · -- the last burst to arrive is the `j`-th
    have hjl : j < l.length := by
      by_contra hge
      have hj' : j = l.length := by
        simp at hj
        omega
      subst hj'
      simp at hgot
    have hlastgot : (∀ x, l.getLast? = some x → x.2 = true) ↔ j + 1 = l.length := by
      rw [List.getLast?_eq_getElem?]
      constructor
      · intro hx
        by_contra hne
        have hlt : l.length - 1 < l.length := by omega
        have := hlost (l.length - 1) (by rw [List.length_append]; omega) (by omega)
        rw [List.getElem_append_left hlt, hx _ (List.getElem?_eq_getElem hlt)] at this
        exact absurd this (by simp)
      · intro hj' x hx
        rw [← hj', Nat.add_sub_cancel, List.getElem?_eq_getElem hjl] at hx
        rw [← Option.some.inj hx]
        rwa [List.getElem_append_left hjl] at hgot
    rw [hlast, check_some_ne_nil, hlastgot]
    cases late (l.length + 1) with
    | false =>
        simp
        omega
    | true =>
        simp
        omega

/-! ## The size of an alarm -/

/-- The number of bursts lost since the last one that arrived, or since the beginning if none
has. -/
def lost (l : List (List ℤ × Bool)) : ℕ := (l.rtakeWhile fun x => !x.2).length

lemma lost_concat (l : List (List ℤ × Bool)) (x : List ℤ × Bool) :
    lost (l ++ [x]) = if x.2 = true then 0 else lost l + 1 := by
  rw [lost, List.rtakeWhile_concat]
  cases x.2 <;> simp [lost]

lemma lost_of_none {l : List (List ℤ × Bool)} (h : ∀ x ∈ l, x.2 = false) : lost l = l.length := by
  rw [lost, List.rtakeWhile_eq_self_iff.mpr]
  intro x hx
  simp [h x hx]

/-- How many are lost, from the place of the last one that arrived. -/
lemma lost_of_last (l : List (List ℤ × Bool)) : ∀ {j : ℕ} (hj : j < l.length), l[j].2 = true →
    (∀ k (hk : k < l.length), j < k → l[k].2 = false) → lost l + j + 1 = l.length := by
  induction l using List.reverseRecOn with
  | nil => exact fun hj => absurd hj (Nat.not_lt_zero _)
  | append_singleton l x ih =>
      intro j hj hgot hlost
      rw [lost_concat, List.length_append, List.length_singleton]
      rw [List.length_append, List.length_singleton] at hj
      rcases Nat.lt_or_ge j l.length with hlt | hge
      · have hx : x.2 = false := by
          simpa using hlost l.length (by simp) hlt
        have hrest : lost l + j + 1 = l.length := by
          refine ih hlt (by rwa [List.getElem_append_left hlt] at hgot) fun k hk hjk => ?_
          have hk' := hlost k (by rw [List.length_append]; omega) hjk
          rwa [List.getElem_append_left hk] at hk'
        rw [hx, if_neg (by simp)]
        omega
      · have hlast : j = l.length := by omega
        subst hlast
        rw [if_pos (by simpa using hgot)]
        omega

/-- The counts of the next burst, and of what was lost before it, give the right size: a burst that
follows one that arrived has to be late, one that follows none must not be.  Otherwise only an alarm
that is not raised is right. -/
def Exact (late : Bool) (l : List (List ℤ × Bool)) : Prop :=
  if ∃ x ∈ l, x.2 = true then late = true ∨ lost l = 0 else late = false ∨ l.length = 1

/-- **The size of an alarm** is the number of bursts lost exactly when the counts are `Exact`. -/
theorem alarms_exact_iff {l : List (List ℤ × Bool)} {c : List ℤ} {rest : List (List ℤ)}
    (h : Bursts late (l.map Prod.fst ++ c :: rest)) :
    (∀ v ∈ alarms (lastSeen none (received l)) c, v = lost l) ↔ Exact (late l.length) l := by
  obtain ⟨L, rfl, -⟩ := h.next
  rw [alarms_burst]
  rcases lastSeen_received l h with ⟨hnone, hall⟩ | ⟨j, hj, hgot, hlost, hlast⟩
  · have hno : ¬ ∃ x ∈ l, x.2 = true := by
      rintro ⟨x, hx, hx2⟩
      simp [hall x hx] at hx2
    rw [hnone, Exact, if_neg hno, lost_of_none hall, check]
    cases late l.length with
    | false => simp
    | true =>
        simp only [if_true, Bool.true_eq_false, false_or]
        split_ifs with h1
        · simp only [List.mem_singleton, forall_eq]
          omega
        · simp only [List.not_mem_nil, false_implies, implies_true, true_iff]
          omega
  · -- the last burst to arrive is the `j`-th
    have hsome : ∃ x ∈ l, x.2 = true := ⟨l[j], List.getElem_mem hj, hgot⟩
    have hcount := lost_of_last l hj hgot hlost
    rw [hlast, Exact, if_pos hsome, check]
    cases late l.length with
    | true =>
        simp only [if_true, true_or, iff_true]
        split_ifs
        · simp only [List.mem_singleton, forall_eq]
          omega
        · simp
    | false =>
        simp only [Bool.false_eq_true, if_false, false_or]
        split_ifs
        · simp only [List.mem_singleton, forall_eq]
          omega
        · simp only [List.not_mem_nil, false_implies, implies_true, true_iff]
          omega

end Monitor

end Lib
