import Mathlib.Algebra.Order.Group.Unbundled.Int
import Mathlib.Data.Nat.Log
import Mathlib.Tactic.Ring

/-!
# Rounding integers to a significand

A binary number format with `p` bits of significand holds the integers `m * 2 ^ e` with `m < 2 ^
p`, up to a sign.  Any other integer is carried as the nearest of them, and of two that are equally
near as the one with the even significand; this is the rounding that IEEE 754 calls for unless told
otherwise.

Beyond `2 ^ p` the integers of the format are the multiples of an `ulp`, which doubles each time
the number passes a power of two.  The proofs follow that: first about the multiples of a number
`u` around an integer, then with the `ulp` for `u`.

* `roundInt_eq_self_iff` — **exactly the integers of the format are carried unchanged.**
* `representable_roundInt` — the result is one of them.
* `roundInt_nearest` — no other one is nearer.
* `roundInt_mono` — so the order is kept, though not strictly.
* `representable_of_natAbs_le`, `not_representable_of_odd` — all integers up to `2 ^ p` are in the
  format, and beyond that no odd one.

The range of exponents is not bounded here, since the integers that matter are far from the largest
number of such a format.
-/

namespace Lib

namespace Rounding

/-- `z` has a significand of `p` bits: it is a short number, shifted to the left. -/
def Representable (p : ℕ) (z : ℤ) : Prop := ∃ m e : ℕ, m < 2 ^ p ∧ z.natAbs = m * 2 ^ e

/-- The weight of the last bit of a `p`-bit significand of `n`, which is 1 as long as `n` is short
enough. -/
def ulp (p n : ℕ) : ℕ := 2 ^ (n.log2 + 1 - p)

/-- The multiple of `u` nearest to `n`, of two the even one, which is how IEEE breaks a tie. -/
def roundTo (u n : ℕ) : ℕ :=
  (if 2 * (n % u) < u ∨ 2 * (n % u) = u ∧ n / u % 2 = 0 then n / u else n / u + 1) * u

/-- A natural number with its significand cut to `p` bits, to nearest. -/
def roundNat (p n : ℕ) : ℕ := roundTo (ulp p n) n

/-- An integer with its significand cut to `p` bits; the sign plays no role in the rounding. -/
def roundInt (p : ℕ) (z : ℤ) : ℤ :=
  if z < 0 then -roundNat p z.natAbs else roundNat p z.natAbs

variable {p : ℕ}

/-! ## Multiples -/

section
variable {u : ℕ}

/-- The two multiples around `n`. -/
lemma roundTo_bounds (hu : 0 < u) (n : ℕ) :
    n / u * u ≤ n ∧ n < n / u * u + u ∧
      (roundTo u n = n / u * u ∧ 2 * n ≤ 2 * (n / u * u) + u ∨
        roundTo u n = n / u * u + u ∧ 2 * (n / u * u) + u ≤ 2 * n) := by
  have hsplit : n / u * u + n % u = n := Nat.div_add_mod' n u
  have hlt : n % u < u := Nat.mod_lt n hu
  refine ⟨by omega, by omega, ?_⟩
  rw [roundTo]
  split_ifs with hdown
  · exact .inl ⟨rfl, by omega⟩
  · exact .inr ⟨Nat.succ_mul .., by omega⟩

lemma roundTo_eq_self_iff (hu : 0 < u) (n : ℕ) : roundTo u n = n ↔ u ∣ n := by
  constructor
  · intro h
    rw [← h]
    exact Nat.dvd_mul_left ..
  · rintro ⟨k, rfl⟩
    rw [roundTo, Nat.mul_mod_right, if_pos (.inl (by omega)), Nat.mul_div_cancel_left k hu,
      Nat.mul_comm]

/-- A number that lies on one side of the gap between the two multiples is no nearer. -/
lemma roundTo_nearest (hu : 0 < u) {n m : ℕ} (h : m ≤ n / u * u ∨ n / u * u + u ≤ m) :
    |(roundTo u n : ℤ) - n| ≤ |(m : ℤ) - n| := by
  obtain ⟨hlow, hhigh, hround⟩ := roundTo_bounds hu n
  rw [Int.abs_eq_natAbs, Int.abs_eq_natAbs]
  omega

end

/-! ## The last bit -/

lemma ulp_pos (p n : ℕ) : 0 < ulp p n := Nat.two_pow_pos _

/-- A significand of `p` bits reaches beyond `n`. -/
lemma lt_two_pow_mul_ulp (p n : ℕ) : n < 2 ^ p * ulp p n := by
  have hlt : n < 2 ^ (n.log2 + 1) := Nat.lt_log2_self
  rw [ulp, ← Nat.pow_add]
  exact hlt.trans_le (Nat.pow_le_pow_right Nat.two_pos (by omega))

lemma ulp_dvd_ulp {n m : ℕ} (hle : n.log2 ≤ m.log2) : ulp p n ∣ ulp p m :=
  Nat.pow_dvd_pow 2 (by omega)

lemma representable_mul_ulp {n k : ℕ} (hp : 0 < p) (hk : k ≤ 2 ^ p) :
    Representable p (k * ulp p n : ℕ) := by
  rcases hk.lt_or_eq with hlt | rfl
  · exact ⟨k, _, hlt, rfl⟩
  · refine ⟨1, p + (n.log2 + 1 - p), Nat.one_lt_two_pow hp.ne', ?_⟩
    rw [Int.natAbs_natCast, ulp, ← Nat.pow_add, Nat.one_mul]

/-- An integer is in the format exactly when its last bit is no lower than that of the
significand. -/
lemma representable_iff_ulp_dvd (z : ℤ) : Representable p z ↔ ulp p z.natAbs ∣ z.natAbs := by
  constructor
  · rintro ⟨m, e, hm, hz⟩
    rcases Nat.eq_zero_or_pos z.natAbs with h0 | hpos
    · rw [h0]
      exact Nat.dvd_zero _
    · have hlt : z.natAbs < 2 ^ (p + e) := by
        rw [hz, Nat.pow_add]
        exact Nat.mul_lt_mul_of_pos_right hm (Nat.two_pow_pos e)
      have hlog : z.natAbs.log2 < p + e := (Nat.log2_lt hpos.ne').mpr hlt
      have hdvd : ulp p z.natAbs ∣ 2 ^ e := Nat.pow_dvd_pow 2 (by omega)
      exact hdvd.trans (hz ▸ Nat.dvd_mul_left ..)
  · rintro ⟨k, hk⟩
    have hz : z.natAbs = k * ulp p z.natAbs := hk.trans (Nat.mul_comm ..)
    have hlt : k * ulp p z.natAbs < 2 ^ p * ulp p z.natAbs :=
      hz.symm.trans_lt (lt_two_pow_mul_ulp p z.natAbs)
    exact ⟨k, _, Nat.lt_of_mul_lt_mul_right hlt, hz⟩

instance decidableRepresentable (p : ℕ) (z : ℤ) : Decidable (Representable p z) :=
  decidable_of_iff _ (representable_iff_ulp_dvd z).symm

/-- All integers up to `2 ^ p` are in the format. -/
lemma representable_of_natAbs_le {z : ℤ} (hp : 0 < p) (h : z.natAbs ≤ 2 ^ p) :
    Representable p z := by
  rcases h.lt_or_eq with hlt | heq
  · exact ⟨z.natAbs, 0, hlt, (Nat.mul_one _).symm⟩
  · exact ⟨1, p, Nat.one_lt_two_pow hp.ne', heq.trans (Nat.one_mul _).symm⟩

/-- Beyond that, odd integers are not. -/
lemma not_representable_of_odd {z : ℤ} (hodd : z % 2 = 1) (h : 2 ^ p < z.natAbs) :
    ¬ Representable p z := by
  rintro ⟨m, e, hm, hz⟩
  cases e with
  | zero => omega
  | succ e =>
      rw [Nat.pow_succ, ← Nat.mul_assoc] at hz
      omega

/-! ## Rounding -/

lemma natAbs_roundInt (z : ℤ) : (roundInt p z).natAbs = roundNat p z.natAbs := by
  rw [roundInt]
  split_ifs <;> omega

/-- **Exactly the integers of the format are carried unchanged.**  The others are carried as another
integer. -/
theorem roundInt_eq_self_iff (z : ℤ) : roundInt p z = z ↔ Representable p z := by
  rw [representable_iff_ulp_dvd, ← roundTo_eq_self_iff (ulp_pos p z.natAbs), ← roundNat, roundInt]
  split_ifs <;> omega

/-- What an integer is rounded to is in the format, also when the significand overflows to `2 ^
p`. -/
theorem representable_roundInt (hp : 0 < p) (z : ℤ) : Representable p (roundInt p z) := by
  have hlt := lt_two_pow_mul_ulp p z.natAbs
  have hquot : z.natAbs / ulp p z.natAbs < 2 ^ p := by
    rwa [Nat.div_lt_iff_lt_mul (ulp_pos p _)]
  obtain ⟨m, e, hm, heq⟩ : Representable p (roundNat p z.natAbs : ℕ) := by
    rw [roundNat, roundTo]
    split_ifs
    · exact representable_mul_ulp hp hquot.le
    · exact representable_mul_ulp hp hquot
  exact ⟨m, e, hm, (natAbs_roundInt z).trans heq⟩

/-- Nothing of the format lies strictly between the two multiples of the last bit around `n`. -/
lemma Representable.outside_gap {m n : ℕ} (hp : 0 < p) (h : Representable p m) :
    m ≤ n / ulp p n * ulp p n ∨ n / ulp p n * ulp p n + ulp p n ≤ m := by
  have hu : 0 < ulp p n := ulp_pos p n
  by_cases hlog : n.log2 ≤ m.log2
  · obtain ⟨k, hk⟩ : ulp p n ∣ m :=
      (ulp_dvd_ulp hlog).trans ((representable_iff_ulp_dvd (m : ℤ)).mp h)
    rw [hk, Nat.mul_comm]
    rcases Nat.lt_or_ge (n / ulp p n) k with hlt | hge
    · exact .inr ((Nat.succ_mul ..).symm.trans_le (Nat.mul_le_mul_right _ hlt))
    · exact .inl (Nat.mul_le_mul_right _ hge)
  · -- `m` is below the leading bit of `n`, which is itself a multiple
    left
    have hn : n ≠ 0 := by
      rintro rfl
      exact hlog (Nat.zero_le _)
    have hm : m < 2 ^ n.log2 :=
      Nat.lt_log2_self.trans_le (Nat.pow_le_pow_right Nat.two_pos (by omega))
    obtain ⟨k, hk⟩ : ulp p n ∣ 2 ^ n.log2 := Nat.pow_dvd_pow 2 (by omega)
    have hlead : ulp p n * k ≤ n := hk.symm.trans_le (Nat.log2_self_le hn)
    have hquot : k ≤ n / ulp p n := (Nat.le_div_iff_mul_le hu).mpr (by rwa [Nat.mul_comm])
    calc m ≤ ulp p n * k := hm.le.trans_eq hk
      _ = k * ulp p n := Nat.mul_comm ..
      _ ≤ n / ulp p n * ulp p n := Nat.mul_le_mul_right _ hquot

/-- **The nearest.**  No integer of the format is nearer to `z` than the one it is rounded to. -/
theorem roundInt_nearest (hp : 0 < p) {w : ℤ} (hw : Representable p w) (z : ℤ) :
    |roundInt p z - z| ≤ |w - z| := by
  have hnear : |(roundNat p z.natAbs : ℤ) - z.natAbs| ≤ |(w.natAbs : ℤ) - z.natAbs| :=
    roundTo_nearest (ulp_pos p _) (Representable.outside_gap hp hw)
  rw [Int.abs_eq_natAbs, Int.abs_eq_natAbs] at hnear ⊢
  rw [roundInt]
  split_ifs <;> omega

/-- **Rounding keeps the order.**  Two integers may be rounded to one, but never past each other. -/
theorem roundInt_mono (hp : 0 < p) {z w : ℤ} (h : z ≤ w) : roundInt p z ≤ roundInt p w := by
  by_contra hlt
  -- each of the two results is no farther from its number than the other one is
  have hz := roundInt_nearest hp (representable_roundInt hp w) z
  have hw := roundInt_nearest hp (representable_roundInt hp z) w
  rw [Int.abs_eq_natAbs, Int.abs_eq_natAbs] at hz hw
  have hsame : z = w := by omega
  exact hlt (hsame ▸ le_refl _)

end Rounding

end Lib
