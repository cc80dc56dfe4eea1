import Mathlib.Algebra.Order.Field.Power
import Mathlib.Data.Rat.Cast.Order
import Mathlib.Tactic.Linarith
import Mathlib.Tactic.NormNum
import Mathlib.Tactic.Ring
import PeerChat.Rounding

/-!
What rounding to the nearest value leaves of a number: how far away the result is, that the order is kept, and that what
needs no rounding stays as it is.

* `isNearest_roundHalfEven`: a quotient is rounded to the whole number nearest to it, to the even one of two;
* `le_roundHalfEven_iff`: so it is rounded up to an even number from half a step below it on;
* `isNearestDouble_nearestDouble`: no double is nearer to a whole number than the one that it is rounded to;
* `nearestDouble_le`: rounding to doubles keeps the order.
-/

namespace PeerChat

/-! ### Quotients -/

/-- A whole number is nearest to `num / den`; if two are, it is the even one. -/
structure IsNearest (num den r : Nat) : Prop where
  below : 2 * num ≤ 2 * (r * den) + den
  above : 2 * (r * den) ≤ 2 * num + den
  even : 2 * num = 2 * (r * den) + den ∨ 2 * (r * den) = 2 * num + den → r % 2 = 0

section Quotients

variable {a b num den r k : Nat}

theorem isNearest_roundHalfEven (num : Nat) (hden : 0 < den) : IsNearest num den (roundHalfEven num den) := by
  have hrest : num % den < den := Nat.mod_lt num hden
  have hnum : num / den * den + num % den = num := Nat.div_add_mod' num den
  have hnext : (num / den + 1) * den = num / den * den + den := Nat.succ_mul _ _
  unfold roundHalfEven
  dsimp only
  split_ifs with hlow hhigh heven
  · exact ⟨by omega, by omega, by omega⟩
  · exact ⟨by omega, by omega, by omega⟩
  · exact ⟨by omega, by omega, fun _ => heven⟩
  · exact ⟨by omega, by omega, by omega⟩

/-- Two whole numbers that are a whole step apart are too far apart to be nearest to the same quotient, unless it lies
in the middle. -/
lemma IsNearest.step (h : IsNearest num den r) (hk : r < k) : 2 * num + den ≤ 2 * (k * den) := by
  have hstep : (r + 1) * den ≤ k * den := Nat.mul_le_mul_right den hk
  have hbelow := h.below
  rw [Nat.succ_mul] at hstep
  omega

theorem roundHalfEven_le (hden : 0 < den) (hab : a ≤ b) : roundHalfEven a den ≤ roundHalfEven b den := by
  have ha := isNearest_roundHalfEven a hden
  have hb := isNearest_roundHalfEven b hden
  by_contra hlt
  have hstep := hb.step (Nat.lt_of_not_le hlt)
  have habove := ha.above
  have heq : a = b := by omega
  exact hlt (heq ▸ Nat.le_refl _)

theorem roundHalfEven_mul (k : Nat) (hden : 0 < den) : roundHalfEven (k * den) den = k := by
  simp [roundHalfEven, hden]

theorem le_roundHalfEven_iff (hden : 0 < den) (hk : k % 2 = 0) :
    k ≤ roundHalfEven num den ↔ 2 * (k * den) ≤ 2 * num + den := by
  have h := isNearest_roundHalfEven num hden
  constructor
  · intro hle
    have hstep : k * den ≤ roundHalfEven num den * den := Nat.mul_le_mul_right den hle
    have habove := h.above
    omega
  · intro hle
    by_contra hlt
    have hstep := h.step (Nat.lt_of_not_le hlt)
    -- the quotient lies in the middle, so the number that it is rounded to is even and cannot be next to `k`
    have hbelow := h.below
    have hnext : (roundHalfEven num den + 1) * den ≤ k * den := Nat.mul_le_mul_right den (Nat.lt_of_not_le hlt)
    rw [Nat.succ_mul] at hnext
    have heven : roundHalfEven num den % 2 = 0 := h.even (by omega)
    have hfar : (roundHalfEven num den + 2) * den ≤ k * den := Nat.mul_le_mul_right den (by omega)
    rw [Nat.add_mul] at hfar
    omega

lemma IsNearest.abs_sub_le (h : IsNearest num den r) (m : ℤ) : |(num : ℚ) - r * den| ≤ |(num : ℚ) - m * den| := by
  have hbelow : 2 * (num : ℚ) ≤ 2 * (r * den) + den := by exact_mod_cast h.below
  have habove : 2 * ((r : ℚ) * den) ≤ 2 * num + den := by exact_mod_cast h.above
  have hden : (0 : ℚ) ≤ den := Nat.cast_nonneg den
  rcases lt_trichotomy m r with hm | rfl | hm
  · have hstep : (m + 1 : ℚ) ≤ r := by exact_mod_cast hm
    have hfar : (m + 1 : ℚ) * den ≤ r * den := mul_le_mul_of_nonneg_right hstep hden
    refine le_trans (abs_le.2 ⟨?_, ?_⟩) (le_abs_self _) <;> linarith
  · exact le_refl _
  · have hstep : (r + 1 : ℚ) ≤ m := by exact_mod_cast hm
    have hfar : (r + 1 : ℚ) * den ≤ m * den := mul_le_mul_of_nonneg_right hstep hden
    refine le_trans (abs_le.2 ⟨?_, ?_⟩) (neg_le_abs _) <;> linarith

end Quotients

/-! ### Doubles -/

/-- A number that a double holds: a whole number of 53 binary digits, times a power of two. -/
def IsDouble (x : ℚ) : Prop := ∃ s e : ℤ, |s| < 2 ^ 53 ∧ -1074 ≤ e ∧ e ≤ 971 ∧ x = s * 2 ^ e

/-- A double is nearest to a whole number. -/
structure IsNearestDouble (n : Nat) (v : ℚ) : Prop where
  isDouble : IsDouble v
  nearest (x : ℚ) : IsDouble x → |n - v| ≤ |n - x|

section Doubles

variable {n m : Nat}

lemma nearestDouble_of_lt (h : n < 2 ^ 53) : nearestDouble n = n := by
  have hlog : Nat.log2 n - 52 = 0 := by
    rcases Nat.eq_zero_or_pos n with rfl | hn
    · simp
    · have := (Nat.log2_lt hn.ne').2 h
      omega
  unfold nearestDouble
  rw [hlog]
  simp [roundHalfEven_one]

lemma exists_multiple_of_le {k : Nat} {x : ℚ} (hx : IsDouble x) (hle : 2 ^ (k + 52) ≤ x) :
    ∃ m : ℤ, x = m * (2 ^ k : Nat) := by
  obtain ⟨s, e, hs, -, -, rfl⟩ := hx
  have hk : (k : ℤ) ≤ e := by
    by_contra hlt
    have hs' : (s : ℚ) < 2 ^ 53 := by exact_mod_cast (abs_lt.1 hs).2
    have hexp : (2 : ℚ) ^ e ≤ 2 ^ ((k : ℤ) - 1) := zpow_le_zpow_right₀ one_le_two (by omega)
    have hpos : (0 : ℚ) < 2 ^ e := zpow_pos two_pos e
    have hupper : (s : ℚ) * 2 ^ e < 2 ^ 53 * 2 ^ ((k : ℤ) - 1) := by nlinarith
    have hpow : (2 : ℚ) ^ 53 * 2 ^ ((k : ℤ) - 1) = 2 ^ (k + 52) := by
      rw [← zpow_natCast, ← zpow_natCast, ← zpow_add₀ two_ne_zero]
      congr 1
      push_cast
      ring
    linarith
  obtain ⟨j, rfl⟩ := Int.le.dest hk
  refine ⟨s * 2 ^ j, ?_⟩
  rw [zpow_add₀ two_ne_zero]
  push_cast
  rw [zpow_natCast, zpow_natCast]
  ring

/-- From here on, whole numbers are rounded to the multiples of a power of two. -/
lemma exists_grain (h : 2 ^ 53 ≤ n) : ∃ k, 2 ^ (k + 52) ≤ n ∧ n ≤ 2 ^ (k + 53) ∧
    nearestDouble n = roundHalfEven n (2 ^ k) * 2 ^ k := by
  have hne : n ≠ 0 := by omega
  have hlog : 53 ≤ Nat.log2 n := (Nat.le_log2 hne).2 h
  obtain ⟨k, hk⟩ : ∃ k, Nat.log2 n = k + 52 := ⟨Nat.log2 n - 52, by omega⟩
  refine ⟨k, hk ▸ Nat.log2_self_le hne, ?_, ?_⟩
  · have hlt := Nat.lt_log2_self (n := n)
    rw [hk] at hlt
    exact hlt.le
  · unfold nearestDouble
    rw [hk, Nat.add_sub_cancel]
    rfl

lemma isDouble_mul {r k : Nat} (hr : r ≤ 2 ^ 53) (hk : k ≤ 970) : IsDouble (r * 2 ^ k) := by
  rcases hr.lt_or_eq with hlt | rfl
  · refine ⟨r, k, ?_, by omega, by omega, by push_cast; rw [zpow_natCast]⟩
    rw [Nat.abs_cast]
    exact_mod_cast hlt
  · -- one binary digit more is a digit less and the next power of two
    refine ⟨2 ^ 52, k + 1, by norm_num, by omega, by omega, ?_⟩
    rw [zpow_add₀ two_ne_zero, zpow_natCast]
    push_cast
    ring

/-- No double is nearer to a number than the nearest multiple of the distance between the doubles around it. -/
lemma nearest_of_grain {k : Nat} {x : ℚ} (hlow : 2 ^ (k + 52) ≤ n) (hx : IsDouble x) :
    |(n : ℚ) - roundHalfEven n (2 ^ k) * 2 ^ k| ≤ |(n : ℚ) - x| := by
  have hnearest (m : ℤ) : |(n : ℚ) - roundHalfEven n (2 ^ k) * 2 ^ k| ≤ |(n : ℚ) - m * 2 ^ k| := by
    exact_mod_cast (isNearest_roundHalfEven n (Nat.two_pow_pos k)).abs_sub_le m
  by_cases hle : 2 ^ (k + 52) ≤ x
  · obtain ⟨m, rfl⟩ := exists_multiple_of_le hx hle
    exact_mod_cast hnearest m
  · -- below the power of two, nothing is nearer than the power itself, and that is one of the multiples
    have hpower : (2 ^ (k + 52) : ℚ) ≤ n := by exact_mod_cast hlow
    have hmultiple : ((2 ^ 52 : ℤ) : ℚ) * 2 ^ k = 2 ^ (k + 52) := by push_cast; ring
    have hbetter := hnearest (2 ^ 52)
    rw [hmultiple, abs_of_nonneg (a := (n : ℚ) - 2 ^ (k + 52)) (by linarith)] at hbetter
    refine le_trans hbetter (le_trans ?_ (le_abs_self _))
    linarith

theorem isNearestDouble_nearestDouble (hn : n < 2 ^ 64) : IsNearestDouble n (nearestDouble n) := by
  by_cases hsmall : n < 2 ^ 53
  · rw [nearestDouble_of_lt hsmall]
    constructor
    · simpa using isDouble_mul (k := 0) hsmall.le (Nat.zero_le _)
    · intro x _
      rw [sub_self, abs_zero]
      exact abs_nonneg _
  · obtain ⟨k, hlow, hhigh, hdouble⟩ := exists_grain (Nat.le_of_not_lt hsmall)
    have hgrain : 0 < 2 ^ k := Nat.two_pow_pos k
    have hk : k + 52 < 64 := (Nat.pow_lt_pow_iff_right one_lt_two).1 (hlow.trans_lt hn)
    have hfit : roundHalfEven n (2 ^ k) ≤ 2 ^ 53 := by
      have hpow : 2 ^ (k + 53) = 2 ^ 53 * 2 ^ k := by ring
      have hround := roundHalfEven_le hgrain hhigh
      rwa [hpow, roundHalfEven_mul _ hgrain] at hround
    rw [hdouble]
    push_cast
    exact ⟨isDouble_mul hfit (by omega), fun x hx => nearest_of_grain hlow hx⟩

lemma le_of_abs_le {x y p q : ℚ} (hxy : x < y) (hp : |x - p| ≤ |x - q|) (hq : |y - q| ≤ |y - p|) : p ≤ q := by
  by_contra hlt
  have hx := sq_le_sq.2 hp
  have hy := sq_le_sq.2 hq
  nlinarith [mul_pos (sub_pos.2 (lt_of_not_ge hlt)) (sub_pos.2 hxy)]

theorem nearestDouble_le (hm : m < 2 ^ 64) (hnm : n ≤ m) : nearestDouble n ≤ nearestDouble m := by
  rcases hnm.eq_or_lt with rfl | hlt
  · exact Nat.le_refl _
  have hnearN := isNearestDouble_nearestDouble (hlt.trans hm)
  have hnearM := isNearestDouble_nearestDouble hm
  have hcast : (n : ℚ) < m := by exact_mod_cast hlt
  exact_mod_cast le_of_abs_le hcast (hnearN.nearest _ hnearM.isDouble) (hnearM.nearest _ hnearN.isDouble)

end Doubles

end PeerChat
