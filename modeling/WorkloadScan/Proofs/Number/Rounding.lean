import Mathlib.Algebra.Order.Field.Power
import Mathlib.Data.Int.Log
import Mathlib.Data.Rat.Floor
import Mathlib.Tactic.FieldSimp
import Mathlib.Tactic.Linarith
import Mathlib.Tactic.NormNum
import Mathlib.Tactic.Positivity
import WorkloadScan.Number.Binary64

/-! How far rounding goes. Each operation gives the binary64 value nearest to its exact outcome, and
the distance is at most half a unit in the last place. -/
namespace WorkloadScan.Number

/-! ### Rounding to whole numbers -/

theorem divHalfEven_error {n d : ℕ} (hd : 0 < d) :
    |(divHalfEven n d : ℚ) - n / d| ≤ 1 / 2 := by
  obtain ⟨hlow, hhigh⟩ := divHalfEven_near n d hd
  have hpos : (0 : ℚ) < d := by exact_mod_cast hd
  have hlow' : 2 * (n : ℚ) ≤ 2 * (divHalfEven n d * d) + d := by exact_mod_cast hlow
  have hhigh' : 2 * (divHalfEven n d * d : ℚ) ≤ 2 * n + d := by exact_mod_cast hhigh
  have hdistance : (divHalfEven n d : ℚ) - n / d = (divHalfEven n d * d - n) / d := by
    field_simp
  rw [hdistance, abs_le, le_div_iff₀ hpos, div_le_iff₀ hpos]
  constructor <;> linarith

theorem divHalfEven_eq {n d k : ℕ} (hd : 0 < d) (h : |(n : ℚ) / d - k| < 1 / 2) :
    divHalfEven n d = k := by
  have hdistance : |(divHalfEven n d : ℚ) - k| < 1 := by
    calc |(divHalfEven n d : ℚ) - k|
        ≤ |(divHalfEven n d : ℚ) - n / d| + |(n : ℚ) / d - k| := abs_sub_le _ _ _
      _ < 1 / 2 + 1 / 2 := add_lt_add_of_le_of_lt (divHalfEven_error hd) h
      _ = 1 := by norm_num
  have hint : |(divHalfEven n d : ℤ) - k| < 1 := by exact_mod_cast hdistance
  have hzero := Int.abs_lt_one_iff.mp hint
  omega

namespace Binary64
variable {b x y : Binary64} {q : ℚ} {n d : ℕ} {e : ℤ}

/-! ### Values as rationals -/

def value (b : Binary64) : ℚ := b.mantissa * 2 ^ b.exponent

theorem two_zpow (e : ℤ) :
    (2 : ℚ) ^ e = (Nat.pow 2 e.toNat : ℕ) / (Nat.pow 2 (-e).toNat : ℕ) := by
  rw [Nat.pow_eq, Nat.pow_eq, Nat.cast_pow, Nat.cast_pow, Nat.cast_ofNat, ← zpow_natCast,
    ← zpow_natCast, ← zpow_sub₀ two_ne_zero, Int.toNat_sub_toNat_neg]

theorem two_pow_pos (k : ℕ) : 0 < Nat.pow 2 k := Nat.two_pow_pos k

theorem ratio_two_pos (b : Binary64) : 0 < b.ratio.2 := two_pow_pos _

theorem cast_ratio (b : Binary64) : (b.ratio.1 : ℚ) / b.ratio.2 = b.value := by
  rw [ratio, value, two_zpow, Nat.cast_mul, mul_div_assoc]

theorem inUnits_two_pos (n : ℕ) (hd : 0 < d) (e : ℤ) : 0 < (inUnits n d e).2 :=
  Nat.mul_pos hd (two_pow_pos _)

theorem cast_inUnits (n d : ℕ) (e : ℤ) :
    ((inUnits n d e).1 : ℚ) / (inUnits n d e).2 = n / d / 2 ^ e := by
  rw [inUnits, two_zpow, Nat.cast_mul, Nat.cast_mul, div_div_div_eq]

theorem value_nonneg (b : Binary64) : 0 ≤ b.value := by
  rw [value]
  positivity

theorem value_zero : zero.value = 0 := by
  simp [value, zero]

/-! ### The unit in the last place -/

theorem lt_two_zpow_iff (hq : 0 < q) : q < 2 ^ e ↔ Int.log 2 q < e := by
  exact_mod_cast Int.lt_zpow_iff_log_lt (b := 2) one_lt_two hq

theorem two_zpow_le_iff (hq : 0 < q) : 2 ^ e ≤ q ↔ e ≤ Int.log 2 q := by
  exact_mod_cast Int.zpow_le_iff_le_log (b := 2) one_lt_two hq

theorem ratio_pos (hn : 0 < n) (hd : 0 < d) : (0 : ℚ) < n / d :=
  div_pos (Nat.cast_pos.mpr hn) (Nat.cast_pos.mpr hd)

theorem log_ratio_bounds (hn : 0 < n) (hd : 0 < d) :
    (2 : ℚ) ^ ((n.log2 : ℤ) - d.log2 - 1) < n / d ∧
      (n : ℚ) / d < 2 ^ ((n.log2 : ℤ) - d.log2 + 1) := by
  have bounds {k : ℕ} (hk : 0 < k) :
      (2 : ℚ) ^ (k.log2 : ℤ) ≤ k ∧ (k : ℚ) < 2 ^ ((k.log2 : ℤ) + 1) := by
    have hlow : 2 ^ k.log2 ≤ k := Nat.log2_self_le hk.ne'
    have hhigh : k < 2 ^ (k.log2 + 1) := Nat.lt_log2_self
    constructor
    · exact_mod_cast hlow
    · exact_mod_cast hhigh
  obtain ⟨hnlow, hnhigh⟩ := bounds hn
  obtain ⟨hdlow, hdhigh⟩ := bounds hd
  constructor
  · rw [sub_sub, zpow_sub₀ two_ne_zero]
    exact div_lt_div₀' hnlow hdhigh (Nat.cast_pos.mpr hn) (Nat.cast_pos.mpr hd)
  · rw [show (n.log2 : ℤ) - d.log2 + 1 = (n.log2 + 1) - d.log2 by ring, zpow_sub₀ two_ne_zero]
    exact div_lt_div₀ hnhigh hdlow (by positivity) (by positivity)

theorem inUnits_lt_iff (hn : 0 < n) (hd : 0 < d) (e : ℤ) :
    (inUnits n d e).1 < (inUnits n d e).2 * leastNormal ↔ Int.log 2 ((n : ℚ) / d) < 52 + e := by
  have hpos : (0 : ℚ) < (inUnits n d e).2 := Nat.cast_pos.mpr (inUnits_two_pos n hd e)
  have hleast : ((leastNormal : ℕ) : ℚ) = 2 ^ (52 : ℤ) := by norm_num
  rw [← lt_two_zpow_iff (ratio_pos hn hd), zpow_add₀ two_ne_zero, ← div_lt_iff₀ (by positivity),
    ← cast_inUnits, div_lt_iff₀ hpos, ← hleast, mul_comm]
  exact_mod_cast Iff.rfl

theorem unitExponent_eq (hn : 0 < n) (hd : 0 < d) :
    unitExponent n d = max (-1074) (Int.log 2 ((n : ℚ) / d) - 52) := by
  obtain ⟨hlow, hhigh⟩ := log_ratio_bounds hn hd
  have hbelow := (two_zpow_le_iff (ratio_pos hn hd)).mp hlow.le
  have habove := (lt_two_zpow_iff (ratio_pos hn hd)).mp hhigh
  simp only [unitExponent, inUnits_lt_iff hn hd]
  split_ifs with hlt <;> congr 1 <;> omega

/-! ### Rounding to binary64 -/

/-- A binary64 value that is nearest to an exact one: half a unit away at most, for each unit in
which the exact one has 53 places, and the same if it can be. -/
structure IsNearest (q : ℚ) (b : Binary64) : Prop where
  mantissa_lt : b.mantissa < 2 ^ 53
  exponent_ge : -1074 ≤ b.exponent
  error : ∀ e : ℤ, -1074 ≤ e → q < 2 ^ (53 + e) → |b.value - q| ≤ 2 ^ e / 2
  exact : ∀ (m : ℕ) (e : ℤ), m < 2 ^ 53 → -1074 ≤ e → q = m * 2 ^ e → b.value = q

theorem isNearest_zero : IsNearest 0 zero := by
  refine ⟨by decide, by decide, fun e _ _ => ?_, fun _ _ _ _ _ => value_zero⟩
  rw [value_zero, sub_zero, abs_zero]
  positivity

theorem lt_of_unitExponent_le (hn : 0 < n) (hd : 0 < d) (he : unitExponent n d ≤ e) :
    (n : ℚ) / d < 2 ^ (53 + e) := by
  rw [unitExponent_eq hn hd, max_le_iff] at he
  rw [lt_two_zpow_iff (ratio_pos hn hd)]
  omega

theorem unitExponent_le (hn : 0 < n) (hd : 0 < d) (he : -1074 ≤ e)
    (hq : (n : ℚ) / d < 2 ^ (53 + e)) : unitExponent n d ≤ e := by
  rw [lt_two_zpow_iff (ratio_pos hn hd)] at hq
  rw [unitExponent_eq hn hd]
  omega

def roundedMantissa (n d : ℕ) : ℕ :=
  let (a, b) := inUnits n d (unitExponent n d)
  divHalfEven a b

theorem roundedMantissa_error (n : ℕ) (hd : 0 < d) :
    |(roundedMantissa n d : ℚ) - n / d / 2 ^ unitExponent n d| ≤ 1 / 2 := by
  rw [← cast_inUnits]
  exact divHalfEven_error (inUnits_two_pos n hd _)

theorem roundedMantissa_eq {k : ℕ} (hd : 0 < d) (h : (n : ℚ) / d / 2 ^ unitExponent n d = k) :
    roundedMantissa n d = k := by
  have hunits : |((inUnits n d (unitExponent n d)).1 : ℚ) / (inUnits n d (unitExponent n d)).2 -
      k| < 1 / 2 := by
    rw [cast_inUnits, h, sub_self, abs_zero]
    norm_num
  exact divHalfEven_eq (inUnits_two_pos n hd _) hunits

theorem roundedMantissa_le (hn : 0 < n) (hd : 0 < d) : roundedMantissa n d ≤ 2 ^ 53 := by
  have herror := (abs_le.mp (roundedMantissa_error n hd)).2
  have hunits : (n : ℚ) / d / 2 ^ unitExponent n d < 2 ^ 53 := by
    rw [div_lt_iff₀ (by positivity), ← zpow_natCast, ← zpow_add₀ two_ne_zero]
    exact lt_of_unitExponent_le hn hd le_rfl
  have hlt : (roundedMantissa n d : ℚ) < 2 ^ 53 + 1 := by linarith
  have hnat : roundedMantissa n d < 2 ^ 53 + 1 := by exact_mod_cast hlt
  omega

theorem rounded_error (hn : 0 < n) (hd : 0 < d) (he : -1074 ≤ e)
    (hq : (n : ℚ) / d < 2 ^ (53 + e)) :
    |roundedMantissa n d * 2 ^ unitExponent n d - (n : ℚ) / d| ≤ 2 ^ e / 2 := by
  have hunit : (0 : ℚ) < 2 ^ unitExponent n d := by positivity
  have hdistance : roundedMantissa n d * 2 ^ unitExponent n d - (n : ℚ) / d =
      (roundedMantissa n d - n / d / 2 ^ unitExponent n d) * 2 ^ unitExponent n d := by
    rw [sub_mul, div_mul_cancel₀ _ hunit.ne']
  have hfiner : (2 : ℚ) ^ unitExponent n d ≤ 2 ^ e :=
    zpow_le_zpow_right₀ one_le_two (unitExponent_le hn hd he hq)
  rw [hdistance, abs_mul, abs_of_pos hunit]
  calc |(roundedMantissa n d : ℚ) - n / d / 2 ^ unitExponent n d| * 2 ^ unitExponent n d
      ≤ 1 / 2 * 2 ^ e := mul_le_mul (roundedMantissa_error n hd) hfiner hunit.le (by norm_num)
    _ = 2 ^ e / 2 := by ring

theorem rounded_eq (hn : 0 < n) (hd : 0 < d) {m : ℕ} (hm : m < 2 ^ 53) (he : -1074 ≤ e)
    (hq : (n : ℚ) / d = m * 2 ^ e) :
    (roundedMantissa n d : ℚ) * 2 ^ unitExponent n d = n / d := by
  have hunit : (2 : ℚ) ^ unitExponent n d ≠ 0 := zpow_ne_zero _ two_ne_zero
  have hlt : (n : ℚ) / d < 2 ^ (53 + e) := by
    have hm' : (m : ℚ) < 2 ^ (53 : ℤ) := by exact_mod_cast hm
    rw [hq, zpow_add₀ two_ne_zero]
    exact mul_lt_mul_of_pos_right hm' (by positivity)
  obtain ⟨k, hk⟩ := Int.le.dest (unitExponent_le hn hd he hlt)
  have hwhole : (n : ℚ) / d / 2 ^ unitExponent n d = (m * 2 ^ k : ℕ) := by
    rw [hq, ← hk, zpow_add₀ two_ne_zero, zpow_natCast, div_eq_iff hunit, Nat.cast_mul,
      Nat.cast_pow, Nat.cast_ofNat]
    ring
  rw [roundedMantissa_eq hd hwhole, ← hwhole, div_mul_cancel₀ _ hunit]

theorem exists_ofRatio?_value (hn : 0 < n) (hd : 0 < d) (hq : (n : ℚ) / d < 2 ^ (1000 : ℤ)) :
    ∃ b, ofRatio? n d = some b ∧ b.mantissa < 2 ^ 53 ∧ -1074 ≤ b.exponent ∧
      b.value = roundedMantissa n d * 2 ^ unitExponent n d := by
  have hle := roundedMantissa_le hn hd
  have hsmall : unitExponent n d ≤ 947 := unitExponent_le hn hd (by norm_num) hq
  have hlarge : -1074 ≤ unitExponent n d := by
    rw [unitExponent_eq hn hd]
    exact le_max_left _ _
  have hfits : unitExponent n d ≤ 971 := by omega
  have hcarry : unitExponent n d + 1 ≤ 971 := by omega
  have hleast : 2 * leastNormal = 2 ^ 53 := by norm_num
  -- A mantissa that is rounded up to `2 ^ 53` is carried over to the next unit.
  by_cases hmax : roundedMantissa n d = 2 * leastNormal
  · refine ⟨⟨leastNormal, unitExponent n d + 1⟩, ?_, by norm_num, by simp only; omega, ?_⟩
    · rw [roundedMantissa] at hmax
      simp [ofRatio?, hn.ne', hmax, hcarry]
    · rw [value, hmax, zpow_add_one₀ two_ne_zero, Nat.cast_mul, Nat.cast_ofNat]
      ring
  · refine ⟨⟨roundedMantissa n d, unitExponent n d⟩, ?_, by simp only; omega, hlarge, rfl⟩
    rw [roundedMantissa] at hmax
    simp [ofRatio?, hn.ne', hmax, hfits, roundedMantissa]

/-- Every value that is not too large is rounded to a nearest one. -/
theorem exists_ofRatio? (hd : 0 < d) (hq : (n : ℚ) / d < 2 ^ (1000 : ℤ)) :
    ∃ b, ofRatio? n d = some b ∧ IsNearest (n / d) b := by
  rcases Nat.eq_zero_or_pos n with rfl | hn
  · exact ⟨zero, rfl, by simpa using isNearest_zero⟩
  · obtain ⟨b, hb, hmantissa, hexponent, hvalue⟩ := exists_ofRatio?_value hn hd hq
    refine ⟨b, hb, hmantissa, hexponent, fun e he hlt => ?_, fun m e hm he heq => ?_⟩
    · rw [hvalue]
      exact rounded_error hn hd he hlt
    · rw [hvalue]
      exact rounded_eq hn hd hm he heq

namespace IsNearest

theorem eq_of_nat (h : IsNearest q b) {k : ℕ} (hk : k < 2 ^ 53) (hq : q = k) : b.value = q :=
  h.exact k 0 hk (by norm_num) (by simpa using hq)

theorem eq_of_value (h : IsNearest x.value b) (hx : IsNearest q x) : b.value = x.value :=
  h.exact x.mantissa x.exponent hx.mantissa_lt hx.exponent_ge rfl

theorem lt_two_zpow (h : IsNearest q b) (he : -1074 ≤ e) (hq : q < 2 ^ (53 + e)) :
    b.value < 2 ^ (54 + e) := by
  have hupper := (abs_le.mp (h.error e he hq)).2
  have hunit : (2 : ℚ) ^ e ≤ 2 ^ (53 + e) := zpow_le_zpow_right₀ one_le_two (by omega)
  have hpos : (0 : ℚ) < 2 ^ e := by positivity
  have hdouble : (2 : ℚ) ^ (54 + e) = 2 * 2 ^ (53 + e) := by
    rw [show 54 + e = 53 + e + 1 by ring, zpow_add_one₀ two_ne_zero, mul_comm]
  linarith

theorem relative (h : IsNearest q b) (hq : 2 ^ (-1022 : ℤ) ≤ q) :
    |b.value - q| ≤ q * 2 ^ (-53 : ℤ) := by
  have hpos : 0 < q := lt_of_lt_of_le (by positivity) hq
  have hlog := (two_zpow_le_iff hpos).mp hq
  have hlow : 2 ^ Int.log 2 q ≤ q := (two_zpow_le_iff hpos).mpr le_rfl
  have hhigh : q < 2 ^ (53 + (Int.log 2 q - 52)) := (lt_two_zpow_iff hpos).mpr (by omega)
  calc |b.value - q|
      ≤ 2 ^ (Int.log 2 q - 52) / 2 := h.error _ (by omega) hhigh
    _ = 2 ^ Int.log 2 q * 2 ^ (-53 : ℤ) := by
        rw [div_eq_mul_inv, ← zpow_neg_one, ← zpow_add₀ two_ne_zero, ← zpow_add₀ two_ne_zero]
        congr 1
        ring
    _ ≤ q * 2 ^ (-53 : ℤ) := mul_le_mul_of_nonneg_right hlow (by positivity)

end IsNearest

theorem exists_mul? (hq : x.value * y.value < 2 ^ (1000 : ℤ)) :
    ∃ b, x.mul? y = some b ∧ IsNearest (x.value * y.value) b := by
  have hratio : ((x.ratio.1 * y.ratio.1 : ℕ) : ℚ) / (x.ratio.2 * y.ratio.2 : ℕ) =
      x.value * y.value := by
    rw [Nat.cast_mul, Nat.cast_mul, mul_div_mul_comm, cast_ratio, cast_ratio]
  rw [← hratio] at hq ⊢
  exact exists_ofRatio? (Nat.mul_pos x.ratio_two_pos y.ratio_two_pos) hq

theorem parts_eq {per k : ℕ} (h : |b.value * per - k| < 1 / 2) : b.parts per = k := by
  refine divHalfEven_eq b.ratio_two_pos ?_
  rw [Nat.cast_mul, mul_comm, mul_div_assoc, cast_ratio, mul_comm]
  exact h

end Binary64
end WorkloadScan.Number
