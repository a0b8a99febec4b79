import WorkloadScan.Proofs.Interval.Grammar
import WorkloadScan.Proofs.Number.Rounding

/-! How exactly the length of a component is found. The number, the unit and their product are each
rounded by half a unit in the last place at most; as long as all this comes to less than half a
nanosecond, the length is exact. -/
namespace WorkloadScan.Interval
open WorkloadScan.Number Binary64

/-! ### Relative errors -/

/-- The value `r` differs from `q` by the fraction `ε` of it at most. -/
def IsWithin (ε q r : ℚ) : Prop := |r - q| ≤ q * ε

section
variable {α β q r s q' r' : ℚ}

theorem isWithin_zero : IsWithin 0 q q := by
  simp [IsWithin]

theorem IsWithin.le (h : IsWithin α q r) : r ≤ q * (1 + α) := by
  have hupper := (abs_le.mp h).2
  linarith

theorem IsWithin.half_le (h : IsWithin α q r) (hq : 0 ≤ q) (hα : α ≤ 1 / 2) : q / 2 ≤ r := by
  have hlower := (abs_le.mp h).1
  have hhalf : q * α ≤ q * (1 / 2) := mul_le_mul_of_nonneg_left hα hq
  linarith

theorem IsWithin.trans (h : IsWithin α q r) (h' : IsWithin β r s) (hβ : 0 ≤ β) :
    IsWithin ((1 + α) * (1 + β) - 1) q s := by
  calc |s - q| ≤ |s - r| + |r - q| := abs_sub_le s r q
    _ ≤ r * β + q * α := add_le_add h' h
    _ ≤ q * (1 + α) * β + q * α :=
        add_le_add (mul_le_mul_of_nonneg_right h.le hβ) le_rfl
    _ = q * ((1 + α) * (1 + β) - 1) := by ring

theorem IsWithin.mul (h : IsWithin α q r) (h' : IsWithin β q' r') (hq : 0 ≤ q) (hr' : 0 ≤ r')
    (hα : 0 ≤ α) : IsWithin ((1 + α) * (1 + β) - 1) (q * q') (r * r') := by
  calc |r * r' - q * q'| = |(r - q) * r' + q * (r' - q')| := by
        congr 1
        ring
    _ ≤ |r - q| * r' + q * |r' - q'| := by
        refine (abs_add_le _ _).trans_eq ?_
        rw [abs_mul, abs_mul, abs_of_nonneg hr', abs_of_nonneg hq]
    _ ≤ q * α * (q' * (1 + β)) + q * (q' * β) :=
        add_le_add (mul_le_mul h h'.le hr' (mul_nonneg hq hα)) (mul_le_mul_of_nonneg_left h' hq)
    _ = q * q' * ((1 + α) * (1 + β) - 1) := by ring

end

def roundingError : ℚ := 2 ^ (-53 : ℤ)

theorem roundingError_nonneg : 0 ≤ roundingError := by
  rw [roundingError]
  positivity

theorem isWithin_of_isNearest {b : Binary64} {q : ℚ} (h : IsNearest q b)
    (hq : 2 ^ (-1022 : ℤ) ≤ q) : IsWithin roundingError q b.value := h.relative hq

/-! ### The three roundings of a component -/

variable {x : Decimal} {unit n : ℕ}

def Decimal.value (x : Decimal) : ℚ := x.digits / (Nat.pow 10 x.places : ℕ)

def unitSeconds (unit : ℕ) : ℚ := unit / (1000000000 : ℕ)

theorem TimeUnit.unitSeconds_lt (u : TimeUnit) : unitSeconds u.nanos < 2 ^ (64 : ℤ) := by
  cases u <;> norm_num [unitSeconds, TimeUnit.nanos]

theorem exists_componentNanos? (hx : x.value < 2 ^ (64 : ℤ))
    (hunit : unitSeconds unit < 2 ^ (64 : ℤ)) :
    ∃ b u p, IsNearest x.value b ∧ IsNearest (unitSeconds unit) u ∧
      IsNearest (u.value * b.value) p ∧ componentNanos? x unit = some (p.parts 1000000000) := by
  have hlarge : (2 : ℚ) ^ (64 : ℤ) < 2 ^ (1000 : ℤ) := zpow_lt_zpow_right₀ one_lt_two (by norm_num)
  obtain ⟨b, hb, hbnear⟩ := exists_ofRatio? (Nat.pow_pos (by decide)) (hx.trans hlarge)
  obtain ⟨u, hu, hunear⟩ := exists_ofRatio? (by decide) (hunit.trans hlarge)
  have hproduct : u.value * b.value < 2 ^ (1000 : ℤ) := by
    calc u.value * b.value
        ≤ 2 ^ (54 + 11 : ℤ) * 2 ^ (54 + 11 : ℤ) :=
          mul_le_mul (hunear.lt_two_zpow (by norm_num) hunit).le
            (hbnear.lt_two_zpow (by norm_num) hx).le b.value_nonneg (by positivity)
      _ < 2 ^ (1000 : ℤ) := by
        rw [← zpow_add₀ two_ne_zero]
        exact zpow_lt_zpow_right₀ one_lt_two (by norm_num)
  obtain ⟨p, hp, hpnear⟩ := exists_mul? hproduct
  refine ⟨b, u, p, hbnear, hunear, hpnear, ?_⟩
  simp [componentNanos?, hb, hu, hp]

theorem componentNanos?_zero (hx : x.value = 0) (hunit : unitSeconds unit < 2 ^ (64 : ℤ)) :
    componentNanos? x unit = some 0 := by
  have hsmall : x.value < 2 ^ (64 : ℤ) := by
    rw [hx]
    positivity
  obtain ⟨b, u, p, hb, -, hp, hnanos⟩ := exists_componentNanos? hsmall hunit
  have hbzero : b.value = 0 := (hb.eq_of_nat (k := 0) (by norm_num) (by simpa using hx)).trans hx
  rw [hbzero, mul_zero] at hp
  have hpzero : p.value = 0 := hp.eq_of_nat (k := 0) (by norm_num) (by simp)
  rw [hnanos, parts_eq (k := 0)]
  rw [hpzero]
  norm_num

theorem value_nonneg (x : Decimal) : 0 ≤ x.value := by
  rw [Decimal.value]
  positivity

theorem unitSeconds_nonneg (unit : ℕ) : 0 ≤ unitSeconds unit := by
  rw [unitSeconds]
  positivity

theorem smallest_le : (2 : ℚ) ^ (-1022 : ℤ) ≤ 1 / 4000000000 := by
  calc (2 : ℚ) ^ (-1022 : ℤ) ≤ 2 ^ (-32 : ℤ) := zpow_le_zpow_right₀ one_le_two (by norm_num)
    _ ≤ 1 / 4000000000 := by norm_num

theorem isWithin_product {α : ℚ} {b u p : Binary64} (hpos : 0 < unit) (hn : 0 < n)
    (hα : α ≤ 1 / 2) (hb : IsWithin α x.value b.value) (hu : IsNearest (unitSeconds unit) u)
    (hp : IsNearest (u.value * b.value) p) (hlength : x.value * unit = n) :
    IsWithin ((1 + roundingError) * (1 + α) * (1 + roundingError) - 1) (n / 1000000000)
      p.value := by
  have hseconds : unitSeconds unit * x.value = n / 1000000000 := by
    rw [unitSeconds, ← hlength]
    push_cast
    ring
  have hone : (1 : ℚ) ≤ unit := by exact_mod_cast hpos
  have hwhole : (1 : ℚ) ≤ n := by exact_mod_cast hn
  have hunit : IsWithin roundingError (unitSeconds unit) u.value := by
    refine isWithin_of_isNearest hu (smallest_le.trans ?_)
    rw [unitSeconds]
    push_cast
    linarith
  have hfactors := hunit.mul hb (unitSeconds_nonneg unit) b.value_nonneg roundingError_nonneg
  -- The product is far from the smallest values, where errors are no longer relative.
  have hproduct : IsWithin roundingError (u.value * b.value) p.value := by
    refine isWithin_of_isNearest hp (smallest_le.trans ?_)
    have hunitHalf := hunit.half_le (unitSeconds_nonneg unit) (by norm_num [roundingError])
    have hnumberHalf := hb.half_le (value_nonneg x) hα
    calc (1 : ℚ) / 4000000000 ≤ n / 1000000000 / 4 := by linarith
      _ = unitSeconds unit / 2 * (x.value / 2) := by rw [← hseconds]; ring
      _ ≤ u.value * b.value :=
        mul_le_mul hunitHalf hnumberHalf (by linarith [value_nonneg x]) u.value_nonneg
  have hall := hfactors.trans hproduct roundingError_nonneg
  rwa [hseconds, add_sub_cancel] at hall

theorem parts_nanos {p : Binary64} (h : |p.value - n / 1000000000| * 1000000000 < 1 / 2) :
    p.parts 1000000000 = n := by
  refine parts_eq (lt_of_eq_of_lt ?_ h)
  calc |p.value * (1000000000 : ℕ) - n|
      = |(p.value - n / 1000000000) * 1000000000| := by
        congr 1
        push_cast
        ring
    _ = |p.value - n / 1000000000| * 1000000000 := by
        rw [abs_mul, abs_of_pos (by norm_num : (0 : ℚ) < 1000000000)]

/-- A length is exact if the relative errors of all three roundings together leave less than half a
nanosecond. -/
theorem componentNanos?_of_isWithin {α : ℚ} (hα : α ≤ 1 / 2)
    (hx : x.value < 2 ^ (64 : ℤ)) (hpos : 0 < unit) (hunit : unitSeconds unit < 2 ^ (64 : ℤ))
    (hwithin : ∀ b, IsNearest x.value b → IsWithin α x.value b.value)
    (hlength : x.value * unit = n) (hn : 0 < n)
    (hsmall : n * ((1 + roundingError) * (1 + α) * (1 + roundingError) - 1) < 1 / 2) :
    componentNanos? x unit = some n := by
  obtain ⟨b, u, p, hb, hu, hp, hnanos⟩ := exists_componentNanos? hx hunit
  have hproduct := isWithin_product hpos hn hα (hwithin b hb) hu hp hlength
  rw [hnanos, parts_nanos]
  calc |p.value - n / 1000000000| * 1000000000
      ≤ n / 1000000000 * ((1 + roundingError) * (1 + α) * (1 + roundingError) - 1) * 1000000000 :=
        mul_le_mul_of_nonneg_right hproduct (by norm_num)
    _ = n * ((1 + roundingError) * (1 + α) * (1 + roundingError) - 1) := by ring
    _ < 1 / 2 := hsmall

/-! ### Exact lengths -/

theorem componentNanos?_of_whole {k : ℕ} (hx : x.value = k) (hpos : 0 < unit)
    (hunit : unitSeconds unit < 2 ^ (64 : ℤ)) (hlength : k * unit ≤ 2 ^ 21 * 1000000000) :
    componentNanos? x unit = some (k * unit) := by
  rcases Nat.eq_zero_or_pos k with rfl | hk
  · rw [componentNanos?_zero (by simpa using hx) hunit, Nat.zero_mul]
  · have hkle : k ≤ 2 ^ 21 * 1000000000 := (Nat.le_mul_of_pos_right k hpos).trans hlength
    have hk53 : k < 2 ^ 53 := hkle.trans_lt (by norm_num)
    have hlt : x.value < 2 ^ (64 : ℤ) := by
      have hcast : (k : ℚ) < 2 ^ (53 : ℤ) := by exact_mod_cast hk53
      rw [hx]
      exact hcast.trans (zpow_lt_zpow_right₀ one_lt_two (by norm_num))
    have hexact : ∀ b, IsNearest x.value b → IsWithin 0 x.value b.value := by
      intro b hb
      rw [hb.eq_of_nat hk53 hx]
      exact isWithin_zero
    have hproduct : x.value * unit = (k * unit : ℕ) := by
      rw [hx, Nat.cast_mul]
    refine componentNanos?_of_isWithin (by norm_num) hlt hpos hunit hexact hproduct
      (Nat.mul_pos hk hpos) ?_
    have hcast : ((k * unit : ℕ) : ℚ) ≤ 2 ^ 21 * 1000000000 := by exact_mod_cast hlength
    calc ((k * unit : ℕ) : ℚ) * ((1 + roundingError) * (1 + 0) * (1 + roundingError) - 1)
        ≤ 2 ^ 21 * 1000000000 * ((1 + roundingError) * (1 + 0) * (1 + roundingError) - 1) :=
          mul_le_mul_of_nonneg_right hcast (by norm_num [roundingError])
      _ < 1 / 2 := by norm_num [roundingError]

theorem componentNanos?_of_lt_second (hx : 1 ≤ x.value) (hpos : 0 < unit)
    (hlength : x.value * unit = n) (hn : n < 1000000000) : componentNanos? x unit = some n := by
  have hone : (1 : ℚ) ≤ unit := by exact_mod_cast hpos
  have hcast : (n : ℚ) ≤ 1000000000 := by exact_mod_cast hn.le
  have hxle : x.value ≤ n := by
    rw [← hlength]
    exact le_mul_of_one_le_right (value_nonneg x) hone
  have hunitle : (unit : ℚ) ≤ n := by
    rw [← hlength]
    exact le_mul_of_one_le_left (by positivity) hx
  have hpositive : 0 < n := by
    have : (0 : ℚ) < n := by linarith
    exact_mod_cast this
  have hlarge : (1000000000 : ℚ) < 2 ^ (64 : ℤ) := by norm_num
  have hunit : unitSeconds unit < 2 ^ (64 : ℤ) := by
    rw [unitSeconds]
    push_cast
    linarith
  have hwithin : ∀ b, IsNearest x.value b → IsWithin roundingError x.value b.value := by
    intro b hb
    exact isWithin_of_isNearest hb (smallest_le.trans (by linarith))
  refine componentNanos?_of_isWithin (by norm_num [roundingError])
    (by linarith) hpos hunit hwithin hlength hpositive ?_
  calc (n : ℚ) * ((1 + roundingError) * (1 + roundingError) * (1 + roundingError) - 1)
      ≤ 1000000000 * ((1 + roundingError) * (1 + roundingError) * (1 + roundingError) - 1) :=
        mul_le_mul_of_nonneg_right hcast (by norm_num [roundingError])
    _ < 1 / 2 := by norm_num [roundingError]

theorem componentNanos?_of_seconds (hlength : x.value * 1000000000 = n)
    (hn : n < 2 ^ 23 * 1000000000) : componentNanos? x 1000000000 = some n := by
  have hcast : (n : ℚ) < 2 ^ 23 * 1000000000 := by exact_mod_cast hn
  have hx : x.value < 2 ^ (53 + -30 : ℤ) := by
    have hpower : (2 : ℚ) ^ (53 + -30 : ℤ) = 2 ^ 23 := by norm_num
    rw [hpower]
    linarith
  have hone : unitSeconds 1000000000 = 1 := by norm_num [unitSeconds]
  have hsecond : unitSeconds 1000000000 < 2 ^ (64 : ℤ) := by
    rw [hone]
    norm_num
  obtain ⟨b, u, p, hb, hu, hp, hnanos⟩ := exists_componentNanos?
    (hx.trans (zpow_lt_zpow_right₀ one_lt_two (by norm_num))) hsecond
  have hunit : u.value = 1 := (hu.eq_of_nat (k := 1) (by norm_num) (by simpa using hone)).trans hone
  have hseconds : (n : ℚ) / 1000000000 = x.value := by
    rw [← hlength]
    ring
  rw [hunit, one_mul] at hp
  rw [hnanos, parts_nanos]
  calc |p.value - n / 1000000000| * 1000000000
      = |b.value - x.value| * 1000000000 := by rw [hp.eq_of_value hb, hseconds]
    _ ≤ 2 ^ (-30 : ℤ) / 2 * 1000000000 :=
        mul_le_mul_of_nonneg_right (hb.error (-30) (by norm_num) hx) (by norm_num)
    _ < 1 / 2 := by norm_num

end WorkloadScan.Interval
