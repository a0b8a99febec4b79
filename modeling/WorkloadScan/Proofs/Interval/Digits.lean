import Mathlib.Algebra.Order.Group.Nat
import Mathlib.Data.List.TakeWhile
import Mathlib.Tactic.Ring
import WorkloadScan.Interval.Text
import WorkloadScan.Text.Ascii

/-! Decimal digits and the numbers they denote. -/
namespace WorkloadScan

namespace Text
variable {cs ds : List Char}

theorem decimal_append (cs ds : List Char) :
    decimal (cs ++ ds) = 10 ^ ds.length * decimal cs + decimal ds := by
  change Nat.ofDigitChars 10 (cs ++ ds) 0 = _
  rw [Nat.ofDigitChars_append, Nat.ofDigitChars_eq_ofDigitChars_zero]
  rfl

theorem decimal_toDigits (n : ℕ) : decimal (Nat.toDigits 10 n) = n := Nat.ofDigitChars_ten_toDigits

theorem decimal_zeros (n : ℕ) : decimal (List.replicate n '0') = 0 := by
  change Nat.ofDigitChars 10 (List.replicate n '0') 0 = 0
  rw [Nat.ofDigitChars_replicate_zero, Nat.mul_zero]

theorem isDigit_of_mem_toDigits {n : ℕ} : ∀ c ∈ Nat.toDigits 10 n, c.isDigit = true := fun _ =>
  Nat.isDigit_of_mem_toDigits (by decide) (by decide)

end Text

namespace Interval
open Text (decimal)

theorem length_fixedDigits (places n : ℕ) : (fixedDigits places n).length = places := by
  induction places generalizing n with
  | zero => rfl
  | succ places ih => simp [fixedDigits, ih]

theorem isDigit_of_mem_fixedDigits {places n : ℕ} :
    ∀ c ∈ fixedDigits places n, c.isDigit = true := by
  induction places generalizing n with
  | zero => simp [fixedDigits]
  | succ places ih =>
    rw [fixedDigits, List.forall_mem_append, List.forall_mem_singleton, Nat.isDigit_digitChar]
    exact ⟨ih, decide_eq_true (Nat.mod_lt n (by decide))⟩

theorem decimal_fixedDigits {places n : ℕ} (h : n < 10 ^ places) :
    decimal (fixedDigits places n) = n := by
  induction places generalizing n with
  | zero =>
    rw [Nat.lt_one_iff.mp h]
    rfl
  | succ places ih =>
    have hrest : n / 10 < 10 ^ places := by
      rw [Nat.pow_succ] at h
      omega
    have hlast : decimal [(n % 10).digitChar] = n % 10 := by
      rw [← Nat.toDigits_of_lt_base (Nat.mod_lt n (by decide)), Text.decimal_toDigits]
    rw [fixedDigits, Text.decimal_append, ih hrest, hlast, List.length_singleton]
    omega

theorem exists_dropTrailingZeros (ds : List Char) :
    ∃ zeros, dropTrailingZeros ds ++ List.replicate zeros '0' = ds := by
  let dropped := ds.reverse.takeWhile (· == '0')
  have hdropped : dropped = List.replicate dropped.length '0' := by
    refine List.eq_replicate_of_mem fun c hc => ?_
    simpa using List.mem_takeWhile_imp hc
  refine ⟨dropped.length, ?_⟩
  calc dropTrailingZeros ds ++ List.replicate dropped.length '0'
      = (dropped ++ ds.reverse.dropWhile (· == '0')).reverse := by
        rw [List.reverse_append, ← dropTrailingZeros, hdropped, List.reverse_replicate,
          List.length_replicate]
    _ = ds := by rw [List.takeWhile_append_dropWhile, List.reverse_reverse]

theorem exists_decimal_fraction {places n : ℕ} (h : n < 10 ^ places) :
    let fraction := dropTrailingZeros (fixedDigits places n)
    (∀ c ∈ fraction, c.isDigit = true) ∧
      ∃ zeros, fraction.length + zeros = places ∧ decimal fraction * 10 ^ zeros = n := by
  intro fraction
  obtain ⟨zeros, hzeros⟩ := exists_dropTrailingZeros (fixedDigits places n)
  refine ⟨fun c hc => ?_, zeros, ?_, ?_⟩
  · refine isDigit_of_mem_fixedDigits c (?_ : c ∈ fixedDigits places n)
    rw [← hzeros]
    exact List.mem_append_left _ hc
  · have hlength := congrArg List.length hzeros
    rwa [List.length_append, List.length_replicate, length_fixedDigits] at hlength
  · have hdecimal := congrArg decimal hzeros
    rw [Text.decimal_append, List.length_replicate, Text.decimal_zeros, Nat.add_zero,
      decimal_fixedDigits h] at hdecimal
    rw [Nat.mul_comm]
    exact hdecimal

end Interval
end WorkloadScan
