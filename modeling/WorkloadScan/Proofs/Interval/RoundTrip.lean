import WorkloadScan.Interval.Json
import WorkloadScan.Proofs.Interval.Digits
import WorkloadScan.Proofs.Interval.Precision
import WorkloadScan.Proofs.Interval.Reading

/-! The text of an interval below `2 ^ 23` seconds is read as the same interval. -/
namespace WorkloadScan.Interval
variable {n : ℕ} {x : Decimal}

/-! ### The scale of a text -/

theorem exists_unit_of_scaleOf (n : ℕ) :
    ∃ u : TimeUnit, (scaleOf n).symbol.toList ∈ u.spellings ∧ u.nanos = (scaleOf n).nanos ∧
      (scaleOf n).nanos = 10 ^ (scaleOf n).places := by
  rw [scaleOf]
  split_ifs
  · exact ⟨.second, by decide, rfl, rfl⟩
  · exact ⟨.millisecond, by decide, rfl, rfl⟩
  · exact ⟨.microsecond, by decide, rfl, rfl⟩
  · exact ⟨.nanosecond, by decide, rfl, rfl⟩

theorem scaleOf_le (hn : 0 < n) : (scaleOf n).nanos ≤ n := by
  rw [scaleOf]
  split_ifs with hseconds hmillis hmicros
  · exact hseconds
  · exact hmillis
  · exact hmicros
  · exact hn

/-! ### The component of a text -/

def fraction (n : ℕ) : List Char :=
  dropTrailingZeros (fixedDigits (scaleOf n).places (n % (scaleOf n).nanos))

def component (n : ℕ) : Component :=
  ⟨Nat.toDigits 10 (n / (scaleOf n).nanos) ++ pointed (fraction n), (scaleOf n).symbol.toList⟩

theorem text_component (n : ℕ) : (component n).text = chars n := rfl

theorem fraction_digits (n : ℕ) :
    (∀ c ∈ fraction n, c.isDigit = true) ∧
      ∃ zeros, (scaleOf n).nanos = 10 ^ ((fraction n).length + zeros) ∧
        Text.decimal (fraction n) * 10 ^ zeros = n % (scaleOf n).nanos := by
  obtain ⟨u, -, hnanos, hpower⟩ := exists_unit_of_scaleOf n
  have hpos : 0 < (scaleOf n).nanos := hnanos ▸ u.nanos_pos
  have hlt : n % (scaleOf n).nanos < 10 ^ (scaleOf n).places := hpower ▸ Nat.mod_lt n hpos
  obtain ⟨hdigits, zeros, hlength, hdecimal⟩ := exists_decimal_fraction hlt
  exact ⟨hdigits, zeros, by rw [hpower, fraction, hlength], hdecimal⟩

theorem value_of_digits {scale zeros : ℕ} {fraction : List Char}
    (hscale : scale = 10 ^ (fraction.length + zeros))
    (hfraction : Text.decimal fraction * 10 ^ zeros = n % scale) :
    Decimal.value ⟨false, Text.decimal (Nat.toDigits 10 (n / scale) ++ fraction), fraction.length⟩ *
      scale = n := by
  have hwhole : Text.decimal (Nat.toDigits 10 (n / scale) ++ fraction) * 10 ^ zeros = n := by
    calc Text.decimal (Nat.toDigits 10 (n / scale) ++ fraction) * 10 ^ zeros
        = 10 ^ (fraction.length + zeros) * (n / scale) + Text.decimal fraction * 10 ^ zeros := by
          rw [Text.decimal_append, Text.decimal_toDigits]
          ring
      _ = scale * (n / scale) + n % scale := by rw [← hscale, hfraction]
      _ = n := Nat.div_add_mod n scale
  have hcast : (scale : ℚ) = 10 ^ fraction.length * 10 ^ zeros := by
    rw [hscale, Nat.cast_pow, Nat.cast_ofNat, pow_add]
  rw [Decimal.value, hcast, Nat.pow_eq, Nat.cast_pow, Nat.cast_ofNat, ← mul_assoc,
    div_mul_cancel₀ _ (pow_ne_zero _ (by norm_num))]
  exact_mod_cast hwhole

theorem readDecimal_component (n : ℕ) :
    (component n).value ∈ number ∧
      ∃ x, readDecimal (component n).value = .ok x ∧ x.negative = false ∧
        x.value * (scaleOf n).nanos = n := by
  obtain ⟨hdigits, zeros, hscale, hfraction⟩ := fraction_digits n
  obtain ⟨hmem, hread⟩ := readDecimal_pointed (Nat.toDigits_ne_nil (n := n / (scaleOf n).nanos))
    Text.isDigit_of_mem_toDigits hdigits
  exact ⟨hmem, _, hread, rfl, value_of_digits hscale hfraction⟩

theorem componentNanos?_of_scaleOf (hx : x.value * (scaleOf n).nanos = n)
    (hn : n < 2 ^ 23 * 10 ^ 9) : componentNanos? x (scaleOf n).nanos = some n := by
  obtain ⟨u, -, hnanos, -⟩ := exists_unit_of_scaleOf n
  have hpos : 0 < (scaleOf n).nanos := hnanos ▸ u.nanos_pos
  -- Relative errors of three roundings are small enough below a second only; from there on the unit
  -- is exact, and the error is that of the number alone.
  by_cases hsecond : seconds.nanos ≤ n
  · have hscale : scaleOf n = seconds := if_pos hsecond
    rw [hscale] at hx ⊢
    exact componentNanos?_of_seconds (by exact_mod_cast hx) hn
  · rcases Nat.eq_zero_or_pos n with rfl | hn0
    · have hzero : x.value = 0 := by
        rw [Nat.cast_zero, mul_eq_zero] at hx
        exact hx.resolve_right (Nat.cast_ne_zero.mpr hpos.ne')
      rw [← hnanos]
      exact componentNanos?_zero hzero u.unitSeconds_lt
    · have hone : 1 ≤ x.value := by
        have hscale : ((scaleOf n).nanos : ℚ) ≤ x.value * (scaleOf n).nanos := by
          rw [hx]
          exact_mod_cast scaleOf_le hn0
        exact le_of_mul_le_mul_right (by rwa [one_mul]) (Nat.cast_pos.mpr hpos)
      exact componentNanos?_of_lt_second hone hpos hx (Nat.lt_of_not_le hsecond)

theorem ofJson_string (s : String) :
    ofJson (.string s) = (read s).mapError fun fault => .rejected fault.message := by
  simp only [ofJson, Json.asString, bind, Except.bind]

/-- Writing an interval below `2 ^ 23` seconds and reading it again changes nothing. -/
theorem read_text (d : Interval) (h : d.nanos < 2 ^ 23 * 10 ^ 9) :
    read d.text = .ok d ∧ ofJson d.toJson = .ok d := by
  obtain ⟨u, hsymbol, hnanos, -⟩ := exists_unit_of_scaleOf d.nanos
  obtain ⟨hmem, x, hvalue, hnegative, hx⟩ := readDecimal_component d.nanos
  have hlength : componentNanos? x u.nanos = some d.nanos :=
    hnanos ▸ componentNanos?_of_scaleOf hx h
  have hcomponent : readComponent (component d.nanos) = .ok d :=
    readComponent_of_componentNanos? hvalue hnegative hsymbol hlength d.bound
  have hread : read d.text = .ok d := by
    have hspelled : ∀ k ∈ [component d.nanos], k.IsSpelled number := by
      simpa using ⟨hmem, u, hsymbol⟩
    have hnone : ∀ c ∈ ([] : List Char), Text.isBlank c = true := List.forall_mem_nil _
    have hcomponents := read_components (List.cons_ne_nil _ _) hspelled (.cons hcomponent .nil)
      (by simpa using d.bound) hnone hnone false
    rw [text, ← text_component]
    simpa [sign] using hcomponents
  refine ⟨hread, ?_⟩
  rw [toJson, ofJson_string, hread, Except.mapError]

/-- Just below `2 ^ 23` seconds, where binary64 values are `2 ^ (-30)` seconds apart. -/
theorem read_text_below_bound :
    let d : Interval := ⟨8388607999999999, by decide⟩
    d.nanos < 2 ^ 23 * 10 ^ 9 ∧ d.text = "8388607.999999999s" ∧
      read "8388607.999999999s" = .ok d ∧ ofJson (.string "8388607.999999999s") = .ok d := by
  intro d
  have hlt : d.nanos < 2 ^ 23 * 10 ^ 9 := by decide
  have htext : d.text = "8388607.999999999s" := by decide
  have hround := read_text d hlt
  rw [toJson, htext] at hround
  exact ⟨hlt, htext, hround⟩

end WorkloadScan.Interval
