import WorkloadScan.Proofs.Interval.Digits
import WorkloadScan.Proofs.Interval.Precision
import WorkloadScan.Proofs.Interval.Reading

/-! Whole numbers of units. Up to `2 ^ 21` seconds each they are read exactly, although not all
units are binary64 values. -/
namespace WorkloadScan.Interval

/-- A whole number of some unit, with zeros that may be written before it. -/
structure WholePart where
  zeros : ℕ
  count : ℕ
  unit : TimeUnit
  symbol : List Char
  isSpelled : symbol ∈ unit.spellings

namespace WholePart
variable {part : WholePart} {parts : List WholePart}

def component (part : WholePart) : Component :=
  ⟨List.replicate part.zeros '0' ++ Nat.toDigits 10 part.count, part.symbol⟩

def text (part : WholePart) : List Char :=
  List.replicate part.zeros '0' ++ Nat.toDigits 10 part.count ++ part.symbol

def nanos (part : WholePart) : ℕ := part.count * part.unit.nanos

theorem isDigit_of_mem_value (part : WholePart) :
    ∀ c ∈ part.component.value, c.isDigit = true := by
  refine List.forall_mem_append.mpr ⟨fun c hc => ?_, Text.isDigit_of_mem_toDigits⟩
  rw [List.eq_of_mem_replicate hc]
  rfl

theorem value_ne_nil (part : WholePart) : part.component.value ≠ [] := by
  simp [component, Nat.toDigits_ne_nil]

theorem decimal_value (part : WholePart) : Text.decimal part.component.value = part.count := by
  rw [component, Text.decimal_append, Text.decimal_zeros, Text.decimal_toDigits, Nat.mul_zero,
    Nat.zero_add]

theorem value_mem_number (part : WholePart) : part.component.value ∈ number :=
  ⟨part.component.value, [], by simpa using part.value_ne_nil,
    by simpa using part.isDigit_of_mem_value, .inl (by simp)⟩

theorem readDecimal_value (part : WholePart) :
    readDecimal part.component.value = .ok ⟨false, part.count, 0⟩ := by
  rw [readDecimal_of_mem_number part.value_mem_number,
    readUnsignedDecimal_digits false part.value_ne_nil part.isDigit_of_mem_value, decimal_value]

theorem readComponent_component (h : part.nanos ≤ 2 ^ 21 * 10 ^ 9) :
    ∃ d : Interval, d.nanos = part.nanos ∧ readComponent part.component = .ok d := by
  have hlt : part.nanos < 18446744073709551616 * 1000000000 := h.trans_lt (by norm_num)
  have hvalue : Decimal.value ⟨false, part.count, 0⟩ = part.count := by
    simp [Decimal.value]
  have hnanos := componentNanos?_of_whole hvalue part.unit.nanos_pos part.unit.unitSeconds_lt h
  exact ⟨⟨part.nanos, hlt⟩, rfl,
    readComponent_of_componentNanos? part.readDecimal_value rfl part.isSpelled hnanos hlt⟩

theorem forall₂_readComponent (h : ∀ part ∈ parts, part.nanos ≤ 2 ^ 21 * 10 ^ 9) :
    ∃ ds : List Interval, ds.map Interval.nanos = parts.map nanos ∧
      List.Forall₂ (fun k d => readComponent k = .ok d) (parts.map component) ds := by
  induction parts with
  | nil => exact ⟨[], rfl, .nil⟩
  | cons part parts ih =>
    obtain ⟨hpart, hparts⟩ := List.forall_mem_cons.mp h
    obtain ⟨d, hnanos, hd⟩ := readComponent_component hpart
    obtain ⟨ds, hrest, hds⟩ := ih hparts
    exact ⟨d :: ds, by simp [hnanos, hrest], .cons hd hds⟩

end WholePart

/-- Parts that are short are read as their exact sum, if it is no longer than an interval can be,
with white space around them and a plus before them or not. -/
theorem read_wholeParts {parts : List WholePart} (hne : parts ≠ [])
    (hshort : ∀ part ∈ parts, part.nanos ≤ 2 ^ 21 * 10 ^ 9)
    (hsum : (parts.map WholePart.nanos).sum < 2 ^ 64 * 10 ^ 9) {before after : List Char}
    (hbefore : ∀ c ∈ before, Text.isBlank c = true) (hafter : ∀ c ∈ after, Text.isBlank c = true)
    (plus : Bool) :
    (read (String.ofList
        (before ++ (sign plus ++ parts.flatMap WholePart.text) ++ after))).map Interval.nanos =
      .ok (parts.map WholePart.nanos).sum := by
  obtain ⟨ds, hnanos, hds⟩ := WholePart.forall₂_readComponent hshort
  have htext : parts.flatMap WholePart.text =
      (parts.map WholePart.component).flatMap Component.text := by
    rw [List.flatMap_map]
    rfl
  have hspelled : ∀ k ∈ parts.map WholePart.component, k.IsSpelled number := by
    intro k hk
    obtain ⟨part, -, rfl⟩ := List.mem_map.mp hk
    exact ⟨part.value_mem_number, part.unit, part.isSpelled⟩
  have hfits : (ds.map Interval.nanos).sum < 18446744073709551616 * 1000000000 := by
    rw [hnanos]
    exact hsum.trans_eq (by norm_num)
  rw [htext, read_components (by simpa using hne) hspelled hds hfits hbefore hafter plus, ← hnanos]
  rfl

/-- Parts of just `2 ^ 21` seconds and of a nanosecond less, with white space, a plus and a zero
before them. -/
theorem read_wholeParts_at_bound :
    let parts : List WholePart := [⟨1, 2097152, .second, ['s'], by decide⟩,
      ⟨0, 2097151999999999, .nanosecond, ['n', 's'], by decide⟩]
    parts ≠ [] ∧ (∀ part ∈ parts, part.nanos ≤ 2 ^ 21 * 10 ^ 9) ∧
      (parts.map WholePart.nanos).sum < 2 ^ 64 * 10 ^ 9 ∧
      (∀ c ∈ [' '], Text.isBlank c = true) ∧ (∀ c ∈ ['\n'], Text.isBlank c = true) ∧
      (read " +02097152s2097151999999999ns\n").map Interval.nanos = .ok 4194303999999999 := by
  intro parts
  have hne : parts ≠ [] := by simp [parts]
  have hshort : ∀ part ∈ parts, part.nanos ≤ 2 ^ 21 * 10 ^ 9 := by decide
  have hsum : (parts.map WholePart.nanos).sum < 2 ^ 64 * 10 ^ 9 := by decide
  have hblank : ∀ c ∈ [' '], Text.isBlank c = true := List.forall_mem_singleton.mpr (by decide)
  have hline : ∀ c ∈ ['\n'], Text.isBlank c = true := List.forall_mem_singleton.mpr (by decide)
  exact ⟨hne, hshort, hsum, hblank, hline, read_wholeParts hne hshort hsum hblank hline true⟩

end WorkloadScan.Interval
