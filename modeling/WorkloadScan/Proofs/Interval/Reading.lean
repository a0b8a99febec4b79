import Mathlib.Data.List.TakeWhile
import WorkloadScan.Interval.Text
import WorkloadScan.Proofs.Interval.Grammar

/-! What is read as an interval: the language of intervals, except that each component may have a
plus of its own. -/
namespace WorkloadScan.Interval
variable {k : Component} {ks : List Component} {cs : List Char} {d : Interval}

/-! ### Numbers and units -/

theorem takeWhile_digits {whole rest : List Char} (hwhole : ∀ c ∈ whole, c.isDigit = true)
    (hrest : ∀ c ∈ rest.head?, c.isDigit = false) :
    (whole ++ rest).takeWhile Char.isDigit = whole ∧
      (whole ++ rest).dropWhile Char.isDigit = rest := by
  rw [List.takeWhile_append_of_pos hwhole, List.dropWhile_append_of_pos hwhole]
  cases rest with
  | nil => simp
  | cons c rest => simp [hrest c rfl]

theorem readUnsignedDecimal_digits (negative : Bool) {digits : List Char} (hne : digits ≠ [])
    (hdigits : ∀ c ∈ digits, c.isDigit = true) :
    readUnsignedDecimal negative digits = .ok ⟨negative, Text.decimal digits, 0⟩ := by
  obtain ⟨htake, hdrop⟩ := @takeWhile_digits digits [] hdigits (by simp)
  rw [List.append_nil] at htake hdrop
  simp [readUnsignedDecimal, htake, hdrop, hne]

theorem readUnsignedDecimal_pointed (negative : Bool) {whole fraction : List Char}
    (hne : whole ++ fraction ≠ []) (hdigits : ∀ c ∈ whole ++ fraction, c.isDigit = true) :
    readUnsignedDecimal negative (whole ++ '.' :: fraction) =
      .ok ⟨negative, Text.decimal (whole ++ fraction), fraction.length⟩ := by
  obtain ⟨hwhole, hfraction⟩ := List.forall_mem_append.mp hdigits
  obtain ⟨htake, hdrop⟩ := @takeWhile_digits whole ('.' :: fraction) hwhole (by simp)
  have hall : fraction.all Char.isDigit = true := List.all_eq_true.mpr hfraction
  have hempty : (whole.isEmpty && fraction.isEmpty) = false := by
    rw [Bool.eq_false_iff]
    simpa using hne
  simp [readUnsignedDecimal, htake, hdrop, hall, hempty]

theorem mem_number_of_readUnsignedDecimal {negative : Bool} {x : Decimal}
    (h : readUnsignedDecimal negative cs = .ok x) : x.negative = negative ∧ cs ∈ number := by
  have hsplit : cs.takeWhile Char.isDigit ++ cs.dropWhile Char.isDigit = cs :=
    List.takeWhile_append_dropWhile
  have hwhole : ∀ c ∈ cs.takeWhile Char.isDigit, c.isDigit = true := fun c hc =>
    List.mem_takeWhile_imp hc
  rw [readUnsignedDecimal] at h
  split at h
  case h_1 hdrop =>
    split at h
    case isTrue => cases h
    case isFalse hne =>
      cases h
      refine ⟨rfl, cs.takeWhile Char.isDigit, [], by simpa using hne, by simpa using hwhole, ?_⟩
      exact .inl (by rw [← hdrop, hsplit])
  case h_2 fraction hdrop =>
    split at h
    case isTrue hfraction =>
      cases h
      rw [Bool.and_eq_true, List.all_eq_true, Bool.not_eq_true', Bool.eq_false_iff] at hfraction
      refine ⟨rfl, cs.takeWhile Char.isDigit, fraction, by simpa using hfraction.2,
        List.forall_mem_append.mpr ⟨hwhole, hfraction.1⟩, ?_⟩
      exact .inr (by rw [← hdrop, hsplit])
    case isFalse => cases h
  case h_3 => cases h

theorem exists_readUnsignedDecimal (negative : Bool) (h : cs ∈ number) :
    ∃ x, readUnsignedDecimal negative cs = .ok x ∧ x.negative = negative := by
  obtain ⟨whole, fraction, hne, hdigits, rfl | rfl⟩ := h
  · exact ⟨_, readUnsignedDecimal_digits negative hne hdigits, rfl⟩
  · exact ⟨_, readUnsignedDecimal_pointed negative hne hdigits, rfl⟩

theorem readDecimal_of_mem_number (h : cs ∈ number) :
    readDecimal cs = readUnsignedDecimal false cs := by
  have hminus : '-' ∉ cs := not_mem_of_mem_number (by decide) (by decide) h
  have hplus : '+' ∉ cs := not_mem_of_mem_number (by decide) (by decide) h
  rw [readDecimal]
  · exact ne_nil_of_mem_number h
  · rintro rest rfl
    exact hminus List.mem_cons_self
  · rintro rest rfl
    exact hplus List.mem_cons_self

theorem mem_of_readDecimal {x : Decimal} (h : readDecimal cs = .ok x) (hx : x.negative = false) :
    cs ∈ optionalPlus * number := by
  rw [mem_optionalPlus_mul]
  rw [readDecimal.eq_def] at h
  split at h
  case h_1 => cases h
  case h_2 rest =>
    have hnegative := (mem_number_of_readUnsignedDecimal h).1
    rw [hx] at hnegative
    cases hnegative
  case h_3 rest => exact .inr ⟨rest, (mem_number_of_readUnsignedDecimal h).2, rfl⟩
  case h_4 => exact .inl (mem_number_of_readUnsignedDecimal h).2

theorem exists_readDecimal (h : cs ∈ optionalPlus * number) :
    ∃ x, readDecimal cs = .ok x ∧ x.negative = false := by
  rcases mem_optionalPlus_mul.mp h with hplain | ⟨rest, hrest, rfl⟩
  · rw [readDecimal_of_mem_number hplain]
    exact exists_readUnsignedDecimal false hplain
  · exact exists_readUnsignedDecimal false hrest

theorem readDecimal_pointed {whole fraction : List Char} (hne : whole ≠ [])
    (hwhole : ∀ c ∈ whole, c.isDigit = true) (hfraction : ∀ c ∈ fraction, c.isDigit = true) :
    whole ++ pointed fraction ∈ number ∧ readDecimal (whole ++ pointed fraction) =
      .ok ⟨false, Text.decimal (whole ++ fraction), fraction.length⟩ := by
  have hdigits : ∀ c ∈ whole ++ fraction, c.isDigit = true :=
    List.forall_mem_append.mpr ⟨hwhole, hfraction⟩
  have hall : whole ++ fraction ≠ [] := by simp [hne]
  by_cases hempty : fraction = []
  · subst hempty
    have hmem : whole ++ pointed [] ∈ number := ⟨whole, [], hall, hdigits, .inl rfl⟩
    rw [readDecimal_of_mem_number hmem]
    exact ⟨hmem, readUnsignedDecimal_digits false hall hdigits⟩
  · have hpointed : pointed fraction = '.' :: fraction := if_neg (by simpa using hempty)
    have hmem : whole ++ '.' :: fraction ∈ number := ⟨whole, fraction, hall, hdigits, .inr rfl⟩
    rw [hpointed, readDecimal_of_mem_number hmem]
    exact ⟨hmem, readUnsignedDecimal_pointed false hall hdigits⟩

theorem unitNanos?_eq_some {n : Nat} :
    unitNanos? cs = some n ↔ ∃ u : TimeUnit, cs ∈ u.spellings ∧ u.nanos = n := by
  constructor
  · intro h
    simp only [unitNanos?, Bool.or_eq_true, decide_eq_true_eq] at h
    split_ifs at h with hns hus hms hs hm hh <;> cases h
    · exact ⟨.nanosecond, by simp [hns, TimeUnit.spellings], rfl⟩
    · exact ⟨.microsecond, by simpa [TimeUnit.spellings, or_assoc] using hus, rfl⟩
    · exact ⟨.millisecond, by simp [hms, TimeUnit.spellings], rfl⟩
    · exact ⟨.second, by simp [hs, TimeUnit.spellings], rfl⟩
    · exact ⟨.minute, by simp [hm, TimeUnit.spellings], rfl⟩
    · exact ⟨.hour, by simp [hh, TimeUnit.spellings], rfl⟩
  · rintro ⟨u, hu, rfl⟩
    have hall : ∀ name ∈ u.spellings, unitNanos? name = some u.nanos := by
      cases u <;> decide
    exact hall cs hu

/-! ### What is read -/

theorem readComponent_of_unit_nil (h : k.unit = []) : readComponent k = .error .noUnit := by
  rw [readComponent, h]
  rfl

theorem readComponent_of_value {x : Decimal} (hunit : k.unit ≠ [])
    (hvalue : readDecimal k.value = .ok x) :
    readComponent k =
      if x.negative then .error .negative
      else
        match unitNanos? k.unit with
        | none => .error (.invalidUnit (String.ofList k.unit))
        | some u =>
          match (componentNanos? x u).bind ofNanos? with
          | none => .error .overflow
          | some d => .ok d := by
  rw [readComponent, if_neg (by simpa using hunit), hvalue]
  rfl

theorem isSpelled_of_readComponent (h : readComponent k = .ok d) :
    k.IsSpelled (optionalPlus * number) := by
  have hunit : k.unit ≠ [] := by
    intro hnil
    rw [readComponent_of_unit_nil hnil] at h
    cases h
  cases hvalue : readDecimal k.value with
  | error fault =>
    rw [readComponent, if_neg (by simpa using hunit), hvalue] at h
    cases h
  | ok x =>
    rw [readComponent_of_value hunit hvalue] at h
    cases hnegative : x.negative with
    | true =>
      rw [hnegative, if_pos rfl] at h
      cases h
    | false =>
      rw [hnegative, if_neg Bool.false_ne_true] at h
      cases hnanos : unitNanos? k.unit with
      | none =>
        rw [hnanos] at h
        cases h
      | some u =>
        obtain ⟨name, hname, -⟩ := unitNanos?_eq_some.mp hnanos
        exact ⟨mem_of_readDecimal hvalue hnegative, name, hname⟩

theorem isLegible_readComponent (h : k.IsSpelled (optionalPlus * number)) :
    IsLegible (readComponent k) := by
  obtain ⟨hvalue, u, hu⟩ := h
  obtain ⟨x, hx, hnegative⟩ := exists_readDecimal hvalue
  have hunit : k.unit ≠ [] := ne_nil_of_mem_unitName ⟨u, hu⟩
  have hnanos : unitNanos? k.unit = some u.nanos := unitNanos?_eq_some.mpr ⟨u, hu, rfl⟩
  rw [readComponent_of_value hunit hx, hnegative, if_neg Bool.false_ne_true, hnanos]
  cases hlength : (componentNanos? x u.nanos).bind ofNanos? with
  | none => exact .inr (by simp [hlength])
  | some d => exact .inl ⟨d, by simp [hlength]⟩

theorem isUnsigned_of_readUnsigned (h : readUnsigned cs = .ok d) :
    IsUnsigned (optionalPlus * number) cs := by
  rw [readUnsigned] at h
  split_ifs at h with hzero hempty
  · exact .inl hzero
  · refine .inr ⟨components cs, ?_, ?_, (flatMap_text_components cs).symm⟩
    · intro hnil
      have htext := flatMap_text_components cs
      rw [hnil] at htext
      exact hempty (by simp [← htext])
    · intro k hk
      obtain ⟨length, hlength⟩ := exists_readComponent_of_ok h k hk
      exact isSpelled_of_readComponent hlength

theorem isLegible_readUnsigned (h : IsUnsigned (optionalPlus * number) cs) :
    IsLegible (readUnsigned cs) := by
  rcases h with rfl | ⟨ks, hne, hks, rfl⟩
  · exact .inl ⟨zero, rfl⟩
  · rw [readUnsigned_flatMap_text hne fun k hk => isWhole_of_isSpelled (hks k hk)]
    exact isLegible_foldlM (fun k hk => isLegible_readComponent (hks k hk)) zero

theorem mem_texts_of_readChars (h : readChars cs = .ok d) :
    cs ∈ texts (optionalPlus * number) := by
  rw [mem_texts]
  rw [readChars.eq_def] at h
  split at h
  case h_1 rest =>
    split_ifs at h with hzero
    rw [hzero]
    exact .inl rfl
  case h_2 rest => exact .inr (.inr ⟨rest, isUnsigned_of_readUnsigned h, rfl⟩)
  case h_3 => exact .inr (.inl (isUnsigned_of_readUnsigned h))

theorem isLegible_readChars (h : cs ∈ texts (optionalPlus * number)) :
    IsLegible (readChars cs) := by
  rcases mem_texts.mp h with rfl | hbare | ⟨rest, hrest, rfl⟩
  · exact .inl ⟨zero, rfl⟩
  · rw [readChars.eq_def]
    split
    case h_1 rest => exact absurd List.mem_cons_self hbare.minus_not_mem
    case h_2 rest => exact isLegible_readUnsigned (isUnsigned_tail hbare)
    case h_3 => exact isLegible_readUnsigned hbare
  · exact isLegible_readUnsigned hrest

/-! ### The length that is read -/

theorem readComponent_of_componentNanos? {x : Decimal} {u : TimeUnit} {n : Nat}
    (hvalue : readDecimal k.value = .ok x) (hnegative : x.negative = false)
    (hunit : k.unit ∈ u.spellings) (hnanos : componentNanos? x u.nanos = some n)
    (hn : n < 18446744073709551616 * 1000000000) : readComponent k = .ok ⟨n, hn⟩ := by
  rw [readComponent_of_value (ne_nil_of_mem_unitName ⟨u, hunit⟩) hvalue, hnegative,
    if_neg Bool.false_ne_true, unitNanos?_eq_some.mpr ⟨u, hunit, rfl⟩]
  simp [hnanos, ofNanos?_eq_some hn]

def sign (plus : Bool) : List Char := if plus then ['+'] else []

theorem readChars_sign (h : IsUnsigned number cs) (plus : Bool) :
    readChars (sign plus ++ cs) = readUnsigned cs := by
  cases plus with
  | true => rfl
  | false =>
    rw [sign, if_neg Bool.false_ne_true, List.nil_append, readChars.eq_def]
    split
    case h_1 rest => exact absurd List.mem_cons_self (h.mono number_le).minus_not_mem
    case h_2 rest => exact absurd List.mem_cons_self h.plus_not_mem
    case h_3 => rfl

theorem IsUnsigned.not_isBlank (h : IsUnsigned number cs) : ∀ c ∈ cs, Text.isBlank c = false := by
  have hdigit (c : Char) (hc : c.isDigit = true) : Text.isBlank c = false := by
    have hbounds : 48 ≤ c.toNat ∧ c.toNat ≤ 57 := Char.isDigit_iff_toNat.mp hc
    simp [Text.isBlank]
    omega
  exact h.forall_mem (fun _ hvalue => forall_mem_of_mem_number hvalue hdigit (by decide))
    (forall_mem_of_mem_unitName fun u => by cases u <;> decide) (by decide)

theorem read_components {ds : List Interval} (hne : ks ≠ []) (hks : ∀ k ∈ ks, k.IsSpelled number)
    (hds : List.Forall₂ (fun k d => readComponent k = .ok d) ks ds)
    (hsum : (ds.map Interval.nanos).sum < 18446744073709551616 * 1000000000)
    {before after : List Char} (hbefore : ∀ c ∈ before, Text.isBlank c = true)
    (hafter : ∀ c ∈ after, Text.isBlank c = true) (plus : Bool) :
    read (String.ofList (before ++ (sign plus ++ ks.flatMap Component.text) ++ after)) =
      .ok ⟨(ds.map Interval.nanos).sum, hsum⟩ := by
  have hunsigned : IsUnsigned number (ks.flatMap Component.text) := .inr ⟨ks, hne, hks, rfl⟩
  have hwhole : ∀ k ∈ ks, k.IsWhole := fun k hk =>
    isWhole_of_isSpelled ⟨number_le (hks k hk).1, (hks k hk).2⟩
  have hempty : sign plus ++ ks.flatMap Component.text ≠ [] := by
    obtain ⟨k, ks, rfl⟩ := List.exists_cons_of_ne_nil hne
    simp [Component.text, (hwhole k List.mem_cons_self).value_ne_nil]
  have hblank : ∀ c ∈ sign plus ++ ks.flatMap Component.text, Text.isBlank c = false := by
    refine List.forall_mem_append.mpr ⟨?_, hunsigned.not_isBlank⟩
    cases plus with
    | true => exact List.forall_mem_singleton.mpr (by decide)
    | false => exact List.forall_mem_nil _
  have htotal : zero.nanos + (ds.map Interval.nanos).sum < 18446744073709551616 * 1000000000 := by
    rwa [zero, Nat.zero_add]
  rw [read, String.toList_ofList, Text.trim_append hempty hbefore hblank hafter,
    readChars_sign hunsigned, readUnsigned_flatMap_text hne hwhole, foldlM_addComponent hds htotal]
  simp [zero]

/-! ### The texts that are read -/

/-- A text is read only if it is the text of an interval, and the texts of intervals are read. -/
def ReadsGrammar (s : String) : Prop :=
  ((∃ d, read s = .ok d) → Text.trim s.toList ∈ texts number) ∧
    (Text.trim s.toList ∈ texts number → IsLegible (read s))

/-- Every component may have a plus of its own, and apart from that just the texts of intervals are
read, if they are not too long. So a text is taken for an interval that it is no text of only if it
has a plus after its first character. -/
theorem readsGrammar_iff (s : String) :
    ((∃ d, read s = .ok d) ↔
      Text.trim s.toList ∈ texts (optionalPlus * number) ∧ read s ≠ .error .overflow) ∧
    (ReadsGrammar s ↔ ((∃ d, read s = .ok d) → '+' ∉ (Text.trim s.toList).tail)) := by
  have hread : (∃ d, read s = .ok d) → Text.trim s.toList ∈ texts (optionalPlus * number) :=
    fun ⟨d, hd⟩ => mem_texts_of_readChars hd
  have hlegible : Text.trim s.toList ∈ texts (optionalPlus * number) → IsLegible (read s) :=
    isLegible_readChars
  refine ⟨⟨fun h => ⟨hread h, ?_⟩, fun ⟨hmem, hfits⟩ => (hlegible hmem).resolve_right hfits⟩, ?_⟩
  · obtain ⟨d, hd⟩ := h
    simp [hd]
  · constructor
    · intro hgrammar h
      exact (mem_texts_number_iff.mp (hgrammar.1 h)).2
    · intro hplus
      exact ⟨fun h => mem_texts_number_iff.mpr ⟨hread h, hplus h⟩,
        fun hmem => hlegible (mem_texts_number_iff.mp hmem).1⟩

/-- A second component may have a plus, which no text of an interval has there. -/
theorem reads_plus_inside :
    read "1h+5m" = .ok ⟨3900000000000, by decide⟩ ∧
      Text.trim "1h+5m".toList ∉ texts number ∧ ¬ReadsGrammar "1h+5m" := by
  have hread : read "1h+5m" = .ok ⟨3900000000000, by decide⟩ := by decide
  have hplus : '+' ∈ (Text.trim "1h+5m".toList).tail := by decide
  have habsent : Text.trim "1h+5m".toList ∉ texts number := fun hmem =>
    (mem_texts_number_iff.mp hmem).2 hplus
  exact ⟨hread, habsent, fun h => habsent (h.1 ⟨_, hread⟩)⟩

end WorkloadScan.Interval
