import Mathlib.Computability.Language
import Mathlib.Order.CompletePartialOrder
import WorkloadScan.Proofs.Interval.Component

/-! The language of intervals: a sign, and a bare zero or numbers with units. -/
namespace WorkloadScan.Interval
open Computability
variable {k : Component} {ks : List Component} {cs rest : List Char} {c : Char} {d : Interval}

/-! ### The language -/

/-- Digits, with a point before, among or after them. -/
def number : Language Char :=
  {cs | ∃ whole fraction : List Char, whole ++ fraction ≠ [] ∧
    (∀ c ∈ whole ++ fraction, c.isDigit = true) ∧
    (cs = whole ++ fraction ∨ cs = whole ++ '.' :: fraction)}

inductive TimeUnit where
  | nanosecond
  | microsecond
  | millisecond
  | second
  | minute
  | hour
  deriving DecidableEq, Repr

namespace TimeUnit

def nanos : TimeUnit → Nat
  | nanosecond => 1
  | microsecond => 1000
  | millisecond => 1000000
  | second => 1000000000
  | minute => 60 * 1000000000
  | hour => 3600 * 1000000000

theorem nanos_pos (u : TimeUnit) : 0 < u.nanos := by
  cases u <;> decide

def spellings : TimeUnit → List (List Char)
  | nanosecond => [['n', 's']]
  | microsecond => [['u', 's'], ['\u00b5', 's'], ['\u03bc', 's']]
  | millisecond => [['m', 's']]
  | second => [['s']]
  | minute => [['m']]
  | hour => [['h']]

end TimeUnit

def unitName : Language Char := {cs | ∃ u : TimeUnit, cs ∈ u.spellings}

def optionalPlus : Language Char := 1 + {['+']}

/-- The texts of intervals, with components whose numbers are from a given language. -/
def texts (numbers : Language Char) : Language Char :=
  {['-', '0']} + optionalPlus * ({['0']} + numbers * unitName * (numbers * unitName)∗)

/-! ### Texts and their components -/

variable {numbers : Language Char}

def Component.IsSpelled (numbers : Language Char) (k : Component) : Prop :=
  k.value ∈ numbers ∧ k.unit ∈ unitName

theorem mem_numbers_mul_unitName :
    cs ∈ numbers * unitName ↔ ∃ k : Component, k.IsSpelled numbers ∧ cs = k.text := by
  rw [Language.mem_mul]
  constructor
  · rintro ⟨value, hvalue, unit, hunit, rfl⟩
    exact ⟨⟨value, unit⟩, ⟨hvalue, hunit⟩, rfl⟩
  · rintro ⟨k, hk, rfl⟩
    exact ⟨k.value, hk.1, k.unit, hk.2, rfl⟩

theorem mem_kstar_numbers_mul_unitName :
    cs ∈ (numbers * unitName)∗ ↔
      ∃ ks : List Component, (∀ k ∈ ks, k.IsSpelled numbers) ∧ cs = ks.flatMap Component.text := by
  rw [Language.mem_kstar]
  constructor
  · rintro ⟨parts, rfl, hparts⟩
    induction parts with
    | nil => exact ⟨[], by simp, rfl⟩
    | cons part parts ih =>
      obtain ⟨hpart, hrest⟩ := List.forall_mem_cons.mp hparts
      obtain ⟨k, hk, rfl⟩ := mem_numbers_mul_unitName.mp hpart
      obtain ⟨ks, hks, heq⟩ := ih hrest
      exact ⟨k :: ks, List.forall_mem_cons.mpr ⟨hk, hks⟩, by simp [heq]⟩
  · rintro ⟨ks, hks, rfl⟩
    refine ⟨ks.map Component.text, List.flatMap_def, ?_⟩
    intro part hpart
    obtain ⟨k, hk, rfl⟩ := List.mem_map.mp hpart
    exact mem_numbers_mul_unitName.mpr ⟨k, hks k hk, rfl⟩

/-- A bare zero, or components. -/
def IsUnsigned (numbers : Language Char) (cs : List Char) : Prop :=
  cs = ['0'] ∨ ∃ ks : List Component, ks ≠ [] ∧ (∀ k ∈ ks, k.IsSpelled numbers) ∧
    cs = ks.flatMap Component.text

theorem isUnsigned_iff :
    cs ∈ ({['0']} + numbers * unitName * (numbers * unitName)∗ : Language Char) ↔
      IsUnsigned numbers cs := by
  rw [Language.mem_add, Language.mem_mul]
  refine or_congr Iff.rfl ?_
  constructor
  · rintro ⟨first, hfirst, rest, hrest, rfl⟩
    obtain ⟨k, hk, rfl⟩ := mem_numbers_mul_unitName.mp hfirst
    obtain ⟨ks, hks, rfl⟩ := mem_kstar_numbers_mul_unitName.mp hrest
    exact ⟨k :: ks, by simp, List.forall_mem_cons.mpr ⟨hk, hks⟩, rfl⟩
  · rintro ⟨ks, hne, hks, rfl⟩
    obtain ⟨k, ks, rfl⟩ := List.exists_cons_of_ne_nil hne
    obtain ⟨hk, hks⟩ := List.forall_mem_cons.mp hks
    exact ⟨k.text, mem_numbers_mul_unitName.mpr ⟨k, hk, rfl⟩, ks.flatMap Component.text,
      mem_kstar_numbers_mul_unitName.mpr ⟨ks, hks, rfl⟩, rfl⟩

theorem mem_optionalPlus_mul {language : Language Char} :
    cs ∈ optionalPlus * language ↔ cs ∈ language ∨ ∃ rest ∈ language, cs = '+' :: rest := by
  rw [optionalPlus, add_mul, one_mul, Language.mem_add, Language.mem_mul]
  refine or_congr Iff.rfl ?_
  constructor
  · rintro ⟨sign, rfl, rest, hrest, rfl⟩
    exact ⟨rest, hrest, rfl⟩
  · rintro ⟨rest, hrest, rfl⟩
    exact ⟨['+'], rfl, rest, hrest, rfl⟩

theorem mem_texts :
    cs ∈ texts numbers ↔ cs = ['-', '0'] ∨ IsUnsigned numbers cs ∨
      ∃ rest, IsUnsigned numbers rest ∧ cs = '+' :: rest := by
  rw [texts, Language.mem_add, mem_optionalPlus_mul]
  simp only [isUnsigned_iff]
  exact Iff.rfl

theorem IsUnsigned.mono {wider : Language Char} (hle : numbers ≤ wider)
    (h : IsUnsigned numbers cs) : IsUnsigned wider cs := by
  refine h.imp_right ?_
  rintro ⟨ks, hne, hks, rfl⟩
  exact ⟨ks, hne, fun k hk => ⟨hle (hks k hk).1, (hks k hk).2⟩, rfl⟩

/-! ### The characters of texts -/

theorem isLetter_of_isDigit (h : c.isDigit = true) : Text.isLetter c = false := by
  have hbounds : 48 ≤ c.toNat ∧ c.toNat ≤ 57 := Char.isDigit_iff_toNat.mp h
  have hascii : c.toNat < 0x80 := Nat.lt_of_le_of_lt hbounds.2 (by decide)
  have hbelow {bound : Char} (hbound : 57 < bound.toNat) : ¬bound.val ≤ c.val := fun hle =>
    absurd (UInt32.le_iff_toNat_le.mp hle) (Nat.not_le_of_lt (Nat.lt_of_le_of_lt hbounds.2 hbound))
  have hA : ¬('A').val ≤ c.val := hbelow (by decide)
  have ha : ¬('a').val ≤ c.val := hbelow (by decide)
  have hupper : c.isUpper = false := decide_eq_false fun hletter => hA hletter.1
  have hlower : c.isLower = false := Bool.and_eq_false_iff.mpr (.inl (decide_eq_false ha))
  have halpha : c.isAlpha = (c.isUpper || c.isLower) := rfl
  rw [Text.isLetter_of_ascii hascii, halpha, hupper, hlower, Bool.or_false]

theorem forall_mem_of_mem_number {P : Char → Prop} (h : cs ∈ number)
    (hdigit : ∀ c : Char, c.isDigit = true → P c) (hpoint : P '.') : ∀ c ∈ cs, P c := by
  obtain ⟨whole, fraction, -, hdigits, rfl | rfl⟩ := h
  · exact fun c hc => hdigit c (hdigits c hc)
  · intro c hc
    rcases List.mem_append.mp hc with hwhole | hpointed
    · exact hdigit c (hdigits c (List.mem_append_left fraction hwhole))
    · rcases List.mem_cons.mp hpointed with rfl | hfraction
      · exact hpoint
      · exact hdigit c (hdigits c (List.mem_append_right whole hfraction))

theorem not_mem_of_mem_number (hdigit : c.isDigit = false) (hpoint : '.' ≠ c) (h : cs ∈ number) :
    c ∉ cs := by
  have hne : ∀ d : Char, d.isDigit = true → d ≠ c := by
    rintro d hd rfl
    rw [hdigit] at hd
    cases hd
  exact fun hmem => forall_mem_of_mem_number h hne hpoint c hmem rfl

theorem ne_nil_of_mem_number (h : cs ∈ number) : cs ≠ [] := by
  obtain ⟨whole, fraction, hne, -, rfl | rfl⟩ := h
  · exact hne
  · simp

theorem forall_mem_of_mem_unitName {P : Char → Prop} [DecidablePred P]
    (h : ∀ u : TimeUnit, ∀ name ∈ u.spellings, name.all (fun c => decide (P c)) = true) :
    ∀ name ∈ unitName, ∀ c ∈ name, P c := by
  rintro name ⟨u, hu⟩ c hc
  exact of_decide_eq_true (List.all_eq_true.mp (h u name hu) c hc)

theorem ne_nil_of_mem_unitName (h : cs ∈ unitName) : cs ≠ [] := by
  obtain ⟨u, hu⟩ := h
  have hall : ∀ name ∈ u.spellings, name ≠ [] := by
    cases u <;> decide
  exact hall cs hu

theorem IsUnsigned.forall_mem {P : Char → Prop} (h : IsUnsigned numbers cs)
    (hnumbers : ∀ value ∈ numbers, ∀ c ∈ value, P c) (hunits : ∀ name ∈ unitName, ∀ c ∈ name, P c)
    (hzero : P '0') : ∀ c ∈ cs, P c := by
  rcases h with rfl | ⟨ks, -, hks, rfl⟩
  · exact List.forall_mem_singleton.mpr hzero
  · intro c hc
    obtain ⟨k, hk, hin⟩ := List.mem_flatMap.mp hc
    rcases List.mem_append.mp hin with hvalue | hunit
    · exact hnumbers k.value (hks k hk).1 c hvalue
    · exact hunits k.unit (hks k hk).2 c hunit

theorem isWhole_of_isSpelled (h : k.IsSpelled (optionalPlus * number)) : k.IsWhole := by
  obtain ⟨hvalue, hunit⟩ := h
  have hnumber : ∀ cs ∈ number, ∀ c ∈ cs, Text.isLetter c = false := fun _ hcs =>
    forall_mem_of_mem_number hcs (fun _ => isLetter_of_isDigit) (by decide)
  have hletters : ∀ name ∈ unitName, ∀ c ∈ name, Text.isLetter c = true :=
    forall_mem_of_mem_unitName fun u => by cases u <;> decide
  refine ⟨?_, ne_nil_of_mem_unitName hunit, ?_, hletters k.unit hunit⟩
  · rcases mem_optionalPlus_mul.mp hvalue with hplain | ⟨rest, -, heq⟩
    · exact ne_nil_of_mem_number hplain
    · simp [heq]
  · rcases mem_optionalPlus_mul.mp hvalue with hplain | ⟨rest, hrest, heq⟩
    · exact hnumber k.value hplain
    · rw [heq, List.forall_mem_cons]
      exact ⟨by decide, hnumber rest hrest⟩

/-! ### The first sign of a text and the other ones -/

theorem IsUnsigned.not_mem (h : IsUnsigned numbers cs) (hnumbers : ∀ value ∈ numbers, c ∉ value)
    (hunits : ∀ u : TimeUnit, ∀ name ∈ u.spellings, c ∉ name) (hzero : '0' ≠ c) : c ∉ cs := by
  have hvalues : ∀ value ∈ numbers, ∀ d ∈ value, d ≠ c := by
    rintro value hvalue d hd rfl
    exact hnumbers value hvalue hd
  have hnames : ∀ name ∈ unitName, ∀ d ∈ name, d ≠ c := by
    rintro name ⟨u, hu⟩ d hd rfl
    exact hunits u name hu hd
  exact fun hmem => h.forall_mem hvalues hnames hzero c hmem rfl

theorem IsUnsigned.plus_not_mem (h : IsUnsigned number cs) : '+' ∉ cs :=
  h.not_mem (fun _ => not_mem_of_mem_number (by decide) (by decide))
    (fun u => by cases u <;> decide) (by decide)

theorem IsUnsigned.minus_not_mem (h : IsUnsigned (optionalPlus * number) cs) : '-' ∉ cs := by
  refine h.not_mem ?_ (fun u => by cases u <;> decide) (by decide)
  intro value hvalue
  rcases mem_optionalPlus_mul.mp hvalue with hplain | ⟨rest, hrest, rfl⟩
  · exact not_mem_of_mem_number (by decide) (by decide) hplain
  · exact List.not_mem_cons_of_ne_of_not_mem (by decide)
      (not_mem_of_mem_number (by decide) (by decide) hrest)

theorem IsUnsigned.of_not_mem (h : IsUnsigned (optionalPlus * number) cs) (hplus : '+' ∉ cs) :
    IsUnsigned number cs := by
  refine h.imp_right ?_
  rintro ⟨ks, hne, hks, rfl⟩
  refine ⟨ks, hne, fun k hk => ⟨?_, (hks k hk).2⟩, rfl⟩
  rcases mem_optionalPlus_mul.mp (hks k hk).1 with hplain | ⟨rest, -, heq⟩
  · exact hplain
  · have hmem : '+' ∈ k.text := by simp [Component.text, heq]
    exact absurd (List.mem_flatMap.mpr ⟨k, hk, hmem⟩) hplus

theorem isUnsigned_tail (h : IsUnsigned (optionalPlus * number) ('+' :: rest)) :
    IsUnsigned (optionalPlus * number) rest := by
  rcases h with hzero | ⟨ks, hne, hks, heq⟩
  · cases hzero
  · obtain ⟨k, ks, rfl⟩ := List.exists_cons_of_ne_nil hne
    obtain ⟨⟨hvalue, hunit⟩, hrest⟩ := List.forall_mem_cons.mp hks
    rw [List.flatMap_cons, Component.text, List.append_assoc] at heq
    rcases mem_optionalPlus_mul.mp hvalue with hplain | ⟨value, hnumber, hplus⟩
    · obtain ⟨c, value, hcons⟩ := List.exists_cons_of_ne_nil (ne_nil_of_mem_number hplain)
      rw [hcons, List.cons_append, List.cons.injEq] at heq
      have hmem : '+' ∈ k.value := by
        rw [hcons, ← heq.1]
        exact List.mem_cons_self
      exact absurd hmem (not_mem_of_mem_number (by decide) (by decide) hplain)
    · rw [hplus, List.cons_append, List.cons.injEq] at heq
      refine .inr ⟨⟨value, k.unit⟩ :: ks, by simp, ?_, ?_⟩
      · exact List.forall_mem_cons.mpr
          ⟨⟨mem_optionalPlus_mul.mpr (.inl hnumber), hunit⟩, hrest⟩
      · rw [heq.2, List.flatMap_cons, Component.text, List.append_assoc]

theorem number_le : number ≤ optionalPlus * number := fun _ h => mem_optionalPlus_mul.mpr (.inl h)

theorem mem_texts_number_iff :
    cs ∈ texts number ↔ cs ∈ texts (optionalPlus * number) ∧ '+' ∉ cs.tail := by
  rw [mem_texts, mem_texts]
  constructor
  · rintro (rfl | hbare | ⟨rest, hrest, rfl⟩)
    · exact ⟨.inl rfl, by decide⟩
    · exact ⟨.inr (.inl (hbare.mono number_le)), mt List.mem_of_mem_tail hbare.plus_not_mem⟩
    · exact ⟨.inr (.inr ⟨rest, hrest.mono number_le, rfl⟩), hrest.plus_not_mem⟩
  · rintro ⟨rfl | hbare | ⟨rest, hrest, rfl⟩, htail⟩
    · exact .inl rfl
    · -- The first component's own plus can only be the first character, and so may be the sign.
      cases cs with
      | nil => exact .inr (.inl (hbare.of_not_mem (by simp)))
      | cons c rest =>
        by_cases hc : c = '+'
        · subst hc
          exact .inr (.inr ⟨rest, (isUnsigned_tail hbare).of_not_mem htail, rfl⟩)
        · exact .inr (.inl (hbare.of_not_mem
            (List.not_mem_cons_of_ne_of_not_mem (Ne.symm hc) htail)))
    · exact .inr (.inr ⟨rest, hrest.of_not_mem htail, rfl⟩)

end WorkloadScan.Interval
