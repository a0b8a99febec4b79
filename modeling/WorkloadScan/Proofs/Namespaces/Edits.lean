import Mathlib.Data.List.InsertIdx
import WorkloadScan.Namespaces.Filter

/-! Edits of a filter. What it decides depends on which patterns its lists hold and on whether there
are any to include at all, so an invalid pattern counts there although it accepts nothing. -/
namespace WorkloadScan.Namespaces
variable {included included' excluded excluded' : List String} {p ns : String}

/-! ### Invalid patterns -/

/-- A text that is empty or has a character that is neither for names nor a wildcard. -/
def IsInvalid (p : String) : Prop :=
  p = "" ∨ ∃ c ∈ p.toList, ¬(c.isLower = true ∨ c.isDigit = true ∨ c = '-' ∨ c = '*' ∨ c = '?')

namespace Pattern

theorem isPatternChar_iff {c : Char} :
    isPatternChar c = true ↔
      c.isLower = true ∨ c.isDigit = true ∨ c = '-' ∨ c = '*' ∨ c = '?' := by
  simp [isPatternChar, Text.isLowerOrDigit, or_assoc]

theorem read_eq_invalid_iff : (∃ error, read p = .invalid error) ↔ IsInvalid p := by
  simp only [IsInvalid, ← isPatternChar_iff]
  rw [read]
  split
  case isTrue hempty =>
    have heq : p = "" := by simpa using hempty
    simp [heq]
  case isFalse hempty =>
    have hne : p ≠ "" := by simpa using hempty
    split
    case isTrue hall => simpa [hne] using hall
    case isFalse hbad => simpa [hne] using hbad

theorem accepts_of_isInvalid (h : IsInvalid p) (ns : String) : (read p).accepts ns = false := by
  obtain ⟨error, hread⟩ := read_eq_invalid_iff.mpr h
  rw [hread, accepts]

end Pattern

/-! ### Decisions -/

namespace Filter

/-- Every resource that the one filter lets in is let in by the other. -/
def IsWithin (f g : Filter) : Prop := ∀ ns, f.admits ns = true → g.admits ns = true

theorem admits_iff :
    (ofTexts included excluded).admits (some ns) = true ↔
      included ≠ [] ∧ (∃ p ∈ included, (Pattern.read p).accepts ns = true) ∨
        included = [] ∧ ∀ p ∈ excluded, (Pattern.read p).accepts ns = false := by
  cases included <;> simp [ofTexts, admits]

theorem isWithin_of_forall
    (h : ∀ ns, (ofTexts included excluded).admits (some ns) = true →
      (ofTexts included' excluded').admits (some ns) = true) :
    (ofTexts included excluded).IsWithin (ofTexts included' excluded') := by
  intro ns hns
  cases ns with
  | none => rfl
  | some ns => exact h ns hns

theorem isWithin_insert_invalid (h : IsInvalid p) (place : Nat) :
    (ofTexts (included.insertIdx place p) excluded).IsWithin (ofTexts included excluded) := by
  refine isWithin_of_forall fun ns hns => ?_
  rcases admits_iff.mp hns with ⟨-, q, hq, haccepts⟩ | ⟨hnone, hrefuse⟩
  · rcases List.eq_or_mem_of_mem_insertIdx hq with rfl | hmem
    · rw [Pattern.accepts_of_isInvalid h] at haccepts
      cases haccepts
    · exact admits_iff.mpr (.inl ⟨List.ne_nil_of_mem hmem, q, hmem, haccepts⟩)
  · have hbefore : included = [] :=
      List.eq_nil_of_subset_nil (hnone ▸ List.subset_insertIdx included place p)
    exact admits_iff.mpr (.inr ⟨hbefore, hrefuse⟩)

theorem isWithin_of_excluded_subset (h : excluded' ⊆ excluded) :
    (ofTexts included excluded).IsWithin (ofTexts included excluded') := by
  refine isWithin_of_forall fun ns hns => admits_iff.mpr ?_
  exact (admits_iff.mp hns).imp_right fun ⟨hnone, hrefuse⟩ =>
    ⟨hnone, fun q hq => hrefuse q (h hq)⟩

theorem isWithin_of_included_subset (hne : included ≠ []) (h : included ⊆ included') :
    (ofTexts included excluded).IsWithin (ofTexts included' excluded') := by
  refine isWithin_of_forall fun ns hns => admits_iff.mpr ?_
  rcases admits_iff.mp hns with ⟨-, q, hq, haccepts⟩ | ⟨hnone, -⟩
  · exact .inl ⟨List.ne_nil_of_mem (h hq), q, h hq, haccepts⟩
  · exact absurd hnone hne

theorem admits_congr (hincluded : ∀ p, p ∈ included' ↔ p ∈ included)
    (hexcluded : included = [] → ∀ p, p ∈ excluded' ↔ p ∈ excluded) :
    (ofTexts included' excluded').admits = (ofTexts included excluded).admits := by
  have hnone : included' = [] ↔ included = [] := by
    simp only [List.eq_nil_iff_forall_not_mem, hincluded]
  funext ns
  cases ns with
  | none => rfl
  | some ns =>
    rw [Bool.eq_iff_iff, admits_iff, admits_iff]
    simp only [ne_eq, hnone, hincluded]
    refine or_congr_right (and_congr_right fun hempty => ?_)
    simp only [hexcluded hempty]

/-- Edits fail closed. An invalid pattern to include, or any to exclude, lets nothing more in
wherever it is inserted; any pattern to include, where there are some, keeps nothing more out; the
order and the number of equal patterns make no difference, nor do those to exclude where there are
some to include; and what is outside every namespace is let in by every filter. -/
theorem edits_fail_closed (included excluded : List String) :
    (∀ place p, IsInvalid p →
      (ofTexts (included.insertIdx place p) excluded).IsWithin (ofTexts included excluded)) ∧
    (∀ place p,
      (ofTexts included (excluded.insertIdx place p)).IsWithin (ofTexts included excluded)) ∧
    (included ≠ [] → ∀ place p,
      (ofTexts included excluded).IsWithin (ofTexts (included.insertIdx place p) excluded)) ∧
    (∀ included' excluded', (∀ p, p ∈ included' ↔ p ∈ included) →
      (∀ p, p ∈ excluded' ↔ p ∈ excluded) →
      (ofTexts included' excluded').admits = (ofTexts included excluded).admits) ∧
    (included ≠ [] → ∀ excluded',
      (ofTexts included excluded').admits = (ofTexts included excluded).admits) ∧
    (ofTexts included excluded).admits none = true := by
  refine ⟨fun place p hinvalid => isWithin_insert_invalid hinvalid place, fun place p => ?_,
    fun hne place p => ?_, fun included' excluded' hincluded hexcluded => ?_,
    fun hne excluded' => ?_, admits_none _⟩
  · exact isWithin_of_excluded_subset (List.subset_insertIdx excluded place p)
  · exact isWithin_of_included_subset hne (List.subset_insertIdx included place p)
  · exact admits_congr hincluded fun _ => hexcluded
  · exact admits_congr (fun _ => Iff.rfl) fun hnone => absurd hnone hne

/-- An invalid pattern in an empty list to include keeps every namespace out. Next to others it
makes no difference, and so do a second one of them and the patterns to exclude. -/
theorem edits_fail_closed_with_invalid :
    IsInvalid "Prod_[1]" ∧ ["team-*", "ops"] ≠ [] ∧
    (∀ p, p ∈ ["ops", "team-*", "ops"] ↔ p ∈ ["team-*", "ops"]) ∧
    (ofTexts [] ["kube-*"]).admits (some "team-a") = true ∧
    (ofTexts ([].insertIdx 0 "Prod_[1]") ["kube-*"]).admits (some "team-a") = false ∧
    (ofTexts ([].insertIdx 0 "Prod_[1]") ["kube-*"]).IsWithin (ofTexts [] ["kube-*"]) ∧
    (ofTexts ["team-*", "ops"] []).IsWithin
      (ofTexts (["team-*", "ops"].insertIdx 1 "Prod_[1]") []) ∧
    (ofTexts ["ops", "team-*", "ops"] []).admits = (ofTexts ["team-*", "ops"] []).admits ∧
    (ofTexts ["team-*", "ops"] ["*"]).admits = (ofTexts ["team-*", "ops"] []).admits := by
  have hinvalid : IsInvalid "Prod_[1]" := .inr ⟨'P', by decide, by decide⟩
  have hne : ["team-*", "ops"] ≠ [] := by decide
  have hsame (p : String) : p ∈ ["ops", "team-*", "ops"] ↔ p ∈ ["team-*", "ops"] := by
    simp only [List.mem_cons, List.not_mem_nil, or_false]
    tauto
  have hnone := edits_fail_closed [] ["kube-*"]
  have hsome := edits_fail_closed ["team-*", "ops"] []
  exact ⟨hinvalid, hne, hsame, by decide, by decide, hnone.1 0 _ hinvalid,
    hsome.2.2.1 hne 1 _, hsome.2.2.2.1 _ [] hsame fun _ => Iff.rfl, hsome.2.2.2.2.1 hne _⟩

end Filter
end WorkloadScan.Namespaces
