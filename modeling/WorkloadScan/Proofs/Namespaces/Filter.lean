import WorkloadScan.Namespaces.Filter
import WorkloadScan.Proofs.Namespaces.Glob

/-! Filters against the languages of their patterns as they are written. A pattern that is no glob
has no namespace name in its language either, so nothing is lost by matching nothing with it. -/
namespace WorkloadScan.Namespaces
variable {ns : String}

/-- The names that namespaces can have. -/
structure IsName (ns : String) : Prop where
  nonempty : ns.toList ≠ []
  chars : ∀ c ∈ ns.toList, c.isLower = true ∨ c.isDigit = true ∨ c = '-'

instance : DecidablePred IsName := fun ns =>
  decidable_of_iff
    (ns.toList ≠ [] ∧ ns.toList.all (fun c => c.isLower || c.isDigit || c == '-') = true)
    ⟨fun ⟨hnonempty, hchars⟩ => ⟨hnonempty, by simpa [or_assoc] using hchars⟩,
      fun h => ⟨h.nonempty, by simpa [or_assoc] using h.chars⟩⟩

theorem IsName.isPatternChar (h : IsName ns) {c : Char} (hc : c ∈ ns.toList) :
    Pattern.isPatternChar c = true := by
  rcases h.chars c hc with hlower | hdigit | rfl
  · simp [Pattern.isPatternChar, Text.isLowerOrDigit, hlower]
  · simp [Pattern.isPatternChar, Text.isLowerOrDigit, hdigit]
  · rfl

namespace Pattern

theorem eq_of_read_eq_glob {p text : String} (h : read p = .glob text) : text = p := by
  rw [read] at h
  split at h
  case isTrue => cases h
  case isFalse =>
    split at h
    case isTrue => exact (Pattern.glob.inj h).symm
    case isFalse => cases h

theorem read_of_mem_language (h : IsName ns) {p : String}
    (hmem : ns.toList ∈ Glob.language p.toList) : read p = .glob p := by
  have hnonempty : p.isEmpty = false := by
    rw [Bool.eq_false_iff]
    intro hempty
    rw [show p.toList = [] by simpa using hempty, Glob.mem_language_nil] at hmem
    exact h.nonempty hmem
  have hall : p.toList.all isPatternChar = true := by
    rw [List.all_eq_true]
    intro c hc
    by_contra hbad
    -- Wildcards are allowed in patterns, so this character stands for itself in the name.
    have hstar : c ≠ '*' := by
      rintro rfl
      exact hbad rfl
    have hany : c ≠ '?' := by
      rintro rfl
      exact hbad rfl
    exact hbad (h.isPatternChar (Glob.mem_of_mem_language hmem hc hstar hany))
  rw [read, hnonempty, if_neg Bool.false_ne_true, if_pos hall]

theorem accepts_read_iff (h : IsName ns) (p : String) :
    (read p).accepts ns = true ↔ ns.toList ∈ Glob.language p.toList := by
  constructor
  · intro haccepts
    cases hread : read p with
    | glob text =>
      rw [hread, accepts, eq_of_read_eq_glob hread] at haccepts
      exact Glob.accepts_iff_mem_language.mp haccepts
    | invalid error => simp [hread, accepts] at haccepts
  · intro hmem
    rw [read_of_mem_language h hmem, accepts]
    exact Glob.accepts_iff_mem_language.mpr hmem

end Pattern

theorem any_accepts_iff (h : IsName ns) (texts : List String) :
    (texts.map Pattern.read).any (·.accepts ns) = true ↔
      ∃ p ∈ texts, ns.toList ∈ Glob.language p.toList := by
  simp [Pattern.accepts_read_iff h]

/-- A filter decides the names of namespaces by the languages of its patterns as they are written:
if there are any to include, one of them has the name, and otherwise none of those to exclude. -/
theorem admits_iff_mem_language (h : IsName ns) (included excluded : List String) :
    (Filter.ofTexts included excluded).admits (some ns) = true ↔
      included ≠ [] ∧ (∃ p ∈ included, ns.toList ∈ Glob.language p.toList) ∨
        included = [] ∧ ∀ p ∈ excluded, ns.toList ∉ Glob.language p.toList := by
  cases included with
  | nil =>
    have hadmits : (Filter.ofTexts [] excluded).admits (some ns) =
        !(excluded.map Pattern.read).any (·.accepts ns) := rfl
    rw [hadmits, Bool.not_eq_true', Bool.eq_false_iff, ne_eq, any_accepts_iff h]
    simp
  | cons p rest =>
    have hadmits : (Filter.ofTexts (p :: rest) excluded).admits (some ns) =
        ((p :: rest).map Pattern.read).any (·.accepts ns) := rfl
    rw [hadmits, any_accepts_iff h]
    simp

/-- An invalid pattern to include lets no namespace in, and the one beside it decides. -/
theorem admits_iff_mem_language_with_invalid :
    IsName "team-a" ∧
    ((Filter.ofTexts ["Prod_[1]", "team-?*"] ["team-*"]).admits (some "team-a") = true ↔
      ["Prod_[1]", "team-?*"] ≠ [] ∧
          (∃ p ∈ ["Prod_[1]", "team-?*"], "team-a".toList ∈ Glob.language p.toList) ∨
        ["Prod_[1]", "team-?*"] = [] ∧
          ∀ p ∈ ["team-*"], "team-a".toList ∉ Glob.language p.toList) ∧
    (Filter.ofTexts ["Prod_[1]", "team-?*"] ["team-*"]).admits (some "team-a") = true := by
  have hname : IsName "team-a" := by decide
  exact ⟨hname, admits_iff_mem_language hname _ _, by decide⟩

end WorkloadScan.Namespaces
