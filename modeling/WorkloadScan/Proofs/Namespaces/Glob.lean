import Mathlib.Computability.Language
import WorkloadScan.Namespaces.Glob

/-! The language of a glob, read off its characters, and the matcher that decides it. -/
namespace WorkloadScan.Namespaces.Glob
variable {p s : List Char} {c q : Char}

/-! ### The language of a pattern -/

def anyOne : Language Char := {s | s.length = 1}

/-- The texts that one character of a pattern stands for. -/
def denoted (q : Char) : Language Char :=
  if q = '*' then ⊤ else if q = '?' then anyOne else {[q]}

def language (p : List Char) : Language Char := (p.map denoted).prod

theorem language_cons (q : Char) (p : List Char) : language (q :: p) = denoted q * language p := by
  simp [language]

theorem mem_language_nil : s ∈ language [] ↔ s = [] := Language.mem_one s

theorem mem_language_star : s ∈ language ('*' :: p) ↔ ∃ t, t <:+ s ∧ t ∈ language p := by
  rw [language_cons, Language.mem_mul]
  constructor
  · rintro ⟨skipped, -, t, ht, rfl⟩
    exact ⟨t, List.suffix_append skipped t, ht⟩
  · rintro ⟨t, ⟨skipped, rfl⟩, ht⟩
    exact ⟨skipped, Set.mem_univ skipped, t, ht, rfl⟩

theorem mem_anyOne : s ∈ anyOne ↔ ∃ c, s = [c] := List.length_eq_one_iff

theorem mem_denoted (hq : q ≠ '*') : s ∈ denoted q ↔ ∃ c, s = [c] ∧ (q = '?' ∨ q = c) := by
  by_cases hany : q = '?'
  · simp [denoted, hany, mem_anyOne]
  · have hself : s ∈ ({[q]} : Language Char) ↔ s = [q] := Iff.rfl
    simp [denoted, hq, hany, hself]

theorem mem_language_char (hq : q ≠ '*') :
    s ∈ language (q :: p) ↔ ∃ c t, s = c :: t ∧ (q = '?' ∨ q = c) ∧ t ∈ language p := by
  rw [language_cons, Language.mem_mul]
  constructor
  · rintro ⟨one, hone, t, ht, rfl⟩
    obtain ⟨c, rfl, hc⟩ := (mem_denoted hq).mp hone
    exact ⟨c, t, rfl, hc, ht⟩
  · rintro ⟨c, t, rfl, hc, ht⟩
    exact ⟨[c], (mem_denoted hq).mpr ⟨c, rfl, hc⟩, t, ht, rfl⟩

theorem mem_of_mem_language (h : s ∈ language p) (hc : c ∈ p) (hstar : c ≠ '*') (hany : c ≠ '?') :
    c ∈ s := by
  induction p generalizing s with
  | nil => cases hc
  | cons q p ih =>
    by_cases hq : q = '*'
    · subst hq
      obtain ⟨t, hsuffix, ht⟩ := mem_language_star.mp h
      have hrest : c ∈ p := (List.mem_cons.mp hc).resolve_left hstar
      exact hsuffix.subset (ih ht hrest)
    · obtain ⟨d, t, rfl, hd, ht⟩ := (mem_language_char hq).mp h
      rcases List.mem_cons.mp hc with rfl | hrest
      · rw [hd.resolve_left hany]
        exact List.mem_cons_self
      · exact List.mem_cons_of_mem d (ih ht hrest)

/-! ### The matcher -/

theorem row_char (hq : q ≠ '*') (s p : List Char) : row s (q :: p) = charRow q s (row s p) := by
  rw [row]
  exact hq

theorem row_cons (c : Char) (s p : List Char) :
    row (c :: s) p = accepts p (c :: s) :: row s p := by
  rw [accepts]
  induction p with
  | nil => rfl
  | cons q p ih =>
    by_cases hq : q = '*'
    · subst hq
      simp only [row]
      rw [ih]
      rfl
    · rw [row_char hq, row_char hq, ih]
      rfl

theorem row_nil (p : List Char) : row [] p = [accepts p []] := by
  rw [accepts]
  induction p with
  | nil => rfl
  | cons q p ih =>
    by_cases hq : q = '*'
    · subst hq
      simp only [row]
      rw [ih]
      rfl
    · rw [row_char hq]
      rfl

theorem accepts_star_nil (p : List Char) : accepts ('*' :: p) [] = accepts p [] := by
  rw [accepts, row, row_nil]
  simp [starRow]

theorem accepts_star_cons (c : Char) (s p : List Char) :
    accepts ('*' :: p) (c :: s) = (accepts p (c :: s) || accepts ('*' :: p) s) := by
  rw [accepts, row, row_cons]
  rfl

theorem accepts_char_nil (hq : q ≠ '*') (p : List Char) : accepts (q :: p) [] = false := by
  rw [accepts, row_char hq]
  rfl

theorem accepts_char_cons (hq : q ≠ '*') (c : Char) (s p : List Char) :
    accepts (q :: p) (c :: s) = ((q == '?' || q == c) && accepts p s) := by
  rw [accepts, row_char hq, row_cons]
  rfl

theorem accepts_star_iff : accepts ('*' :: p) s = true ↔ ∃ t, t <:+ s ∧ accepts p t = true := by
  induction s with
  | nil => simp [accepts_star_nil]
  | cons c s ih =>
    rw [accepts_star_cons, Bool.or_eq_true, ih]
    constructor
    · rintro (hnow | ⟨t, hsuffix, ht⟩)
      · exact ⟨c :: s, List.suffix_rfl, hnow⟩
      · exact ⟨t, hsuffix.trans (List.suffix_cons c s), ht⟩
    · rintro ⟨t, hsuffix, ht⟩
      rcases List.suffix_cons_iff.mp hsuffix with rfl | hlater
      · exact .inl ht
      · exact .inr ⟨t, hlater, ht⟩

/-- The matcher decides the language. -/
theorem accepts_iff_mem_language : accepts p s = true ↔ s ∈ language p := by
  induction p generalizing s with
  | nil =>
    rw [mem_language_nil]
    cases s <;> simp [accepts, row, emptyRow]
  | cons q p ih =>
    by_cases hq : q = '*'
    · subst hq
      simp only [accepts_star_iff, mem_language_star, ih]
    · rw [mem_language_char hq]
      cases s with
      | nil => simp [accepts_char_nil hq]
      | cons c s => simp [accepts_char_cons hq, ih]

end WorkloadScan.Namespaces.Glob
