import WorkloadScan.Json.Basic

/-! Looking up the fields of objects. -/
namespace WorkloadScan.Json
variable {fields : List (String × Json)} {name : String} {v : Json}

theorem foldl_field (fields : List (String × Json)) (name : String) (found : Option Json) :
    fields.foldl (fun found (n, v) => if n = name then some v else found) found =
      (field? fields name).or found := by
  induction fields generalizing found with
  | nil => rfl
  | cons f fields ih =>
    rw [field?, List.foldl_cons, List.foldl_cons, ih, ih]
    by_cases h : f.1 = name <;> simp [h]

@[simp] theorem field?_nil (name : String) : field? [] name = none := rfl

@[simp] theorem field?_cons (f : String × Json) (fields : List (String × Json)) (name : String) :
    field? (f :: fields) name = (field? fields name).or (if f.1 = name then some f.2 else none) :=
  foldl_field fields name _

@[simp] theorem field?_append (fields others : List (String × Json)) (name : String) :
    field? (fields ++ others) name = (field? others name).or (field? fields name) := by
  rw [field?, List.foldl_append]
  exact foldl_field others name _

theorem mem_of_field? (h : field? fields name = some v) : (name,v) ∈ fields := by
  induction fields with
  | nil => cases h
  | cons f fields ih =>
    rw [field?_cons, Option.or_eq_some_iff] at h
    rcases h with h | ⟨-, h⟩
    · exact List.mem_cons_of_mem f (ih h)
    · obtain ⟨rfl, rfl⟩ : f.1 = name ∧ f.2 = v := by simpa using h
      exact List.mem_cons_self

theorem exists_field? (h : (name,v) ∈ fields) : ∃ v', field? fields name = some v' := by
  induction fields with
  | nil => cases h
  | cons f fields ih =>
    rw [field?_cons]
    cases hlater : field? fields name with
    | some v' => exact ⟨v', rfl⟩
    | none =>
      rcases List.mem_cons.mp h with rfl | hmem
      · exact ⟨v, by simp⟩
      · obtain ⟨v', hv'⟩ := ih hmem
        rw [hlater] at hv'
        cases hv'

end WorkloadScan.Json
