import Mathlib.Data.List.Induction
import WorkloadScan.Table

/-! Tables against the list of what was put into them, and membership of their entries. -/
namespace WorkloadScan.Table
variable {κ α : Type} [DecidableEq κ]

def ofList (entries : List (κ × α)) : Table κ α :=
  entries.foldl (fun t e => t.insert e.1 e.2) empty

theorem get?_insert_of_ne {j k : κ} (h : k ≠ j) (t : Table κ α) (v : α) :
    (t.insert k v).get? j = t.get? j := by
  rw [get?_insert, if_neg h]

def latest (k : κ) (entries : List (κ × α)) : Option α := find k entries.reverse

@[simp] theorem ofList_nil : ofList ([] : List (κ × α)) = empty := rfl

@[simp] theorem ofList_concat (entries : List (κ × α)) (k : κ) (v : α) :
    ofList (entries ++ [(k,v)]) = (ofList entries).insert k v := by
  simp [ofList]

theorem latest_concat (j k : κ) (v : α) (entries : List (κ × α)) :
    latest j (entries ++ [(k,v)]) = if k = j then some v else latest j entries := by
  simp [latest, find]

theorem get?_ofList (j : κ) (entries : List (κ × α)) :
    (ofList entries).get? j = latest j entries := by
  induction entries using List.reverseRecOn with
  | nil => rfl
  | append_singleton entries e ih =>
    obtain ⟨k, v⟩ := e
    rw [ofList_concat, get?_insert, latest_concat, ih]

theorem mem_of_find {k : κ} {v : α} {entries : List (κ × α)} (h : find k entries = some v) :
    (k,v) ∈ entries := by
  induction entries with
  | nil => cases h
  | cons e rest ih =>
    by_cases he : e.1 = k
    · rw [find, if_pos he, Option.some.injEq] at h
      exact List.mem_cons.mpr (.inl (Prod.ext he.symm h.symm))
    · rw [find, if_neg he] at h
      exact List.mem_cons_of_mem _ (ih h)

theorem mem_values_of_get? {t : Table κ α} {k : κ} {v : α} (h : t.get? k = some v) :
    v ∈ t.values := List.mem_map.mpr ⟨(k,v), mem_of_find h, rfl⟩

theorem find_of_mem {k : κ} {v : α} {entries : List (κ × α)}
    (hnodup : (entries.map Prod.fst).Nodup) (h : (k,v) ∈ entries) : find k entries = some v := by
  induction entries with
  | nil => cases h
  | cons e rest ih =>
    obtain ⟨hnew, hrest⟩ := List.nodup_cons.mp hnodup
    rcases List.mem_cons.mp h with rfl | hmem
    · rw [find, if_pos rfl]
    · have hne : e.1 ≠ k := fun heq => hnew (heq ▸ List.mem_map.mpr ⟨(k,v), hmem, rfl⟩)
      rw [find, if_neg hne]
      exact ih hrest hmem

theorem get?_of_mem {t : Table κ α} {k : κ} {v : α} (h : (k,v) ∈ t.entries) :
    t.get? k = some v := find_of_mem t.nodup h

theorem isSome_find {k : κ} {entries : List (κ × α)} :
    (find k entries).isSome = true ↔ k ∈ entries.map Prod.fst := by
  induction entries with
  | nil => simp [find]
  | cons e rest ih =>
    by_cases he : e.1 = k
    · simp [find, he]
    · simp [find, he, ih, Ne.symm he]

theorem contains_ofList {k : κ} {entries : List (κ × α)} :
    (ofList entries).contains k = true ↔ k ∈ entries.map Prod.fst := by
  rw [contains, get?_ofList, latest, isSome_find, List.map_reverse, List.mem_reverse]

theorem isEmpty_iff {t : Table κ α} : t.isEmpty = true ↔ ∀ k, t.get? k = none := by
  obtain ⟨entries, h⟩ := t
  cases entries with
  | nil => simp [isEmpty, get?, find]
  | cons e rest =>
    simp only [isEmpty, List.isEmpty_cons, Bool.false_eq_true, false_iff, not_forall]
    exact ⟨e.1, by simp [get?, find]⟩

theorem isEmpty_of_contains {t : Table κ α} {k : κ} (h : t.contains k = true) :
    t.isEmpty = false := by
  rw [Bool.eq_false_iff, ne_eq, isEmpty_iff]
  intro hnone
  simp [contains, hnone k] at h

theorem isEmpty_insert (t : Table κ α) (k : κ) (v : α) : (t.insert k v).isEmpty = false := by
  obtain ⟨entries, h⟩ := t
  cases entries with
  | nil => rfl
  | cons e rest => by_cases he : e.1 = k <;> simp [isEmpty, insert, put, he]

theorem isEmpty_ofList (entries : List (κ × α)) : (ofList entries).isEmpty = entries.isEmpty := by
  induction entries using List.reverseRecOn with
  | nil => rfl
  | append_singleton entries e _ =>
    obtain ⟨k, v⟩ := e
    rw [ofList_concat, isEmpty_insert]
    simp

theorem size_erase_of_not_contains {t : Table κ α} {k : κ} (h : t.contains k = false) :
    (t.erase k).size = t.size := by
  have hkeys : k ∉ t.entries.map Prod.fst := fun hmem => by
    rw [contains, get?, isSome_find.mpr hmem] at h
    cases h
  have hall : ∀ entry ∈ t.entries, entry.1 ≠ k := fun entry hentry heq =>
    hkeys (heq ▸ List.mem_map_of_mem hentry)
  have hdrop : drop k t.entries = t.entries := List.filter_eq_self.mpr (by simpa using hall)
  exact congrArg List.length hdrop

end WorkloadScan.Table
