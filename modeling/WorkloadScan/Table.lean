/-! Finite tables: a value for each of finitely many keys, in the order in which the keys came. -/
namespace WorkloadScan

structure Table (κ α : Type) where
  entries : List (κ × α)
  nodup : (entries.map Prod.fst).Nodup

namespace Table

variable {κ α : Type}

def empty : Table κ α := ⟨[], List.nodup_nil⟩

instance : Inhabited (Table κ α) := ⟨empty⟩

def keys (t : Table κ α) : List κ := t.entries.map Prod.fst

def values (t : Table κ α) : List α := t.entries.map Prod.snd

def size (t : Table κ α) : Nat := t.entries.length

def isEmpty (t : Table κ α) : Bool := t.entries.isEmpty

variable [DecidableEq κ]

def find (k : κ) : List (κ × α) → Option α
  | [] => none
  | e :: rest => if e.1 = k then some e.2 else find k rest

/-- Gives a key a value. The key keeps its place; a new key comes last. -/
def put (k : κ) (v : α) : List (κ × α) → List (κ × α)
  | [] => [(k, v)]
  | e :: rest => if e.1 = k then (k, v) :: rest else e :: put k v rest

def drop (k : κ) (entries : List (κ × α)) : List (κ × α) := entries.filter fun e => e.1 ≠ k

theorem mem_keys_put {j k : κ} {v : α} {entries : List (κ × α)} :
    j ∈ (put k v entries).map Prod.fst ↔ j = k ∨ j ∈ entries.map Prod.fst := by
  induction entries with
  | nil => simp [put]
  | cons e rest ih =>
    by_cases h : e.1 = k
    · simp [put, h]
    · simp only [put, h, if_false, List.map_cons, List.mem_cons, ih]
      grind

theorem nodup_put (k : κ) (v : α) {entries : List (κ × α)}
    (h : (entries.map Prod.fst).Nodup) : ((put k v entries).map Prod.fst).Nodup := by
  induction entries with
  | nil => simp [put]
  | cons e rest ih =>
    obtain ⟨hnew, hrest⟩ := List.nodup_cons.mp h
    by_cases he : e.1 = k
    · rw [put, if_pos he, List.map_cons]
      exact List.nodup_cons.mpr ⟨he ▸ hnew, hrest⟩
    · simp only [put, he, if_false, List.map_cons, List.nodup_cons]
      refine ⟨fun hm => ?_, ih hrest⟩
      rcases mem_keys_put.mp hm with hk | hk
      · exact he hk
      · exact hnew hk

theorem nodup_drop (k : κ) {entries : List (κ × α)} (h : (entries.map Prod.fst).Nodup) :
    ((drop k entries).map Prod.fst).Nodup :=
  h.sublist (List.filter_sublist.map Prod.fst)

def get? (t : Table κ α) (k : κ) : Option α := find k t.entries

def contains (t : Table κ α) (k : κ) : Bool := (t.get? k).isSome

def insert (t : Table κ α) (k : κ) (v : α) : Table κ α := ⟨put k v t.entries, nodup_put k v t.nodup⟩

def erase (t : Table κ α) (k : κ) : Table κ α := ⟨drop k t.entries, nodup_drop k t.nodup⟩

@[simp] theorem get?_empty (k : κ) : (empty : Table κ α).get? k = none := rfl

theorem find_put (j k : κ) (v : α) (entries : List (κ × α)) :
    find j (put k v entries) = if k = j then some v else find j entries := by
  induction entries with
  | nil => simp [put, find]
  | cons e rest ih =>
    by_cases he : e.1 = k
    · by_cases hj : k = j <;> simp [put, find, he, hj]
    · by_cases hj : e.1 = j
      · have hk : k ≠ j := fun h => he (hj.trans h.symm)
        rw [put, if_neg he, find, find, if_pos hj, if_pos hj, if_neg hk]
      · simp [put, find, he, hj, ih]

theorem find_drop (j k : κ) (entries : List (κ × α)) :
    find j (drop k entries) = if k = j then none else find j entries := by
  induction entries with
  | nil => simp [drop, find]
  | cons e rest ih =>
    by_cases he : e.1 = k
    · have hd : drop k (e :: rest) = drop k rest := by simp [drop, he]
      rw [hd, ih]
      by_cases hj : k = j <;> simp [find, he, hj]
    · have hd : drop k (e :: rest) = e :: drop k rest := by simp [drop, he]
      rw [hd]
      by_cases hj : e.1 = j
      · have hk : k ≠ j := fun h => he (hj.trans h.symm)
        simp [find, hj, hk]
      · simp [find, hj, ih]

@[simp] theorem get?_insert (t : Table κ α) (j k : κ) (v : α) :
    (t.insert k v).get? j = if k = j then some v else t.get? j := find_put j k v t.entries

@[simp] theorem get?_erase (t : Table κ α) (j k : κ) :
    (t.erase k).get? j = if k = j then none else t.get? j := find_drop j k t.entries

end Table
end WorkloadScan
