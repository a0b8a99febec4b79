import Mathlib.Data.List.Nodup
import Mathlib.Data.List.Perm.Basic
import Mathlib.Data.List.ProdSigma
import WorkloadScan.Proofs.Registry

/-! The scans of a batch for the targets of a registry: one for each target and each resource whose
namespace it takes. -/
namespace WorkloadScan.Scan
variable {reg : Registry} {batch : Batch} {scan : Scan}

theorem mem_pairs {targets : List Target} :
    scan ∈ pairs targets batch ↔
      scan.target ∈ targets ∧ batch.get? scan.key = some scan.revision := by
  simp only [pairs, List.mem_flatMap, List.mem_map, Prod.exists]
  constructor
  · rintro ⟨target, htarget, key, revision, hentry, rfl⟩
    exact ⟨htarget, Table.get?_of_mem hentry⟩
  · rintro ⟨htarget, hget⟩
    exact ⟨scan.target, htarget, scan.key, scan.revision, Table.mem_of_find hget, rfl⟩

def pair (s : Scan) : String × Resource.Key := (s.target.key,s.key)

theorem map_pair_pairs (targets : List Target) (batch : Batch) :
    (pairs targets batch).map pair = targets.map Target.key ×ˢ batch.keys := by
  induction targets with
  | nil => rfl
  | cons target rest ih =>
    rw [List.map_cons, List.product_cons, ← ih]
    simp [pairs, pair, Table.keys, Function.comp_def]

theorem length_pairs (targets : List Target) (batch : Batch) :
    (pairs targets batch).length = targets.length * batch.size := by
  simp [pairs, Table.size]

theorem count_resources (target : Target) (batch : Batch) (scan : Scan) :
    (batch.entries.map fun (key,revision) => Scan.mk target key revision).count scan =
      if target = scan.target ∧ batch.get? scan.key = some scan.revision then 1 else 0 := by
  have hmem : scan ∈ (batch.entries.map fun (key,revision) => Scan.mk target key revision) ↔
      target = scan.target ∧ batch.get? scan.key = some scan.revision := by
    simp only [List.mem_map, Prod.exists]
    constructor
    · rintro ⟨key, revision, hentry, rfl⟩
      exact ⟨rfl, Table.get?_of_mem hentry⟩
    · rintro ⟨rfl, hget⟩
      exact ⟨scan.key, scan.revision, Table.mem_of_find hget, rfl⟩
  have hnodup : (batch.entries.map fun (key,revision) => Scan.mk target key revision).Nodup := by
    refine (List.Nodup.of_map Prod.fst batch.nodup).map ?_
    rintro ⟨key, revision⟩ ⟨key', revision'⟩ heq
    cases heq
    rfl
  split
  case isTrue h => exact List.count_eq_one_of_mem hnodup (hmem.mpr h)
  case isFalse h => exact List.count_eq_zero.mpr (mt hmem.mp h)

theorem count_pairs (targets : List Target) (batch : Batch) (scan : Scan) :
    (pairs targets batch).count scan =
      if batch.get? scan.key = some scan.revision then targets.count scan.target else 0 := by
  induction targets with
  | nil => simp [pairs]
  | cons target rest ih =>
    rw [pairs, List.flatMap_cons, List.count_append, count_resources, List.count_cons]
    rw [pairs] at ih
    rw [ih]
    by_cases htarget : target = scan.target <;>
      by_cases hget : batch.get? scan.key = some scan.revision <;>
      simp [htarget, hget, Nat.add_comm]

theorem count_admitted (targets : List Target) (batch : Batch) (scan : Scan) :
    (admitted targets batch).count scan =
      if scan.isAdmitted = true ∧ batch.get? scan.key = some scan.revision then
        targets.count scan.target
      else 0 := by
  cases hadmitted : scan.isAdmitted with
  | true =>
    rw [admitted, List.count_filter hadmitted, count_pairs]
    simp
  | false =>
    have habsent : scan ∉ admitted targets batch := fun hmem => by
      rw [(List.mem_filter.mp hmem).2] at hadmitted
      cases hadmitted
    simpa using List.count_eq_zero.mpr habsent

theorem pairs_perm {targets order : List Target} {batch listing : Batch}
    (htargets : order.Perm targets) (hbatch : listing.entries.Perm batch.entries) :
    (pairs order listing).Perm (pairs targets batch) :=
  htargets.flatMap fun _ _ => hbatch.map _

theorem admitted_of_isEmpty {targets : List Target} (h : batch.isEmpty = true) :
    admitted targets batch = [] := by
  simp [admitted, pairs, List.isEmpty_iff.mp h]

@[simp] theorem admitted_empty (targets : List Target) : admitted targets .empty = [] :=
  admitted_of_isEmpty rfl

theorem length_admitted_add_refused (targets : List Target) (batch : Batch) :
    (admitted targets batch).length + (refused targets batch).length =
      targets.length * batch.size := by
  rw [← length_pairs, admitted, refused]
  exact (List.length_eq_length_filter_add isAdmitted).symm

theorem mem_admitted (h : Registry.IsKeyed reg) :
    scan ∈ admitted reg.values batch ↔
      reg.get? scan.target.key = some scan.target ∧ scan.isAdmitted = true ∧
        batch.get? scan.key = some scan.revision := by
  have hanswer := (Registry.isAnswer_reply h .snapshot).2 scan.target.key scan.target
  rw [admitted, List.mem_filter, mem_pairs, hanswer]
  constructor
  · rintro ⟨⟨htarget, hget⟩, hadmitted⟩
    exact ⟨⟨htarget, rfl⟩, hadmitted, hget⟩
  · rintro ⟨⟨htarget, -⟩, hadmitted, hget⟩
    exact ⟨⟨htarget, hget⟩, hadmitted⟩

theorem nodup_map_pair_admitted (h : Registry.IsKeyed reg) (batch : Batch) :
    ((admitted reg.values batch).map pair).Nodup := by
  have hpairs : ((pairs reg.values batch).map pair).Nodup := by
    rw [map_pair_pairs, Registry.map_key_values h]
    exact reg.nodup.product batch.nodup
  exact hpairs.sublist (List.filter_sublist.map pair)

end WorkloadScan.Scan
