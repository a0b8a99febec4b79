import Mathlib.Logic.Function.Basic
import WorkloadScan.Proofs.Table
import WorkloadScan.Registry

/-! The registry against a reference semantics, in which the targets are a map from keys and a
request changes it at its own key. -/
namespace WorkloadScan.Registry

/-- A target is there exactly if the last request for its key was to add it and its client could be
made. -/
def referenceStep (transport : Transport) (m : String → Option Target) :
    Request → String → Option Target
  | .add key spec =>
    Function.update m key
      (if transport.fault ⟨spec.endpoint,spec.token⟩ = none then
        some {
          key
          endpoint := spec.endpoint
          integrationId := spec.integrationId
          filter := .ofTexts spec.included spec.excluded
          client := ⟨spec.endpoint,spec.token⟩ }
      else none)
  | .delete key => Function.update m key none
  | .snapshot => m

def reference (transport : Transport) (qs : List Request) : String → Option Target :=
  qs.foldl (referenceStep transport) fun _ => none

/-- The reply that a request is to have: a snapshot lists the targets, one for each key. -/
def IsAnswer (m : String → Option Target) : Request → Reply → Prop
  | .snapshot, .targets ts =>
    (ts.map Target.key).Nodup ∧ ∀ key t, m key = some t ↔ t ∈ ts ∧ t.key = key
  | .add .., .done | .delete _, .done => True
  | _, _ => False

def carryOut (transport : Transport) (qs : List Request) (reg : Registry) : Registry :=
  qs.foldl (apply transport) reg

variable {transport : Transport} {reg : Registry} {q : Request} {m m' : String → Option Target}
  {k : String}

@[simp] theorem carryOut_cons (q : Request) (qs : List Request) (reg : Registry) :
    carryOut transport (q :: qs) reg = carryOut transport qs (reg.apply transport q) := rfl

theorem get?_apply (q : Request) (reg : Registry) :
    (reg.apply transport q).get? = referenceStep transport reg.get? q := by
  funext k
  cases q with
  | add key spec =>
    by_cases hk : k = key
    · subst hk
      cases hfault : transport.fault spec.client with
      | none =>
        have hclient : transport.fault ⟨spec.endpoint,spec.token⟩ = none := hfault
        rw [apply, hfault]
        simp [referenceStep, hclient, Target.ofSpec, Target.Spec.filter, Target.Spec.client]
      | some error =>
        have hclient : transport.fault ⟨spec.endpoint,spec.token⟩ = some error := hfault
        simp [apply, referenceStep, hfault, hclient]
    · cases hfault : transport.fault spec.client <;>
        simp [apply, referenceStep, hfault, hk, Ne.symm hk]
  | delete key =>
    by_cases hk : k = key
    · simp [apply, referenceStep, hk]
    · simp [apply, referenceStep, hk, Ne.symm hk]
  | snapshot => rfl

theorem get?_carryOut (qs : List Request) (reg : Registry) :
    (carryOut transport qs reg).get? = qs.foldl (referenceStep transport) reg.get? := by
  induction qs generalizing reg with
  | nil => rfl
  | cons q rest ih => rw [carryOut_cons, ih, get?_apply, List.foldl_cons]

theorem referenceStep_congr (q : Request) (h : m k = m' k) :
    referenceStep transport m q k = referenceStep transport m' q k := by
  cases q with
  | add key spec => by_cases hk : k = key <;> simp [referenceStep, hk, h]
  | delete key => by_cases hk : k = key <;> simp [referenceStep, hk, h]
  | snapshot => exact h

theorem get?_carryOut_congr {reg' : Registry} (qs : List Request) (h : reg.get? k = reg'.get? k) :
    (carryOut transport qs reg).get? k = (carryOut transport qs reg').get? k := by
  induction qs generalizing reg reg' with
  | nil => exact h
  | cons q rest ih =>
    rw [carryOut_cons, carryOut_cons]
    refine ih ?_
    rw [get?_apply, get?_apply]
    exact referenceStep_congr q h

/-! ### The key of a request -/

/-- The key whose registration a request removes or replaces. -/
def Request.key? : Request → Option String
  | .add key _ | .delete key => some key
  | .snapshot => none

theorem get?_apply_of_ne (h : q.key? ≠ some k) :
    (reg.apply transport q).get? k = reg.get? k := by
  cases q with
  | add key spec =>
    have hne : key ≠ k := fun heq => h (congrArg some heq)
    simp only [apply]
    split <;> simp [hne]
  | delete key =>
    have hne : key ≠ k := fun heq => h (congrArg some heq)
    simp [apply, hne]
  | snapshot => rfl

theorem get?_carryOut_of_ne {qs : List Request} (h : ∀ q ∈ qs, q.key? ≠ some k) :
    (carryOut transport qs reg).get? k = reg.get? k := by
  induction qs generalizing reg with
  | nil => rfl
  | cons q rest ih =>
    rw [carryOut_cons, ih fun q hq => h q (List.mem_cons_of_mem _ hq)]
    exact get?_apply_of_ne (h q List.mem_cons_self)

/-! ### Replies -/

/-- Every target is registered under its own key. -/
def IsKeyed (reg : Registry) : Prop := ∀ key t, reg.get? key = some t → t.key = key

theorem isKeyed_empty : IsKeyed .empty := by
  intro key t h
  cases h

theorem isKeyed_apply (h : IsKeyed reg) (q : Request) : IsKeyed (reg.apply transport q) := by
  intro k t ht
  rw [get?_apply] at ht
  cases q with
  | add key spec =>
    by_cases hk : k = key
    · subst hk
      simp only [referenceStep, Function.update_self, Option.ite_none_right_eq_some,
        Option.some.injEq] at ht
      rw [← ht.2]
    · rw [referenceStep, Function.update_of_ne hk] at ht
      exact h k t ht
  | delete key =>
    by_cases hk : k = key
    · simp [referenceStep, hk] at ht
    · rw [referenceStep, Function.update_of_ne hk] at ht
      exact h k t ht
  | snapshot => exact h k t ht

theorem isKeyed_carryOut (h : IsKeyed reg) (qs : List Request) :
    IsKeyed (carryOut transport qs reg) := by
  induction qs generalizing reg with
  | nil => exact h
  | cons q rest ih => exact ih (isKeyed_apply h q)

theorem map_key_values (h : IsKeyed reg) : reg.values.map Target.key = reg.keys := by
  rw [Table.values, Table.keys, List.map_map]
  refine List.map_congr_left ?_
  rintro ⟨key, t⟩ hmem
  exact h key t (Table.get?_of_mem hmem)

theorem isAnswer_reply (h : IsKeyed reg) (q : Request) : IsAnswer reg.get? q (reg.reply q) := by
  cases q with
  | add | delete => trivial
  | snapshot =>
    refine ⟨?_, ?_⟩
    · rw [map_key_values h]
      exact reg.nodup
    · intro key t
      constructor
      · intro ht
        exact ⟨Table.mem_values_of_get? ht, h key t ht⟩
      · rintro ⟨ht, rfl⟩
        obtain ⟨⟨key, t'⟩, hmem, rfl⟩ := List.mem_map.mp ht
        have hget := Table.get?_of_mem hmem
        rwa [h key t' hget]

end WorkloadScan.Registry
