import Mathlib.Algebra.Ring.Nat
import Mathlib.Data.List.Basic
import WorkloadScan.Interval.Reader

/-! The components of a text: no character is lost where the text is cut, and a text that is put
together from numbers and units is cut just there. -/
namespace WorkloadScan.Interval
variable {k : Component} {ks : List Component} {cs : List Char}

def Component.text (k : Component) : List Char := k.value ++ k.unit

structure Component.IsWhole (k : Component) : Prop where
  value_ne_nil : k.value ≠ []
  unit_ne_nil : k.unit ≠ []
  value : ∀ c ∈ k.value, Text.isLetter c = false
  unit : ∀ c ∈ k.unit, Text.isLetter c = true

theorem flatMap_text_components (cs : List Char) : (components cs).flatMap Component.text = cs := by
  induction cs with
  | nil => rfl
  | cons c cs ih =>
    rw [components]
    cases hrest : components cs with
    | nil =>
      rw [hrest] at ih
      by_cases hc : Text.isLetter c = true <;> simp [hc, Component.text, ← ih]
    | cons k ks =>
      rw [hrest, List.flatMap_cons] at ih
      by_cases hc : Text.isLetter c = true
      · by_cases hvalue : k.value = []
        · simp [hc, hvalue, Component.text, ← ih]
        · simp [hc, hvalue, Component.text, ← ih]
      · simp [hc, Component.text, ← ih]

theorem components_unit {unit : List Char} (hne : unit ≠ [])
    (hunit : ∀ c ∈ unit, Text.isLetter c = true)
    (hrest : ∀ k ∈ (components cs).head?, k.value ≠ []) :
    components (unit ++ cs) = ⟨[], unit⟩ :: components cs := by
  induction unit with
  | nil => exact absurd rfl hne
  | cons c unit ih =>
    obtain ⟨hc, hunit⟩ := List.forall_mem_cons.mp hunit
    rw [List.cons_append, components]
    -- Only the last letter meets the component that follows.
    by_cases hlast : unit = []
    · subst hlast
      cases hcs : components cs with
      | nil => simp [hcs, hc]
      | cons k ks =>
        have hvalue : k.value ≠ [] := hrest k (by simp [hcs])
        simp [hcs, hc, hvalue]
    · rw [ih hlast hunit]
      simp [hc]

theorem components_value {value : List Char} (hvalue : ∀ c ∈ value, Text.isLetter c = false)
    (hcs : components cs = k :: ks) :
    components (value ++ cs) = ⟨value ++ k.value, k.unit⟩ :: ks := by
  induction value with
  | nil => exact hcs
  | cons c value ih =>
    obtain ⟨hc, hvalue⟩ := List.forall_mem_cons.mp hvalue
    rw [List.cons_append, components, ih hvalue]
    simp [hc]

theorem components_flatMap_text (h : ∀ k ∈ ks, k.IsWhole) :
    components (ks.flatMap Component.text) = ks := by
  induction ks with
  | nil => rfl
  | cons k ks ih =>
    obtain ⟨hk, hks⟩ := List.forall_mem_cons.mp h
    have hrest : ∀ next ∈ (components (ks.flatMap Component.text)).head?, next.value ≠ [] := by
      rw [ih hks]
      intro next hnext
      exact (hks next (List.mem_of_mem_head? hnext)).value_ne_nil
    have hunit := components_unit hk.unit_ne_nil hk.unit hrest
    rw [List.flatMap_cons, Component.text, List.append_assoc, components_value hk.value hunit,
      ih hks]
    simp

theorem readUnsigned_flatMap_text (hne : ks ≠ []) (h : ∀ k ∈ ks, k.IsWhole) :
    readUnsigned (ks.flatMap Component.text) = ks.foldlM addComponent zero := by
  have hcomponents := components_flatMap_text h
  have hzero : ks.flatMap Component.text ≠ ['0'] := by
    intro heq
    rw [heq, show components ['0'] = [⟨['0'], []⟩] by decide] at hcomponents
    exact (h ⟨['0'], []⟩ (by simp [← hcomponents])).unit_ne_nil rfl
  have hempty : ks.flatMap Component.text ≠ [] := by
    intro heq
    rw [heq] at hcomponents
    exact hne hcomponents.symm
  rw [readUnsigned, if_neg hzero, if_neg (by simpa using hempty), hcomponents]

/-! ### Sums of components -/

variable {d total sum : Interval} {fault : Fault}

theorem ofNanos?_eq_some {n : Nat} (h : n < 18446744073709551616 * 1000000000) :
    ofNanos? n = some ⟨n, h⟩ := dif_pos h

theorem addComponent_of_ok (h : readComponent k = .ok d) (total : Interval) :
    addComponent total k = match total.add? d with
      | none => .error .overflow
      | some sum => .ok sum := by
  rw [addComponent, h]
  rfl

theorem addComponent_of_error (h : readComponent k = .error fault) (total : Interval) :
    addComponent total k = .error fault := by
  rw [addComponent, h]
  rfl

theorem exists_readComponent_of_ok (h : ks.foldlM addComponent total = .ok sum) :
    ∀ k ∈ ks, ∃ d, readComponent k = .ok d := by
  induction ks generalizing total with
  | nil => simp
  | cons k ks ih =>
    rw [List.foldlM_cons] at h
    cases hk : readComponent k with
    | error fault =>
      rw [addComponent_of_error hk] at h
      cases h
    | ok d =>
      rw [addComponent_of_ok hk] at h
      cases hadd : total.add? d with
      | none =>
        rw [hadd] at h
        cases h
      | some next =>
        rw [hadd] at h
        exact List.forall_mem_cons.mpr ⟨⟨d, hk⟩, ih h⟩

/-- A text is read, or it is only too long. -/
def IsLegible (r : Except Fault Interval) : Prop := (∃ d, r = .ok d) ∨ r = .error .overflow

theorem isLegible_foldlM (h : ∀ k ∈ ks, IsLegible (readComponent k)) (total : Interval) :
    IsLegible (ks.foldlM addComponent total) := by
  induction ks generalizing total with
  | nil => exact .inl ⟨total, rfl⟩
  | cons k ks ih =>
    obtain ⟨hk, hks⟩ := List.forall_mem_cons.mp h
    rw [List.foldlM_cons]
    rcases hk with ⟨d, hd⟩ | hover
    · rw [addComponent_of_ok hd]
      cases hadd : total.add? d with
      | none => exact .inr rfl
      | some next => exact ih hks next
    · rw [addComponent_of_error hover]
      exact .inr rfl

theorem foldlM_addComponent {ds : List Interval}
    (h : List.Forall₂ (fun k d => readComponent k = .ok d) ks ds)
    (hsum : total.nanos + (ds.map Interval.nanos).sum < 18446744073709551616 * 1000000000) :
    ks.foldlM addComponent total = .ok ⟨total.nanos + (ds.map Interval.nanos).sum, hsum⟩ := by
  induction h generalizing total with
  | nil => rfl
  | @cons k d ks ds hk _ ih =>
    rw [List.map_cons, List.sum_cons, ← Nat.add_assoc] at hsum
    have hnext : total.nanos + d.nanos < 18446744073709551616 * 1000000000 := by omega
    rw [List.foldlM_cons, addComponent_of_ok hk, add?, ofNanos?_eq_some hnext]
    simp only [List.map_cons, List.sum_cons, ← Nat.add_assoc]
    exact @ih ⟨total.nanos + d.nanos, hnext⟩ hsum

end WorkloadScan.Interval
