import Mathlib.Data.Finset.Card
import WorkloadScan.Cluster.Object

/-! The texts of keys identify them. A slash ends the kind, which has none itself, and the next one
ends the namespace if there is one, as long as neither namespace nor name has a slash. -/
namespace WorkloadScan

theorem Kind.slash_not_mem_name (k : Kind) : '/' ∉ k.name.toList := by
  cases k <;> decide

namespace Resource.Key
variable {j k : Key}

theorem takeWhile_slash {x : List Char} (hx : '/' ∉ x) (s : List Char) :
    (x ++ '/' :: s).takeWhile (· ≠ '/') = x := by
  have hall : ∀ c ∈ x, decide (c ≠ '/') = true := fun c hc =>
    decide_eq_true fun heq => hx (heq ▸ hc)
  rw [List.takeWhile_append_of_pos hall]
  simp

theorem parts_eq_of_slash {x y s t : List Char} (hx : '/' ∉ x) (hy : '/' ∉ y)
    (h : x ++ '/' :: s = y ++ '/' :: t) : x = y ∧ s = t := by
  obtain rfl : x = y := by rw [← takeWhile_slash hx s, h, takeWhile_slash hy t]
  exact ⟨rfl, (List.cons.inj (List.append_cancel_left h)).2⟩

/-- Neither the namespace nor the name has a slash. -/
structure IsPlain (k : Key) : Prop where
  ns : ∀ ns ∈ k.ns, '/' ∉ ns.toList
  name : '/' ∉ k.name.toList

instance : DecidablePred IsPlain := fun k =>
  decidable_of_iff ((∀ ns ∈ k.ns, '/' ∉ ns.toList) ∧ '/' ∉ k.name.toList)
    ⟨fun ⟨hns, hname⟩ => ⟨hns, hname⟩, fun h => ⟨h.ns, h.name⟩⟩

def path (k : Key) : List Char :=
  match k.ns with
  | some ns => ns.toList ++ '/' :: k.name.toList
  | none => k.name.toList

theorem toList_text (k : Key) : k.text.toList = k.kind.name.toList ++ '/' :: k.path := by
  obtain ⟨kind, ns, name⟩ := k
  cases ns <;> simp [text, path]

theorem slash_mem_path (h : k.IsPlain) : '/' ∈ k.path ↔ k.ns.isSome = true := by
  unfold path
  cases k.ns with
  | none => simpa using h.name
  | some ns => simp

theorem eq_of_path (hj : j.IsPlain) (hk : k.IsPlain) (h : j.path = k.path) :
    j.ns = k.ns ∧ j.name = k.name := by
  have hsome : j.ns.isSome = true ↔ k.ns.isSome = true := by
    rw [← slash_mem_path hj, ← slash_mem_path hk, h]
  obtain ⟨kind, ns, name⟩ := j
  obtain ⟨kind', ns', name'⟩ := k
  cases ns with
  | none =>
    cases ns' with
    | none => exact ⟨rfl, String.toList_inj.mp h⟩
    | some ns' => simp at hsome
  | some ns =>
    cases ns' with
    | none => simp at hsome
    | some ns' =>
      obtain ⟨hns, hname⟩ := parts_eq_of_slash (hj.ns ns rfl) (hk.ns ns' rfl) h
      exact ⟨congrArg some (String.toList_inj.mp hns), String.toList_inj.mp hname⟩

theorem text_injOn : Set.InjOn text {k | k.IsPlain} := by
  intro j hj k hk h
  have hlist : j.kind.name.toList ++ '/' :: j.path = k.kind.name.toList ++ '/' :: k.path := by
    rw [← toList_text, ← toList_text, h]
  obtain ⟨hkind, hpath⟩ :=
    parts_eq_of_slash j.kind.slash_not_mem_name k.kind.slash_not_mem_name hlist
  obtain ⟨hns, hname⟩ := eq_of_path hj hk hpath
  have hkinds : j.kind = k.kind := Kind.name_injective (String.toList_inj.mp hkind)
  cases j
  cases k
  subst hkinds hns hname
  rfl

theorem card_map_text {keys : List Key} (h : ∀ k ∈ keys, k.IsPlain) :
    (keys.map text).toFinset.card = keys.toFinset.card := by
  have himage : (keys.map text).toFinset = keys.toFinset.image text := by
    ext t
    simp
  rw [himage]
  refine Finset.card_image_of_injOn (text_injOn.mono fun k hk => ?_)
  exact h k (by simpa using hk)

end Resource.Key

namespace Cluster.Object
open Resource (Key)
variable {kind kind' : Kind} {o o' : Object}

/-- An object with a name and, if its kind has namespaces, with a namespace of its own, both without
a slash. -/
structure IsLocated (kind : Kind) (o : Object) : Prop where
  name : ∃ name, o.name = some name ∧ '/' ∉ name.toList
  ns : kind.isClusterScoped = false → ∃ ns, o.ns = some ns ∧ '/' ∉ ns.toList

def scope (kind : Kind) (o : Object) : Option String :=
  if kind.isClusterScoped then none else o.ns

theorem key?_of_isLocated (h : IsLocated kind o) :
    ∃ k : Key, o.key? kind = some k ∧ k.IsPlain ∧ k.kind = kind ∧ k.ns = o.scope kind ∧
      some k.name = o.name := by
  obtain ⟨name, hname, hslash⟩ := h.name
  by_cases hcluster : kind.isClusterScoped = true
  · refine ⟨⟨kind,none,name⟩, ?_, ⟨by simp, hslash⟩, rfl, ?_, hname.symm⟩
    · simp [key?, hname, hcluster]
    · simp [scope, hcluster]
  · obtain ⟨ns, hns, hnsslash⟩ := h.ns (Bool.eq_false_iff.mpr hcluster)
    refine ⟨⟨kind,some ns,name⟩, ?_, ⟨?_, hslash⟩, rfl, ?_, hname.symm⟩
    · simp [key?, hname, hcluster, hns]
    · simpa using hnsslash
    · simp [scope, hcluster, hns]

end Cluster.Object

namespace Resource.Key
open Cluster (Object)

/-- Texts identify keys without stray slashes: equal texts have equal keys, so a list of keys has as
many texts as keys, and objects whose keys have one text are of one kind, with one name and, unless
the kind has none, in one namespace. -/
theorem text_identifies :
    (∀ j k : Key, j.IsPlain → k.IsPlain → j.text = k.text → j = k) ∧
    (∀ keys : List Key, (∀ k ∈ keys, k.IsPlain) →
      (keys.map text).toFinset.card = keys.toFinset.card) ∧
    ∀ (kind kind' : Kind) (o o' : Object), o.IsLocated kind → o'.IsLocated kind' →
      (o.key? kind).map text = (o'.key? kind').map text →
      kind = kind' ∧ o.name = o'.name ∧ (kind.isClusterScoped = false → o.ns = o'.ns) := by
  refine ⟨fun j k hj hk h => text_injOn hj hk h, fun keys h => card_map_text h, ?_⟩
  intro kind kind' o o' ho ho' h
  obtain ⟨j, hj, hjplain, hjkind, hjns, hjname⟩ := Object.key?_of_isLocated ho
  obtain ⟨k, hk, hkplain, hkkind, hkns, hkname⟩ := Object.key?_of_isLocated ho'
  rw [hj, hk, Option.map_some, Option.map_some, Option.some.injEq] at h
  obtain rfl : j = k := text_injOn hjplain hkplain h
  obtain rfl : kind = kind' := hjkind.symm.trans hkkind
  refine ⟨rfl, hjname.symm.trans hkname, fun hscoped => ?_⟩
  have hscope : o.scope kind = o'.scope kind := hjns.symm.trans hkns
  simpa [Object.scope, hscoped] using hscope

/-- An empty namespace is told from none, and the namespace that an object of a cluster-scoped kind
claims to be in does not matter, whatever is in it. -/
theorem text_identifies_with_empty_namespace :
    let keys : List Key := [⟨.pod,some "","a"⟩, ⟨.pod,none,"a"⟩, ⟨.pod,some "","a"⟩]
    let o : Object := { name := some "prod", ns := some "a/b" }
    let o' : Object := { name := some "prod" }
    (∀ k ∈ keys, k.IsPlain) ∧ o.IsLocated .ns ∧ o'.IsLocated .ns ∧
    (o.key? .ns).map text = (o'.key? .ns).map text ∧
    (⟨.pod,some "","a"⟩ : Key).text ≠ (⟨.pod,none,"a"⟩ : Key).text ∧
    (keys.map text).toFinset.card = 2 ∧
    (o.name = o'.name ∧ (Kind.ns.isClusterScoped = false → o.ns = o'.ns)) := by
  intro keys o o'
  have hkeys : ∀ k ∈ keys, k.IsPlain := by decide
  have ho : o.IsLocated .ns := ⟨⟨"prod", rfl, by decide⟩, nofun⟩
  have ho' : o'.IsLocated .ns := ⟨⟨"prod", rfl, by decide⟩, nofun⟩
  have htext : (o.key? .ns).map text = (o'.key? .ns).map text := rfl
  refine ⟨hkeys, ho, ho', htext, ?_, ?_, (text_identifies.2.2 _ _ _ _ ho ho' htext).2⟩
  · intro h
    have heq := text_identifies.1 _ _ (hkeys _ (by decide)) (hkeys _ (by decide)) h
    exact absurd heq (by decide)
  · rw [text_identifies.2.1 keys hkeys]
    decide

end Resource.Key
end WorkloadScan
