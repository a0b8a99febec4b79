import Mathlib.Data.List.Nodup
import WorkloadScan.Integration.Spec
import WorkloadScan.Proofs.Json.Field

/-! The specs of integrations are read from their own JSON values, also when fields that hold
defaults are left out or unknown ones are there, and from lists of their fields. -/
namespace WorkloadScan

namespace Json
variable {α : Type} {decode : Json → Except DecodeError α} {default value : α} {j : Json}

theorem optional_of_some (h : decode j = .ok value) :
    optional decode (some j) = .ok (some value) := by
  rw [optional, h]
  rfl

theorem withDefault_of_some (h : decode j = .ok value) :
    withDefault default decode (some j) = .ok value := by
  rw [withDefault, optional_of_some h]
  rfl

theorem asStrings_ofStrings (items : List String) : asStrings (ofStrings items) = .ok items := by
  have hmap : (items.map Json.string).mapM asString = .ok items := by
    induction items with
    | nil => rfl
    | cons s items ih => simp [asString, ih, bind, Except.bind, pure, Except.pure]
  exact hmap

/-! ### Objects with fields missing or added -/

/-- An object with fields of another one. It may leave out those that hold a default, and have
others whose names the other one does not know. -/
structure IsVariant (defaults full fields : List (String × Json)) : Prop where
  known : ∀ f ∈ fields, f.1 ∈ full.map Prod.fst → f ∈ full
  kept : ∀ f ∈ full, f ∈ fields ∨ f ∈ defaults

namespace IsVariant
variable {defaults full fields : List (String × Json)} {name : String}

theorem refl (defaults full : List (String × Json)) : IsVariant defaults full full :=
  ⟨fun _ h _ => h, fun _ h => .inl h⟩

theorem field?_eq (h : IsVariant defaults full fields) (hnodup : (full.map Prod.fst).Nodup)
    (hmem : (name,j) ∈ full) :
    field? fields name = some j ∨ field? fields name = none ∧ (name,j) ∈ defaults := by
  cases hfound : field? fields name with
  | none =>
    refine .inr ⟨rfl, (h.kept _ hmem).resolve_left fun hthere => ?_⟩
    obtain ⟨v, hv⟩ := exists_field? hthere
    rw [hfound] at hv
    cases hv
  | some v =>
    have hv : (name,v) ∈ full :=
      h.known _ (mem_of_field? hfound) (List.mem_map.mpr ⟨_, hmem, rfl⟩)
    have heq : (name,v) = (name,j) := List.inj_on_of_nodup_map hnodup hv hmem rfl
    rw [(Prod.mk.inj heq).2]
    exact .inl rfl

theorem optional_eq (h : IsVariant defaults full fields) (hnodup : (full.map Prod.fst).Nodup)
    (hmem : (name,j) ∈ full) (hrequired : (name,j) ∉ defaults) (hdecode : decode j = .ok value) :
    optional decode (field? fields name) = .ok (some value) := by
  rcases h.field?_eq hnodup hmem with hfield | ⟨-, hdefault⟩
  · rw [hfield, optional_of_some hdecode]
  · exact absurd hdefault hrequired

theorem withDefault_eq (h : IsVariant defaults full fields) (hnodup : (full.map Prod.fst).Nodup)
    (hmem : (name,j) ∈ full) (hdecode : decode j = .ok value)
    (hdefault : (name,j) ∈ defaults → value = default) :
    withDefault default decode (field? fields name) = .ok value := by
  rcases h.field?_eq hnodup hmem with hfield | ⟨hnone, hmem⟩
  · rw [hfield, withDefault_of_some hdecode]
  · rw [hnone, hdefault hmem]
    rfl

end IsVariant
end Json

namespace Integration
open Json (IsVariant field?)

namespace SecretRef

def declared (r : SecretRef) : List (String × Json) :=
  [("name", .string r.name), ("key", .string r.key)]

def defaults : List (String × Json) := [("key", .string defaultKey)]

/-- A reference to a secret is written as an object with its fields, and none as null. -/
inductive IsWritten : Option SecretRef → Json → Prop
  | none : IsWritten none .null
  | some {r : SecretRef} {fields : List (String × Json)}
    (h : IsVariant defaults r.declared fields) : IsWritten (some r) (.object fields)

theorem isWritten_toJson (secret : Option SecretRef) :
    IsWritten secret ((secret.map toJson).getD .null) := by
  cases secret with
  | none => exact .none
  | some r => exact .some (.refl defaults r.declared)

theorem ofFields_of_isVariant {r : SecretRef} {fields : List (String × Json)}
    (h : IsVariant defaults r.declared fields) : ofFields fields = .ok r := by
  have hnodup : (r.declared.map Prod.fst).Nodup := by simp [declared]
  have hname : Json.optional Json.asString (field? fields "name") = .ok (some r.name) :=
    h.optional_eq hnodup (j := .string r.name) (by simp [declared]) (by simp [defaults]) rfl
  have hkey : Json.withDefault defaultKey Json.asString (field? fields "key") = .ok r.key :=
    h.withDefault_eq hnodup (j := .string r.key) (by simp [declared]) rfl (by simp [defaults])
  rw [ofFields, hkey, hname]
  rfl

theorem ofNullable_of_isWritten {secret : Option SecretRef} {j : Json} (h : IsWritten secret j) :
    ofNullable j = .ok secret := by
  cases h with
  | none => rfl
  | some h =>
    rw [ofNullable, ofJson, ofFields_of_isVariant h]
    · rfl
    · nofun

end SecretRef

namespace Spec
variable {s : Spec} {secret : Json} {fields : List (String × Json)}

/-- The fields in the order in which they are declared, with the reference to the secret as it is
written. -/
def declared (s : Spec) (secret : Json) : List (String × Json) := [
  ("enabled", .bool s.enabled),
  ("endpoint", .string s.endpoint),
  ("integrationId", .string s.integrationId),
  ("tokenSecretRef", secret),
  ("namespaces", .ofStrings s.included),
  ("namespacesExclude", .ofStrings s.excluded)]

def defaults : List (String × Json) := [
  ("enabled", .bool true),
  ("integrationId", .string ""),
  ("tokenSecretRef", .null),
  ("namespaces", .array []),
  ("namespacesExclude", .array [])]

theorem ofFields_of_isVariant (hsecret : SecretRef.IsWritten s.secret secret)
    (h : IsVariant defaults (s.declared secret) fields) : ofFields fields = .ok s := by
  have hnodup : ((s.declared secret).map Prod.fst).Nodup := by simp [declared]
  have henabled : Json.withDefault true Json.asBool (field? fields "enabled") = .ok s.enabled :=
    h.withDefault_eq hnodup (j := .bool s.enabled) (by simp [declared]) rfl (by simp [defaults])
  have hendpoint : Json.optional Json.asString (field? fields "endpoint") =
      .ok (some s.endpoint) :=
    h.optional_eq hnodup (j := .string s.endpoint) (by simp [declared]) (by simp [defaults]) rfl
  have hid : Json.withDefault "" Json.asString (field? fields "integrationId") =
      .ok s.integrationId :=
    h.withDefault_eq hnodup (j := .string s.integrationId) (by simp [declared]) rfl
      (by simp [defaults])
  have hincluded : Json.withDefault [] Json.asStrings (field? fields "namespaces") =
      .ok s.included :=
    h.withDefault_eq hnodup (by simp [declared]) (Json.asStrings_ofStrings s.included)
      (by simp [defaults, Json.ofStrings])
  have hexcluded : Json.withDefault [] Json.asStrings (field? fields "namespacesExclude") =
      .ok s.excluded :=
    h.withDefault_eq hnodup (by simp [declared]) (Json.asStrings_ofStrings s.excluded)
      (by simp [defaults, Json.ofStrings])
  have hsecret' : Json.withDefault none SecretRef.ofNullable (field? fields "tokenSecretRef") =
      .ok s.secret := by
    refine h.withDefault_eq hnodup (j := secret) (by simp [declared])
      (SecretRef.ofNullable_of_isWritten hsecret) fun hmem => ?_
    obtain rfl : secret = .null := by simpa [defaults] using hmem
    exact (Except.ok.inj (SecretRef.ofNullable_of_isWritten hsecret)).symm
  rw [ofFields, henabled, hendpoint, hid, hincluded, hexcluded, hsecret']
  rfl

def items (s : Spec) (secret : Json) : List Json := (s.declared secret).map Prod.snd

theorem withDefault_take {texts : List String} {items : List Json} {n place : Nat}
    (hplace : items[place]? = some (.ofStrings texts))
    (hrest : ∀ v ∈ items.drop n, v = .array []) :
    Json.withDefault [] Json.asStrings (items.take n)[place]? = .ok texts := by
  rw [List.getElem?_take]
  split
  case isTrue =>
    rw [hplace]
    exact Json.withDefault_of_some (Json.asStrings_ofStrings texts)
  case isFalse hle =>
    have hmem : Json.ofStrings texts ∈ items.drop n := by
      refine List.mem_of_getElem? (i := place - n) ?_
      rw [List.getElem?_drop, Nat.add_sub_cancel' (Nat.le_of_not_lt hle), hplace]
    have hempty : texts = [] := by simpa [Json.ofStrings] using hrest _ hmem
    rw [hempty]
    rfl

theorem ofItems_take (hsecret : SecretRef.IsWritten s.secret secret) {n : Nat} (hn : 4 ≤ n)
    (hrest : ∀ v ∈ (s.items secret).drop n, v = .array []) :
    ofItems ((s.items secret).take n) = .ok s := by
  have hthere (place : Nat) (hplace : place < 4) :
      ((s.items secret).take n)[place]? = (s.items secret)[place]? :=
    List.getElem?_take_of_lt (Nat.lt_of_lt_of_le hplace hn)
  have hlength : ((s.items secret).take n).length ≤ 6 := by
    rw [List.length_take]
    exact Nat.min_le_right ..
  have hsecret' : Json.optional SecretRef.ofNullable (s.items secret)[3]? = .ok (some s.secret) :=
    Json.optional_of_some (SecretRef.ofNullable_of_isWritten hsecret)
  have hfour : (s.items secret)[4]? = some (.ofStrings s.included) := rfl
  have hfive : (s.items secret)[5]? = some (.ofStrings s.excluded) := rfl
  rw [ofItems, hthere 0 (by decide), hthere 1 (by decide), hthere 2 (by decide),
    hthere 3 (by decide), hsecret', withDefault_take hfour hrest, withDefault_take hfive hrest]
  simp only [if_neg (Nat.not_lt.mpr hlength)]
  rfl

/-- A spec is read from every form of it: from its own JSON value, from objects that leave out
fields that hold their defaults or have unknown ones, there and in the reference to the secret, and
from the list of its fields, which may end early where empty lists would follow. What was read from
any JSON value is read again from the value that is written for it. -/
theorem ofJson_forms (s : Spec) :
    ofJson s.toJson = .ok s ∧
    (∀ secret fields, SecretRef.IsWritten s.secret secret →
      IsVariant defaults (s.declared secret) fields → ofJson (.object fields) = .ok s) ∧
    (∀ secret n, SecretRef.IsWritten s.secret secret → 4 ≤ n →
      (∀ v ∈ (s.items secret).drop n, v = .array []) →
      ofJson (.array ((s.items secret).take n)) = .ok s) ∧
    ∀ j, ofJson j = .ok s → ∃ fields, s.toJson = .object fields ∧
      ofJson (.object fields) = .ok s := by
  have hobject (secret : Json) (fields : List (String × Json))
      (hsecret : SecretRef.IsWritten s.secret secret)
      (h : IsVariant defaults (s.declared secret) fields) : ofJson (.object fields) = .ok s :=
    ofFields_of_isVariant hsecret h
  have hself := hobject _ _ (SecretRef.isWritten_toJson s.secret) (.refl defaults _)
  refine ⟨hself, hobject, fun secret n hsecret hn hrest => ?_, fun _ _ => ⟨_, rfl, hself⟩⟩
  exact ofItems_take hsecret hn hrest

/-- Only what has no default is there, next to fields that are not known. -/
theorem ofJson_forms_without_defaults :
    let s : Spec := ⟨true, "https://scan.example.com", "", some ⟨"scan-token", "token"⟩, [], []⟩
    let ref : Json := .object [("name", .string "scan-token"), ("optional", .bool true)]
    let fields := [("endpoint", Json.string s.endpoint), ("paused", .null), ("tokenSecretRef", ref)]
    SecretRef.IsWritten s.secret ref ∧ IsVariant defaults (s.declared ref) fields ∧
    (∀ v ∈ (s.items ref).drop 4, v = .array []) ∧
    ofJson (.object fields) = .ok s ∧
    ofJson (.array [.bool true, .string s.endpoint, .string "", ref]) = .ok s ∧
    ∃ fields, s.toJson = .object fields ∧ ofJson (.object fields) = .ok s := by
  intro s ref fields
  have href : SecretRef.IsWritten s.secret ref := by
    refine .some ⟨?_, ?_⟩ <;> simp [SecretRef.declared, SecretRef.defaults, SecretRef.defaultKey]
  have hfields : IsVariant defaults (s.declared ref) fields := by
    constructor <;> simp [s, fields, declared, defaults, Json.ofStrings]
  have hrest : ∀ v ∈ (s.items ref).drop 4, v = .array [] := by
    simp [s, items, declared, Json.ofStrings]
  obtain ⟨-, hobject, hlist, hagain⟩ := ofJson_forms s
  have hread := hobject ref fields href hfields
  exact ⟨href, hfields, hrest, hread, hlist ref 4 href (by decide) hrest, hagain _ hread⟩

end Spec
end Integration
end WorkloadScan
