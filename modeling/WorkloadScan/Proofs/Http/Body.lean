import WorkloadScan.Http.ScanRequest
import WorkloadScan.Proofs.Json.Field
import WorkloadScan.Proofs.Json.Grammar
import WorkloadScan.Proofs.Json.RoundTrip

/-! What a scan service reads from the body of a request: what the scan is of, and nothing else. -/
namespace WorkloadScan.Http.ScanBody
open Json (field?)
variable {b b' : ScanBody} {fields parts : List (String × Json)}

/-- The fields of an object, and those of the object in its field for the resource, say what a scan
is of. A field is there if and only if there is something to say in it, and none is there twice. -/
structure IsToldBy (b : ScanBody) (fields parts : List (String × Json)) : Prop where
  names : fields.map Prod.fst = ["integrationId", "resource"]
  integrationId : field? fields "integrationId" = some (.string b.integrationId)
  resource : field? fields "resource" = some (.object parts)
  partNames : (parts.map Prod.fst).Sublist ["kind", "namespace", "name", "uid", "resourceVersion"]
  kind : field? parts "kind" = some (.string b.key.kind.name)
  ns : field? parts "namespace" = b.key.ns.map .string
  name : field? parts "name" = some (.string b.key.name)
  uid : field? parts "uid" = b.revision.uid.map .string
  version : field? parts "resourceVersion" = b.revision.version.map .string

@[simp] theorem field?_optionalField (name : String) (value : Option String) (other : String) :
    field? (optionalField name value) other = if name = other then value.map .string else none := by
  cases value <;> simp [optionalField]

theorem names_optionalField (name : String) (value : Option String) :
    ((optionalField name value).map Prod.fst).Sublist [name] := by
  cases value <;> simp [optionalField]

def resourceFields (b : ScanBody) : List (String × Json) :=
  [("kind", .string b.key.kind.name)] ++ optionalField "namespace" b.key.ns
    ++ [("name", .string b.key.name)] ++ optionalField "uid" b.revision.uid
    ++ optionalField "resourceVersion" b.revision.version

theorem resource_eq (b : ScanBody) : b.resource = .object b.resourceFields := rfl

theorem isNumberFree_resource (b : ScanBody) : b.resource.IsNumberFree := by
  have hoptional {name : String} {value : Option String} :
      ∀ f ∈ optionalField name value, f.2.IsNumberFree := by
    intro f hf
    obtain ⟨v, -, rfl⟩ := List.mem_map.mp hf
    exact .string v
  rw [resource_eq]
  refine .object ?_
  simp only [resourceFields, List.forall_mem_append, List.forall_mem_singleton]
  exact ⟨⟨⟨⟨.string _, hoptional⟩, .string _⟩, hoptional⟩, hoptional⟩

theorem isNumberFree_toJson (b : ScanBody) : b.toJson.IsNumberFree := by
  refine .object (List.forall_mem_cons.mpr ⟨.string _, ?_⟩)
  exact List.forall_mem_singleton.mpr b.isNumberFree_resource

theorem isToldBy_resourceFields (b : ScanBody) :
    b.IsToldBy [("integrationId", .string b.integrationId), ("resource", b.resource)]
      b.resourceFields where
  names := rfl
  integrationId := by simp
  resource := by simp [resource_eq]
  partNames := by
    have hns := names_optionalField "namespace" b.key.ns
    have huid := names_optionalField "uid" b.revision.uid
    have hversion := names_optionalField "resourceVersion" b.revision.version
    simp only [resourceFields, List.map_append]
    exact ((((List.Sublist.refl ["kind"]).append hns).append (.refl ["name"])).append huid).append
      hversion
  kind := by simp [resourceFields]
  ns := by simp [resourceFields]
  name := by simp [resourceFields]
  uid := by simp [resourceFields]
  version := by simp [resourceFields]

theorem IsToldBy.unique {parts' : List (String × Json)} (h : b.IsToldBy fields parts)
    (h' : b'.IsToldBy fields parts') : b = b' := by
  have hparts : parts = parts' := by
    simpa using h.resource.symm.trans h'.resource
  subst hparts
  have hid : b.integrationId = b'.integrationId := by
    simpa using h.integrationId.symm.trans h'.integrationId
  have hkind : b.key.kind.name = b'.key.kind.name := by
    simpa using h.kind.symm.trans h'.kind
  have hname : b.key.name = b'.key.name := by
    simpa using h.name.symm.trans h'.name
  have hstring : Function.Injective Json.string := fun _ _ => Json.string.inj
  have hmap : Function.Injective (Option.map Json.string) := Option.map_injective hstring
  have hns : b.key.ns = b'.key.ns := hmap (h.ns.symm.trans h'.ns)
  have huid : b.revision.uid = b'.revision.uid := hmap (h.uid.symm.trans h'.uid)
  have hversion : b.revision.version = b'.revision.version := hmap (h.version.symm.trans h'.version)
  obtain ⟨id, ⟨kind, ns, name⟩, ⟨uid, version⟩⟩ := b
  obtain ⟨id', ⟨kind', ns', name'⟩, ⟨uid', version'⟩⟩ := b'
  obtain rfl : kind = kind' := Kind.name_injective hkind
  simp_all

theorem read?_text (b : ScanBody) : Json.read? b.text = some b.toJson :=
  Json.read?_compact b.isNumberFree_toJson

theorem eq_of_text (h : b.text = b'.text) : b = b' := by
  have hread := b.read?_text
  rw [h, b'.read?_text, Option.some.injEq] at hread
  have htold := b.isToldBy_resourceFields
  rw [← Json.object.inj hread] at htold
  exact htold.unique b'.isToldBy_resourceFields

/-- A text that is sent as the body of a request for the scan, to some endpoint with some token. -/
def IsSentAs (b : ScanBody) (body : String) : Prop :=
  ∃ endpoint token request, scanRequest? endpoint token b = some request ∧ request.body = body

theorem IsSentAs.eq_text {body : String} (h : b.IsSentAs body) : body = b.text := by
  obtain ⟨endpoint, token, request, hrequest, rfl⟩ := h
  rw [scanRequest?] at hrequest
  split at hrequest
  case isTrue => rw [← Option.some.inj hrequest]
  case isFalse => cases hrequest

/-- The body of a request is a text of JSON, it is read as an object that says what the scan is of,
and no request for another scan has the same. -/
theorem body_unambiguous (b : ScanBody) :
    Json.IsText b.text ∧
    (∃ fields parts, Json.read? b.text = some (.object fields) ∧ b.IsToldBy fields parts) ∧
    (∀ b' : ScanBody, b'.text = b.text → b' = b) ∧
    ∀ (b' : ScanBody) body, b.IsSentAs body → b'.IsSentAs body → b' = b := by
  refine ⟨Json.isText_of_read? b.read?_text, ⟨_, _, b.read?_text, b.isToldBy_resourceFields⟩,
    fun b' h => eq_of_text h, fun b' body h h' => ?_⟩
  exact eq_of_text (h'.eq_text.symm.trans h.eq_text)

/-- A name that is made to look like the end of its field does not stand for the fields in it. -/
theorem body_unambiguous_of_forged_name :
    let forged : ScanBody :=
      ⟨"int-1", ⟨.pod,some "","a\",\"uid\":\"u1"⟩, ⟨none,none⟩⟩
    let other : ScanBody := ⟨"int-1", ⟨.pod,some "","a"⟩, ⟨some "u1",none⟩⟩
    forged.IsSentAs forged.text ∧ forged.text ≠ other.text ∧ ¬other.IsSentAs forged.text ∧
    ∃ fields parts, Json.read? forged.text = some (.object fields) ∧
      forged.IsToldBy fields parts := by
  intro forged other
  obtain ⟨-, hread, htext, hsent⟩ := body_unambiguous forged
  have hforged : forged.IsSentAs forged.text := ⟨⟨"http",none,none,[]⟩, "token", _, rfl, rfl⟩
  have hne : other ≠ forged := by decide
  exact ⟨hforged, fun h => hne (htext other h.symm), fun h => hne (hsent other _ hforged h), hread⟩

end WorkloadScan.Http.ScanBody
