import WorkloadScan.Cluster.Object
import WorkloadScan.Json.Decode
import WorkloadScan.Target.Spec

/-! Integrations: resources that ask for scans of the cluster's workloads. -/
namespace WorkloadScan.Integration

/-- Where the token of an integration is kept: a secret and a key in it. -/
structure SecretRef where
  name : String
  key : String
  deriving DecidableEq, Repr

structure Spec where
  enabled : Bool
  endpoint : String
  integrationId : String
  secret : Option SecretRef
  included : List String
  excluded : List String
  deriving DecidableEq, Repr

namespace SecretRef

def defaultKey : String := "token"

def toJson (r : SecretRef) : Json := .object [("name", .string r.name), ("key", .string r.key)]

/-- Fields are checked in the order of their names, and missing ones after that. -/
def ofFields (fields : List (String × Json)) : Except Json.DecodeError SecretRef := do
  let key ← Json.withDefault defaultKey Json.asString (Json.field? fields "key")
  match ← Json.optional Json.asString (Json.field? fields "name") with
  | none => throw (.missingField "name")
  | some name => pure ⟨name, key⟩

/-- A list holds the fields in the order in which they are declared. -/
def ofItems (items : List Json) : Except Json.DecodeError SecretRef := do
  match ← Json.optional Json.asString items[0]? with
  | none => throw (.wrongLength 0 "struct SecretKeyRef with 2 elements")
  | some name =>
    let key ← Json.withDefault defaultKey Json.asString items[1]?
    if 2 < items.length then throw (.wrongLength items.length "fewer elements in array")
    pure ⟨name, key⟩

def ofJson : Json → Except Json.DecodeError SecretRef
  | .object fields => ofFields fields
  | .array items => ofItems items
  | j => .error (.wrongType j "struct SecretKeyRef")

def ofNullable : Json → Except Json.DecodeError (Option SecretRef)
  | .null => .ok none
  | j => (ofJson j).map some

end SecretRef

namespace Spec

def toJson (s : Spec) : Json := .object [
  ("enabled", .bool s.enabled),
  ("endpoint", .string s.endpoint),
  ("integrationId", .string s.integrationId),
  ("tokenSecretRef", (s.secret.map SecretRef.toJson).getD .null),
  ("namespaces", .ofStrings s.included),
  ("namespacesExclude", .ofStrings s.excluded)]

/-- Fields are checked in the order of their names, and missing ones after that. Other fields are
ignored. -/
def ofFields (fields : List (String × Json)) : Except Json.DecodeError Spec := do
  let enabled ← Json.withDefault true Json.asBool (Json.field? fields "enabled")
  let endpoint? ← Json.optional Json.asString (Json.field? fields "endpoint")
  let integrationId ← Json.withDefault "" Json.asString (Json.field? fields "integrationId")
  let included ← Json.withDefault [] Json.asStrings (Json.field? fields "namespaces")
  let excluded ← Json.withDefault [] Json.asStrings (Json.field? fields "namespacesExclude")
  let secret ← Json.withDefault none SecretRef.ofNullable (Json.field? fields "tokenSecretRef")
  match endpoint? with
  | none => throw (.missingField "endpoint")
  | some endpoint => pure { enabled, endpoint, integrationId, secret, included, excluded }

def tooShort (length : Nat) : Json.DecodeError :=
  .wrongLength length "struct ScanIntegrationSpec with 6 elements"

/-- A list holds the fields in the order in which they are declared. The endpoint and the secret
have no default in this form. -/
def ofItems (items : List Json) : Except Json.DecodeError Spec := do
  let enabled ← Json.withDefault true Json.asBool items[0]?
  match ← Json.optional Json.asString items[1]? with
  | none => throw (tooShort 1)
  | some endpoint =>
    let integrationId ← Json.withDefault "" Json.asString items[2]?
    match ← Json.optional SecretRef.ofNullable items[3]? with
    | none => throw (tooShort 3)
    | some secret =>
      let included ← Json.withDefault [] Json.asStrings items[4]?
      let excluded ← Json.withDefault [] Json.asStrings items[5]?
      if 6 < items.length then throw (.wrongLength items.length "fewer elements in array")
      pure { enabled, endpoint, integrationId, secret, included, excluded }

def ofJson : Json → Except Json.DecodeError Spec
  | .object fields => ofFields fields
  | .array items => ofItems items
  | j => .error (.wrongType j "struct ScanIntegrationSpec")

def target (s : Spec) (token : String) : Target.Spec :=
  { endpoint := s.endpoint, token, integrationId := s.integrationId,
    included := s.included, excluded := s.excluded }

end Spec
end WorkloadScan.Integration

namespace WorkloadScan

structure Integration where
  metadata : Cluster.Object
  spec : Integration.Spec
  deriving DecidableEq, Repr

namespace Integration

def ns (i : Integration) : String := i.metadata.ns.getD ""

def key (i : Integration) : String := i.ns ++ "/" ++ i.metadata.nameOrStem

def metadataFields (o : Cluster.Object) : List (String × Json) :=
  [("name", o.name), ("generateName", o.generateName), ("namespace", o.ns), ("uid", o.uid),
    ("resourceVersion", o.version)].filterMap fun (name, value) => value.map (name, .string ·)

def toJson (i : Integration) : Json := .object [
  ("apiVersion", .string "scan-controller.io/v1alpha1"),
  ("kind", .string "ScanIntegration"),
  ("metadata", .object (metadataFields i.metadata)),
  ("spec", i.spec.toJson)]

end Integration
end WorkloadScan
