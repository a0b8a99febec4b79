import WorkloadScan.Json.Writer
import WorkloadScan.Resource
import WorkloadScan.Url.Target

/-! The request by which a scan of one resource is asked for. -/
namespace WorkloadScan.Http

structure ScanBody where
  integrationId : String
  key : Resource.Key
  revision : Resource.Revision
  deriving DecidableEq, Repr

namespace ScanBody

def optionalField (name : String) (value : Option String) : List (String × Json) :=
  value.toList.map fun v => (name, .string v)

def resource (b : ScanBody) : Json :=
  .object ([("kind", .string b.key.kind.name)] ++ optionalField "namespace" b.key.ns
    ++ [("name", .string b.key.name)] ++ optionalField "uid" b.revision.uid
    ++ optionalField "resourceVersion" b.revision.version)

def toJson (b : ScanBody) : Json :=
  .object [("integrationId", .string b.integrationId), ("resource", b.resource)]

def text (b : ScanBody) : String := b.toJson.compact

end ScanBody

structure Request where
  start : String
  authorization : List String
  contentType : List String
  userAgent : List String
  body : String
  deriving DecidableEq, Repr

def isHeaderChar (c : Char) : Bool := c == '\t' || 0x20 ≤ c.toNat && c.toNat ≠ 0x7f

/-- The token is sent as it is. An empty one is not sent. -/
def authorization (token : String) : List String :=
  if token.isEmpty then [] else ["Bearer " ++ token]

def scanRequest? (endpoint : Url) (token : String) (body : ScanBody) : Option Request :=
  if token.toList.all isHeaderChar then
    some {
      start := "POST " ++ endpoint.target ++ " HTTP/1.1"
      authorization := authorization token
      contentType := ["application/json"]
      userAgent := ["scan-controller/0.1.0"]
      body := body.text }
  else none

end WorkloadScan.Http
