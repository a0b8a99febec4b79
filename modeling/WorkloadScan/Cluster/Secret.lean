import WorkloadScan.Cluster.Path
import WorkloadScan.Integration.Spec

/-! Tokens kept in secrets of the cluster. -/
namespace WorkloadScan.Cluster

structure Secret where
  ns : String
  name : String
  data : List (String × ByteArray)

inductive TokenError where
  /-- The cluster does not hand out the secret. -/
  | unavailable
  | missingKey (ns name key : String)
  | notUtf8 (ns name key : String)
  deriving DecidableEq, Repr

def TokenError.message : TokenError → String
  | .unavailable => "the secret is not available"
  | .missingKey ns name key => "secret " ++ ns ++ "/" ++ name ++ " has no key " ++ Text.quoted key
  | .notUtf8 ns name key =>
    "secret " ++ ns ++ "/" ++ name ++ " key " ++ Text.quoted key ++ " is not valid UTF-8"

/-- Of two values for one key the later counts. -/
def Secret.value? (s : Secret) (key : String) : Option ByteArray :=
  (s.data.reverse.find? fun (k, _) => k = key).map Prod.snd

/-- The secret that the cluster serves under a path. Of two secrets with one path the later
counts. -/
def servedAt? (secrets : List Secret) (path : List Char) : Option Secret :=
  secrets.reverse.find? fun s => Path.secret s.ns s.name = path

def findSecret? (secrets : List Secret) (ns name : String) : Option Secret :=
  if name.isEmpty then none
  else (Path.ofTarget? (Path.secret ns name)).bind (servedAt? secrets)

/-- The token that a reference names, without the white space around it. -/
def readToken (secrets : List Secret) (ns : String) (ref : Integration.SecretRef) :
    Except TokenError String :=
  match findSecret? secrets ns ref.name with
  | none => .error .unavailable
  | some secret =>
    match secret.value? ref.key with
    | none => .error (.missingKey ns ref.name ref.key)
    | some bytes =>
      match String.fromUTF8? bytes with
      | none => .error (.notUtf8 ns ref.name ref.key)
      | some token => .ok (Text.trimmed token)

end WorkloadScan.Cluster
