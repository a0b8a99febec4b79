import WorkloadScan.Text.Ascii
import WorkloadScan.Text.Blank

/-! The kinds of resources that can be watched. -/
namespace WorkloadScan

inductive Kind where
  | deployment | daemonSet | statefulSet | replicaSet | pod | job | cronJob | service | ingress
  | ns
  deriving DecidableEq, Repr, Inhabited

namespace Kind

def all : List Kind :=
  [deployment, daemonSet, statefulSet, replicaSet, pod, job, cronJob, service, ingress, ns]

/-- The kinds watched when nothing else is asked for. -/
def standard : List Kind := [deployment, daemonSet, statefulSet, replicaSet]

def rank (k : Kind) : Nat := all.idxOf k

def name : Kind → String
  | deployment => "Deployment"
  | daemonSet => "DaemonSet"
  | statefulSet => "StatefulSet"
  | replicaSet => "ReplicaSet"
  | pod => "Pod"
  | job => "Job"
  | cronJob => "CronJob"
  | service => "Service"
  | ingress => "Ingress"
  | ns => "Namespace"

def plural : Kind → String
  | deployment => "deployments"
  | daemonSet => "daemonsets"
  | statefulSet => "statefulsets"
  | replicaSet => "replicasets"
  | pod => "pods"
  | job => "jobs"
  | cronJob => "cronjobs"
  | service => "services"
  | ingress => "ingresses"
  | ns => "namespaces"

def shortName : Kind → String
  | deployment => "deploy"
  | daemonSet => "ds"
  | statefulSet => "sts"
  | replicaSet => "rs"
  | pod => "po"
  | job => "job"
  | cronJob => "cj"
  | service => "svc"
  | ingress => "ing"
  | ns => "ns"

instance : ToString Kind := ⟨name⟩

theorem name_injective {j k : Kind} (h : name j = name k) : j = k := by
  revert h
  cases j <;> cases k <;> decide

def isClusterScoped (k : Kind) : Bool := k == ns

/-- The names of the owner kinds whose own changes already stand for a change of the owned
object. -/
def redundantOwners : Kind → List String
  | pod => ["ReplicaSet", "DaemonSet", "StatefulSet", "Job"]
  | replicaSet => ["Deployment"]
  | job => ["CronJob"]
  | _ => []

def isRedundantOwner (k : Kind) (owner : String) (watched : List Kind) : Bool :=
  k.redundantOwners.contains owner && watched.any (·.name == owner)

structure Unsupported where
  text : String
  deriving DecidableEq, Repr

def Unsupported.message (e : Unsupported) : String := "unsupported resource type: " ++ e.text

/-- Reads a name, a plural or a short name, in any case and with blanks around it. -/
def read (s : String) : Except Unsupported Kind :=
  let s := Text.trimmed s
  match all.find? fun k =>
    Text.sameLetters s k.name || Text.sameLetters s k.plural || Text.sameLetters s k.shortName with
  | some k => .ok k
  | none => .error ⟨s⟩

/-- The list without repetitions; the first of equal entries stays. -/
def distinct (kinds : List Kind) : List Kind :=
  kinds.foldl (fun seen k => if k ∈ seen then seen else seen ++ [k]) []

/-- The kinds to watch. Kinds asked for by name win over the wish for all kinds. -/
def watched (everything : Bool) (chosen : List Kind) : List Kind :=
  if chosen.isEmpty then (if everything then all else standard) else distinct chosen

end Kind
end WorkloadScan
