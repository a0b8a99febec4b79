import WorkloadScan.Metrics
import WorkloadScan.Notice
import WorkloadScan.Scan

/-! The registered targets and the requests that change them. A target whose client cannot be
made is not kept as it was: it is gone. -/
namespace WorkloadScan

abbrev Registry := Table String Target

namespace Registry

inductive Request where
  | add (key : String) (spec : Target.Spec)
  | delete (key : String)
  | snapshot
  deriving DecidableEq, Repr

inductive Reply where
  | done
  | targets (targets : List Target)
  deriving DecidableEq, Repr

variable (transport : Transport)

def apply (r : Registry) : Request → Registry
  | .add key spec =>
    match transport.fault spec.client with
    | none => r.insert key (.ofSpec key spec)
    | some _ => r.erase key
  | .delete key => r.erase key
  | .snapshot => r

def reply (r : Registry) : Request → Reply
  | .snapshot => .targets r.values
  | .add .. | .delete _ => .done

def emptyReply : Request → Reply
  | .snapshot => .targets []
  | .add .. | .delete _ => .done

def registrationNotice (r : Registry) (key : String) (spec : Target.Spec) : Notice :=
  match transport.fault spec.client with
  | none => if r.contains key then .updated key spec.endpoint else .registered key spec.endpoint
  | some error => .buildFailed key spec.endpoint error (r.contains key)

def notices (r : Registry) : Request → List Notice
  | .add key spec =>
    spec.filter.invalidPatterns.map (.patternIgnored key)
      ++ [registrationNotice transport r key spec]
  | .delete key => if r.contains key then [.removed key] else []
  | .snapshot => []

def droppedNotices : Request → List Notice
  | .add .. => [.registrationDropped]
  | .delete _ => [.deletionDropped]
  | .snapshot => []

def measure (r : Registry) (request : Request) (m : Metrics) : Metrics :=
  match request with
  | .add _ spec =>
    { m.countRegistration (transport.fault spec.client).isNone with
      targets := (apply transport r request).size }
  | .delete key =>
    if r.contains key then { m with targets := (apply transport r request).size } else m
  | .snapshot => m

def built : Request → Option (Client × Bool)
  | .add _ spec => some (spec.client, (transport.fault spec.client).isNone)
  | .delete _ | .snapshot => none

end Registry
end WorkloadScan
