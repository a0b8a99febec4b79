import WorkloadScan.Debouncer
import WorkloadScan.Target.Basic

/-! Single scans, and what carries them out. -/
namespace WorkloadScan

/-- One resource, as it was last seen, to be scanned for one target. -/
structure Scan where
  target : Target
  key : Resource.Key
  revision : Resource.Revision
  deriving DecidableEq, Repr

structure Response where
  delay : Nat := 0
  error : Option String := none
  deriving DecidableEq, Repr, Inhabited

structure Transport where
  /-- Why no client can be made, if so. -/
  fault : Client → Option String
  /-- What becomes of a scan that begins at an instant. -/
  respond : Instant → Scan → Response

namespace Scan

def pairs (targets : List Target) (batch : Batch) : List Scan :=
  targets.flatMap fun target =>
    batch.entries.map fun (key, revision) => { target, key, revision }

def isAdmitted (s : Scan) : Bool := s.target.filter.admits s.key.ns

def admitted (targets : List Target) (batch : Batch) : List Scan :=
  (pairs targets batch).filter isAdmitted

def refused (targets : List Target) (batch : Batch) : List Scan :=
  (pairs targets batch).filter fun s => !s.isAdmitted

end Scan
end WorkloadScan
