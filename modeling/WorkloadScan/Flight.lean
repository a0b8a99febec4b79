import WorkloadScan.Scan

/-! The scans of one flush while they are under way. -/
namespace WorkloadScan

structure Flight.Running where
  scan : Scan
  finish : Instant
  error : Option String
  deriving DecidableEq, Repr

structure Flight where
  resources : Nat
  targets : Nat
  filtered : Nat
  waiting : List Scan
  running : List Flight.Running := []
  scanned : Nat := 0
  failed : Nat := 0
  deriving DecidableEq, Repr

namespace Flight

def start (targets : List Target) (batch : Batch) : Flight :=
  { resources := batch.size, targets := targets.length,
    filtered := (Scan.refused targets batch).length, waiting := Scan.admitted targets batch }

/-- One more scan may begin. A limit of zero is no limit. -/
def hasRoom (limit : Nat) (f : Flight) : Bool := limit = 0 || f.running.length < limit

def begin? (limit : Nat) (respond : Scan → Response) (now : Instant) (f : Flight) :
    Option (Scan × Flight) :=
  match f.waiting with
  | [] => none
  | scan :: waiting =>
    if f.hasRoom limit then
      let response := respond scan
      let running := ⟨scan, now + response.delay, response.error⟩
      some (scan, { f with waiting, running := f.running ++ [running] })
    else none

def count (ok : Bool) (f : Flight) : Flight :=
  if ok then { f with scanned := f.scanned + 1 } else { f with failed := f.failed + 1 }

/-- The running scan at a place ends, if its time has come. -/
def finish? (now : Instant) (place : Nat) (f : Flight) : Option (Running × Flight) :=
  match f.running[place]? with
  | some r =>
    if r.finish ≤ now then
      some (r, { f.count r.error.isNone with running := f.running.eraseIdx place })
    else none
  | none => none

def isOver (f : Flight) : Bool := f.waiting.isEmpty && f.running.isEmpty

end Flight
end WorkloadScan
