/-! Counts of what the engine has done, and the text in which they are published. -/
namespace WorkloadScan

structure Metrics where
  dispatched : Nat := 0
  suppressed : Nat := 0
  rateLimited : Nat := 0
  shutdown : Nat := 0
  scansOk : Nat := 0
  scansFailed : Nat := 0
  registrationsOk : Nat := 0
  registrationsFailed : Nat := 0
  filtered : Nat := 0
  pending : Nat := 0
  targets : Nat := 0
  deriving DecidableEq, Repr, Inhabited

/-- How a flush came about, or why it did not. -/
inductive Metrics.Flush where
  | dispatched | suppressed | rateLimited | shutdown
  deriving DecidableEq, Repr

namespace Metrics

def countFlush (m : Metrics) : Flush → Metrics
  | .dispatched => { m with dispatched := m.dispatched + 1 }
  | .suppressed => { m with suppressed := m.suppressed + 1 }
  | .rateLimited => { m with rateLimited := m.rateLimited + 1 }
  | .shutdown => { m with shutdown := m.shutdown + 1 }

def countScan (m : Metrics) (ok : Bool) : Metrics :=
  if ok then { m with scansOk := m.scansOk + 1 } else { m with scansFailed := m.scansFailed + 1 }

def countRegistration (m : Metrics) (ok : Bool) : Metrics :=
  if ok then { m with registrationsOk := m.registrationsOk + 1 }
  else { m with registrationsFailed := m.registrationsFailed + 1 }

structure Sample where
  name : String
  value : Nat
  deriving DecidableEq, Repr

structure Family where
  name : String
  help : String
  type : String
  samples : List Sample
  deriving DecidableEq, Repr

def scope : String := "scan_dispatch_"

/-- A count for each value of a label. A value that was never counted has no sample. -/
def labelled (name label : String) (counts : List (String × Nat)) : List Sample :=
  (counts.filter fun (_, n) => n ≠ 0).map fun (value, n) =>
    ⟨scope ++ name ++ "_total\x7b" ++ label ++ "=\"" ++ value ++ "\"\x7d", n⟩

/-- Values of a label are in the order of their text. -/
def families (m : Metrics) : List Family := [
  { name := "flushes", type := "counter", help := "Count of debounce timer firings by outcome",
    samples := labelled "flushes" "outcome" [("dispatched", m.dispatched),
      ("rate_limited", m.rateLimited), ("shutdown", m.shutdown), ("suppressed", m.suppressed)] },
  { name := "dispatches", type := "counter", help := "Count of scan requests sent to targets",
    samples := labelled "dispatches" "result" [("error", m.scansFailed), ("ok", m.scansOk)] },
  { name := "registrations", type := "counter", help := "Count of target registrations",
    samples := labelled "registrations" "result"
      [("error", m.registrationsFailed), ("ok", m.registrationsOk)] },
  { name := "filtered", type := "counter",
    help := "Count of resource changes skipped by a target's namespace filter",
    samples := [⟨scope ++ "filtered_total", m.filtered⟩] },
  { name := "pending", type := "gauge",
    help := "Number of changed resources waiting for the next flush",
    samples := [⟨scope ++ "pending", m.pending⟩] },
  { name := "targets", type := "gauge", help := "Number of registered targets",
    samples := [⟨scope ++ "targets", m.targets⟩] }]

def samples (m : Metrics) : List Sample := m.families.flatMap Family.samples

def Family.lines (f : Family) : List String :=
  ("# HELP " ++ scope ++ f.name ++ " " ++ f.help ++ ".")
    :: ("# TYPE " ++ scope ++ f.name ++ " " ++ f.type)
    :: f.samples.map fun s => s.name ++ " " ++ toString s.value

def lines (m : Metrics) : List String := m.families.flatMap Family.lines ++ ["# EOF"]

end Metrics
end WorkloadScan
