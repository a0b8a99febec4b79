import WorkloadScan.Debouncer
import WorkloadScan.Settings.Timeout
import WorkloadScan.Target.Spec

/-! The settings of the program. -/
namespace WorkloadScan

inductive Settings.LogFormat where
  | plain | json
  deriving DecidableEq, Repr

structure Settings where
  logFilter : String := "scan_controller=info,warn"
  logFormat : Settings.LogFormat := .plain
  cluster : Option String := none
  context : Option String := none
  user : Option String := none
  kubeconfig : Option String := none
  asUser : Option String := none
  asGroup : Option String := none
  answerTimeout : Settings.Timeout := ⟨false, ⟨9000000000, by decide⟩⟩
  adminAddress : String := "0.0.0.0:8080"
  quiet : Interval := ⟨10000000000, by decide⟩
  spacing : Interval := ⟨120000000000, by decide⟩
  watchAll : Bool := false
  kinds : List Kind := []
  included : List String := []
  excluded : List String := []
  endpoint : Option String := none
  token : String := ""
  integrationId : String := ""
  scanTimeout : Interval := ⟨30000000000, by decide⟩
  scanLimit : Nat := 16
  integrationsDisabled : Bool := false
  deriving DecidableEq, Repr

namespace Settings

def ownTarget : String := "static"

def watched (s : Settings) : List Kind := Kind.watched s.watchAll s.kinds

def config (s : Settings) : Config :=
  { quiet := s.quiet.nanos, spacing := s.spacing.nanos, discardFirst := true, limit := s.scanLimit }

def target? (s : Settings) : Option Target.Spec :=
  s.endpoint.map fun endpoint =>
    { endpoint, token := s.token, integrationId := s.integrationId, included := s.included,
      excluded := s.excluded }

def redacted (s : Settings) : Settings := { s with token := Target.Spec.redacted s.token }

end Settings
end WorkloadScan
