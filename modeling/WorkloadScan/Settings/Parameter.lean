import WorkloadScan.Address.Socket
import WorkloadScan.Interval.Reader
import WorkloadScan.Settings.Basic
import WorkloadScan.Settings.Count
import WorkloadScan.Settings.LogFilter
import WorkloadScan.Settings.Timeout

/-! The parameters by which settings are given: their names, and what their values may be. -/
namespace WorkloadScan.Settings

inductive Parameter where
  | logLevel | logFormat | cluster | context | user | kubeconfig | asUser | asGroup | answerTimeout
  | adminAddress | quiet | spacing | watchAll | kinds | included | excluded | endpoint | token
  | integrationId | scanTimeout | scanLimit | integrationsDisabled
  deriving DecidableEq, Repr

inductive Parameter.Fault where
  | interval (fault : Interval.Fault)
  | kind (error : Kind.Unsupported)
  | logFormat (text : String)
  | logFilter (fault : LogFilter.Fault)
  | timeout (fault : Timeout.Fault)
  | address
  | count (fault : Count.Fault)
  deriving DecidableEq, Repr

def Parameter.Fault.message : Parameter.Fault → String
  | .interval fault => fault.message
  | .kind error => error.message
  | .logFormat text => "invalid log level: " ++ text ++ " must be 'plain' or 'json'"
  | .logFilter fault => fault.message
  | .timeout fault => fault.message
  | .address => "invalid socket address syntax"
  | .count fault => fault.message

namespace Parameter

def all : List Parameter :=
  [logLevel, logFormat, cluster, context, user, kubeconfig, asUser, asGroup, answerTimeout,
    adminAddress, quiet, spacing, watchAll, kinds, included, excluded, endpoint, token,
    integrationId, scanTimeout, scanLimit, integrationsDisabled]

def name : Parameter → String
  | logLevel => "log-level"
  | logFormat => "log-format"
  | cluster => "cluster"
  | context => "context"
  | user => "user"
  | kubeconfig => "kubeconfig"
  | asUser => "as"
  | asGroup => "as-group"
  | answerTimeout => "kube-api-response-headers-timeout"
  | adminAddress => "admin-addr"
  | quiet => "debounce-interval"
  | spacing => "minimum-scan-interval"
  | watchAll => "watch-all-resources"
  | kinds => "resource-types"
  | included => "namespaces"
  | excluded => "namespaces-exclude"
  | endpoint => "scan-endpoint"
  | token => "scan-token"
  | integrationId => "integration-id"
  | scanTimeout => "scan-timeout"
  | scanLimit => "max-concurrent-dispatches"
  | integrationsDisabled => "integrations-disabled"

def named? (name : String) : Option Parameter := all.find? (·.name == name)

def envVar? : Parameter → Option String
  | logLevel => some "SCAN_CONTROLLER_LOG"
  | endpoint => some "SCAN_CONTROLLER_ENDPOINT"
  | token => some "SCAN_CONTROLLER_TOKEN"
  | integrationId => some "SCAN_CONTROLLER_INTEGRATION_ID"
  | _ => none

def isFlag : Parameter → Bool
  | watchAll | integrationsDisabled => true
  | _ => false

/-- A list may be given in parts, and a part may have commas. -/
def isList : Parameter → Bool
  | kinds | included | excluded => true
  | _ => false

def needsText : Parameter → Bool
  | kubeconfig => true
  | _ => false

def readInterval (text : String) : Except Fault Interval := (Interval.read text).mapError .interval

def parts (text : String) : List String := (Text.split (· == ',') text.toList).map String.ofList

def set (s : Settings) (text : String) : Parameter → Except Fault Settings
  | logLevel => do
    (LogFilter.check text).mapError .logFilter
    pure { s with logFilter := text }
  | logFormat =>
    if text = "plain" then .ok { s with logFormat := .plain }
    else if text = "json" then .ok { s with logFormat := .json }
    else .error (.logFormat text)
  | cluster => .ok { s with cluster := text }
  | context => .ok { s with context := text }
  | user => .ok { s with user := text }
  | kubeconfig => .ok { s with kubeconfig := text }
  | asUser => .ok { s with asUser := text }
  | asGroup => .ok { s with asGroup := text }
  | answerTimeout => do
    pure { s with answerTimeout := ← (Timeout.read text).mapError .timeout }
  | adminAddress =>
    if Address.Socket.isValid text.toList then .ok { s with adminAddress := text }
    else .error .address
  | quiet => do pure { s with quiet := ← readInterval text }
  | spacing => do pure { s with spacing := ← readInterval text }
  | watchAll => .ok { s with watchAll := true }
  | kinds => do
    let more ← (parts text).mapM fun part => (Kind.read part).mapError Fault.kind
    pure { s with kinds := s.kinds ++ more }
  | included => .ok { s with included := s.included ++ parts text }
  | excluded => .ok { s with excluded := s.excluded ++ parts text }
  | endpoint => .ok { s with endpoint := text }
  | token => .ok { s with token := text }
  | integrationId => .ok { s with integrationId := text }
  | scanTimeout => do pure { s with scanTimeout := ← readInterval text }
  | scanLimit => do pure { s with scanLimit := ← (Count.read text).mapError .count }
  | integrationsDisabled => .ok { s with integrationsDisabled := true }

end Parameter
end WorkloadScan.Settings
