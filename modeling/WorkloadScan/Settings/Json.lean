import WorkloadScan.Interval.Json
import WorkloadScan.Json.Writer
import WorkloadScan.Settings.Basic

/-! Settings as a JSON value, for those who want to see what is in force. -/
namespace WorkloadScan.Settings

def kindNames (kinds : List Kind) : Json := .ofStrings (kinds.map Kind.name)

def toJson (s : Settings) : Json := .object [
  ("debounce_interval", s.quiet.toJson),
  ("minimum_scan_interval", s.spacing.toJson),
  ("watch_all_resources", .bool s.watchAll),
  ("resource_types", kindNames s.kinds),
  ("watched", kindNames s.watched),
  ("namespaces", .ofStrings s.included),
  ("namespaces_exclude", .ofStrings s.excluded),
  ("scan_endpoint", .ofOption s.endpoint),
  ("scan_token", .string s.token),
  ("integration_id", .string s.integrationId),
  ("scan_timeout", s.scanTimeout.toJson),
  ("max_concurrent_dispatches", .ofNat s.scanLimit),
  ("integrations_disabled", .bool s.integrationsDisabled)]

end WorkloadScan.Settings
