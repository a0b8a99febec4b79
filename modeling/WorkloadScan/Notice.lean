import WorkloadScan.Cluster.Secret
import WorkloadScan.Interval.Text

/-! What the engine reports about its work. -/
namespace WorkloadScan

inductive Notice where
  | patternIgnored (tenant : String) (error : Namespaces.Pattern.Invalid)
  | registered (tenant endpoint : String)
  | updated (tenant endpoint : String)
  | buildFailed (tenant endpoint error : String) (removed : Bool)
  | removed (tenant : String)
  | registrationDropped
  | deletionDropped
  | draining
  | handlesReleased
  | initialFlushDiscarded (resources : Nat)
  | flushPostponed (wait pending : Nat)
  | flushBeforeShutdown (resources : Nat)
  | flushed (resources targets dispatched failed refused : Nat)
  | filtered (tenant : String) (key : Resource.Key)
  | scanned (tenant : String) (key : Resource.Key)
  | scanFailed (tenant : String) (key : Resource.Key) (error : String)
  | changed (key : Resource.Key)
  | ownedByWatched (kind : Kind) (name : String)
  | watchEnded (kind : Kind)
  | watchStopped (kind : Kind)
  | integrationApplied (integration endpoint : String)
  | integrationDisabled (integration : String)
  | tokenUnreadable (integration : String) (error : Cluster.TokenError)
  | integrationDeleted (integration : String)
  | integrationVanished (integration : String)
  | integrationsEnded
  | integrationsStopped
  deriving DecidableEq, Repr

inductive Notice.Level where
  | trace | debug | info | warn
  deriving DecidableEq, Repr

def Notice.Level.name : Notice.Level → String
  | .trace => "TRACE"
  | .debug => "DEBUG"
  | .info => "INFO"
  | .warn => "WARN"

namespace Notice

def level : Notice → Level
  | filtered .. | changed .. | ownedByWatched .. => .trace
  | registrationDropped | deletionDropped | draining | handlesReleased | initialFlushDiscarded ..
  | flushPostponed .. | scanned .. | watchEnded .. | watchStopped .. | integrationApplied ..
  | integrationsEnded | integrationsStopped => .debug
  | registered .. | updated .. | removed .. | flushBeforeShutdown .. | flushed ..
  | integrationDisabled .. | integrationDeleted .. | integrationVanished .. => .info
  | patternIgnored .. | buildFailed .. | scanFailed .. | tokenUnreadable .. => .warn

def message : Notice → String
  | patternIgnored .. => "Ignoring namespace pattern"
  | registered .. => "Registered scan target"
  | updated .. => "Updated scan target"
  | buildFailed .. => "Failed to build scan client"
  | removed .. => "Removed scan target"
  | registrationDropped => "Registry stopped; dropping registration"
  | deletionDropped => "Registry stopped; dropping deletion"
  | draining => "Draining"
  | handlesReleased => "All handles released"
  | initialFlushDiscarded .. => "Discarded initial flush"
  | flushPostponed .. => "Flush rate limited; rescheduling"
  | flushBeforeShutdown .. => "Flushing pending changes before shutdown"
  | flushed .. => "Flushed"
  | filtered .. => "Filtered by namespace"
  | scanned .. => "Dispatched scan"
  | scanFailed .. => "Failed to dispatch scan"
  | changed .. => "Changed"
  | ownedByWatched .. => "Owned by a watched kind"
  | watchEnded .. | integrationsEnded => "Watch ended"
  | watchStopped .. | integrationsStopped => "Shutdown"
  | integrationApplied .. => "Applying"
  | integrationDisabled .. => "Disabled"
  | tokenUnreadable .. => "Failed to read API token"
  | integrationDeleted .. => "Deleted"
  | integrationVanished .. => "No longer exists"

def fields : Notice → List (String × String)
  | patternIgnored tenant error => [("tenant", tenant), ("error", error.message)]
  | registered tenant endpoint | updated tenant endpoint =>
    [("tenant", tenant), ("endpoint", endpoint)]
  | buildFailed tenant endpoint error known =>
    [("tenant", tenant), ("endpoint", endpoint), ("error", error), ("removed", toString known)]
  | removed tenant => [("tenant", tenant)]
  | initialFlushDiscarded resources | flushBeforeShutdown resources =>
    [("resources", toString resources)]
  | flushPostponed wait pending =>
    [("wait", String.ofList (Interval.chars wait)), ("pending", toString pending)]
  | flushed resources targets dispatched failed refused =>
    [("resources", toString resources), ("targets", toString targets),
      ("dispatched", toString dispatched), ("failed", toString failed),
      ("filtered", toString refused)]
  | filtered tenant key | scanned tenant key => [("tenant", tenant), ("resource", key.text)]
  | scanFailed tenant key error =>
    [("tenant", tenant), ("resource", key.text), ("error", error)]
  | changed key => [("resource", key.text)]
  | ownedByWatched kind name => [("kind", kind.name), ("name", name)]
  | watchEnded kind | watchStopped kind => [("kind", kind.name)]
  | integrationApplied integration endpoint =>
    [("integration", integration), ("endpoint", endpoint)]
  | tokenUnreadable integration error => [("integration", integration), ("error", error.message)]
  | integrationDisabled integration | integrationDeleted integration
  | integrationVanished integration => [("integration", integration)]
  | registrationDropped | deletionDropped | draining | handlesReleased | integrationsEnded
  | integrationsStopped => []

end Notice
end WorkloadScan
