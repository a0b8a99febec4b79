import WorkloadScan.Cluster.Object

/-! Watches of one kind of resource. The first list of a watch is no change and is skipped. What
is listed again after a break may have changed and counts. Deletions are never scanned. -/
namespace WorkloadScan

structure Observer where
  kind : Kind
  /-- All kinds that are watched; what they own is left to their watches. -/
  watched : List Kind
  /-- Whether the first list is complete. -/
  synced : Bool := false
  deriving DecidableEq, Repr, Inhabited

namespace Observer

def isRedundant (o : Observer) (object : Cluster.Object) : Bool :=
  Cluster.Object.isRedundant o.kind object.owners o.watched

def afterEvent (o : Observer) : Cluster.Event Cluster.Object → Observer
  | .listComplete => { o with synced := true }
  | _ => o

def changed? (o : Observer) : Cluster.Event Cluster.Object → Option Cluster.Object
  | .applied object => some object
  | .listed object => if o.synced then some object else none
  | .deleted _ | .listing | .listComplete => none

end Observer
end WorkloadScan
