import WorkloadScan.Resource

/-! Objects of the cluster as a watch reports them. -/
namespace WorkloadScan.Cluster

structure Owner where
  kind : String
  name : String := ""
  controller : Option Bool := none
  deriving DecidableEq, Repr

structure Object where
  name : Option String := none
  generateName : Option String := none
  ns : Option String := none
  uid : Option String := none
  version : Option String := none
  owners : List Owner := []
  deriving DecidableEq, Repr, Inhabited

namespace Object

def nameOrStem (o : Object) : String := (o.name.orElse fun _ => o.generateName).getD ""

/-- The key of an object. An object without a name has none. Objects of a cluster-scoped kind have
no namespace, and others are in the namespace `default` unless they say otherwise. -/
def key? (kind : Kind) (o : Object) : Option Resource.Key :=
  o.name.map fun name =>
    if kind.isClusterScoped then ⟨kind, none, name⟩ else ⟨kind, some (o.ns.getD "default"), name⟩

def revision (o : Object) : Resource.Revision := ⟨o.uid, o.version⟩

/-- Whether an owner of a watched kind already stands for changes of an object. -/
def isRedundant (kind : Kind) (owners : List Owner) (watched : List Kind) : Bool :=
  owners.any fun owner => kind.isRedundantOwner owner.kind watched

end Object

/-- What a watch reports. A list starts with `listing`, reports each object as `listed` and ends
with `listComplete`. -/
inductive Event (α : Type) where
  | applied (object : α)
  | deleted (object : α)
  | listing
  | listed (object : α)
  | listComplete
  deriving DecidableEq, Repr

end WorkloadScan.Cluster
