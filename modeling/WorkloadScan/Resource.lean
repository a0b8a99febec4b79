import WorkloadScan.Kind

/-! Changed objects: the key that names one, and the state in which it was last seen. -/
namespace WorkloadScan

structure Resource.Key where
  kind : Kind
  ns : Option String
  name : String
  deriving DecidableEq, Repr, Inhabited

structure Resource.Revision where
  uid : Option String
  version : Option String
  deriving DecidableEq, Repr, Inhabited

namespace Resource.Key

/-- The kind, the namespace if there is one, and the name, with slashes between them. -/
def text (k : Key) : String :=
  match k.ns with
  | some ns => k.kind.name ++ "/" ++ ns ++ "/" ++ k.name
  | none => k.kind.name ++ "/" ++ k.name

instance : ToString Key := ⟨text⟩

def orElse (first : Ordering) (second : Ordering) : Ordering :=
  match first with
  | .eq => second
  | o => o

def compareNamespace : Option String → Option String → Ordering
  | none, none => .eq
  | none, some _ => .lt
  | some _, none => .gt
  | some a, some b => compare a b

def order (a b : Key) : Ordering :=
  orElse (compare a.kind.rank b.kind.rank)
    (orElse (compareNamespace a.ns b.ns) (compare a.name b.name))

def le (a b : Key) : Bool := order a b != .gt

def sortDistinct (keys : List Key) : List Key := keys.eraseDups.mergeSort le

end Resource.Key
end WorkloadScan
