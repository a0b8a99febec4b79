import WorkloadScan.Registry

/-! Integrations become registered targets: what has to be requested of the registry after each
event of their watch. -/
namespace WorkloadScan

structure Reconciler where
  /-- The keys registered by the reconciler. -/
  known : List String := []
  /-- The keys seen in a list that is not complete yet. -/
  listing : Option (List String) := none
  deriving DecidableEq, Repr, Inhabited

namespace Reconciler

abbrev TokenReader := String → Integration.SecretRef → Except Cluster.TokenError String

inductive Move where
  | note (notice : Notice)
  | request (request : Registry.Request)
  deriving DecidableEq, Repr

def insertKey (key : String) (keys : List String) : List String :=
  if key ∈ keys then keys else keys ++ [key]

def removeKey (key : String) (keys : List String) : List String := keys.filter (· ≠ key)

def delete (key : String) (r : Reconciler) : Reconciler × List Move :=
  ({ r with known := removeKey key r.known }, [.request (.delete key)])

def noting (notice : Notice) (next : Reconciler × List Move) : Reconciler × List Move :=
  (next.1, .note notice :: next.2)

def register (i : Integration) (token : String) (r : Reconciler) : Reconciler × List Move :=
  ({ r with known := insertKey i.key r.known },
    [.note (.integrationApplied i.key i.spec.endpoint),
      .request (.add i.key (i.spec.target token))])

/-- An integration without a reference has an empty token. -/
def token (read : TokenReader) (i : Integration) : Except Cluster.TokenError String :=
  match i.spec.secret with
  | none => .ok ""
  | some ref => read i.ns ref

/-- An integration that is disabled, or whose token cannot be read, is not registered. -/
def apply (read : TokenReader) (i : Integration) (r : Reconciler) : Reconciler × List Move :=
  if i.spec.enabled then
    match token read i with
    | .ok token => register i token r
    | .error e => noting (.tokenUnreadable i.key e) (delete i.key r)
  else noting (.integrationDisabled i.key) (delete i.key r)

def markListed (key : String) (r : Reconciler) : Reconciler :=
  { r with listing := r.listing.map (insertKey key) }

/-- Takes a key away that a complete list did not name. -/
def vanished (key : String) : List Move :=
  [.note (.integrationVanished key), .request (.delete key)]

def completeList (r : Reconciler) : Reconciler × List Move :=
  let listed := r.listing.getD []
  ({ known := r.known.filter (· ∈ listed), listing := none },
    (r.known.filter (· ∉ listed)).flatMap vanished)

def handle (read : TokenReader) (r : Reconciler) :
    Cluster.Event Integration → Reconciler × List Move
  | .applied i => apply read i r
  | .deleted i => noting (.integrationDeleted i.key) (delete i.key r)
  | .listing => ({ r with listing := some [] }, [])
  | .listed i => apply read i (markListed i.key r)
  | .listComplete => completeList r

end Reconciler
end WorkloadScan
