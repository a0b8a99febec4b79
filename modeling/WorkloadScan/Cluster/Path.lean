/-! Paths under which the cluster serves its objects. A target of a request has a path, then perhaps
a query after a question mark, and perhaps a fragment after a hash sign, which is not sent. -/
namespace WorkloadScan.Cluster.Path

/-- Delimiters that a path may have. Characters beyond ASCII are let through as they are. -/
def isAllowed (c : Char) : Bool :=
  0x20 < c.toNat && !(['#', '<', '>', '?', '\x60'].contains c)

def isAllowedInQuery (c : Char) : Bool :=
  0x20 < c.toNat && !(['"', '#', '<', '>'].contains c)

def isQueryAllowed : List Char → Bool
  | '?' :: cs => (cs.takeWhile (· ≠ '#')).all isAllowedInQuery
  | _ => true

abbrev longestTarget : Nat := 65534

def ofTarget? (target : List Char) : Option (List Char) :=
  let isPart (c : Char) : Bool := c ≠ '?' && c ≠ '#'
  let path := target.takeWhile isPart
  if longestTarget < (String.ofList target).utf8ByteSize then none
  else if path.all isAllowed && isQueryAllowed (target.dropWhile isPart) then some path
  else none

/-- The target of a request for a secret. Names are put in as they are. -/
def secret (ns name : String) : List Char :=
  "/api/v1/namespaces/".toList ++ ns.toList ++ "/secrets/".toList ++ name.toList

end WorkloadScan.Cluster.Path
