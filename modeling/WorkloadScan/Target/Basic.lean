import WorkloadScan.Target.Spec

/-! Registered targets and the clients through which they are scanned. -/
namespace WorkloadScan

structure Client where
  endpoint : String
  token : String
  deriving DecidableEq, Repr, Inhabited

structure Target where
  key : String
  endpoint : String
  integrationId : String
  filter : Namespaces.Filter
  client : Client
  deriving DecidableEq, Repr

namespace Target

def Spec.client (s : Spec) : Client := ⟨s.endpoint, s.token⟩

def ofSpec (key : String) (s : Spec) : Target :=
  { key, endpoint := s.endpoint, integrationId := s.integrationId, filter := s.filter,
    client := s.client }

/-- The text on one line with the fields named. The client, which holds the token, is left out. -/
def debug (t : Target) : String :=
  "Target \x7b key: " ++ Text.quoted t.key ++ ", endpoint: " ++ Text.quoted t.endpoint
    ++ ", integration_id: " ++ Text.quoted t.integrationId ++ ", filter: " ++ t.filter.debug
    ++ ", .. \x7d"

end Target
end WorkloadScan
