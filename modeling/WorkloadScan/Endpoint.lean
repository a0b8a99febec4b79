import WorkloadScan.Url.Target

/-! Endpoints of scan services. -/
namespace WorkloadScan

inductive Endpoint.Fault where
  | invalid (fault : Url.Fault)
  | unsupportedScheme (scheme : String)
  deriving DecidableEq, Repr

def Endpoint.Fault.message : Endpoint.Fault → String
  | .invalid fault => "invalid endpoint URL: " ++ fault.message
  | .unsupportedScheme scheme => "unsupported endpoint scheme: " ++ scheme

/-- An endpoint is reached over HTTP, encrypted or not. -/
def Endpoint.read (s : String) : Except Endpoint.Fault Url :=
  match Url.read s with
  | .error fault => .error (.invalid fault)
  | .ok url =>
    if url.scheme = "http" || url.scheme = "https" then .ok url
    else .error (.unsupportedScheme url.scheme)

end WorkloadScan
