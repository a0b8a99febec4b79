import WorkloadScan.Http.ScanRequest
import WorkloadScan.Http.Status

/-! What becomes of a request. -/
namespace WorkloadScan.Http

inductive Server where
  | unreachable
  /-- Reads a request and closes the connection. -/
  | closes
  /-- Reads a request and stays silent. -/
  | hangs
  | answers (status : Nat)
  deriving DecidableEq, Repr

inductive Failure where
  | unsendable
  | connection
  | unanswered
  | timeout
  | refused (status : Nat)
  deriving DecidableEq, Repr

def Failure.message : Failure → String
  | .unsendable => "builder error"
  | .connection | .unanswered | .timeout => "error sending request"
  | .refused status => "scan API responded with " ++ statusText status

def Server.failure? : Server → Option Failure
  | .unreachable => some .connection
  | .closes => some .unanswered
  | .hangs => some .timeout
  | .answers status => if isSuccess status then none else some (.refused status)

def exchange (endpoint : Url) (token : String) (body : ScanBody) (server : Server) :
    Option Request × Option Failure :=
  match scanRequest? endpoint token body with
  | none => (none, some .unsendable)
  | some request => (if server = .unreachable then none else some request, server.failure?)

end WorkloadScan.Http
