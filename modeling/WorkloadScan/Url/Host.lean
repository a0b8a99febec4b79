import WorkloadScan.Address.Ipv6
import WorkloadScan.Url.Domain
import WorkloadScan.Url.Ipv4

/-! Hosts of URLs. -/
namespace WorkloadScan.Url

inductive Fault where
  | relative
  | emptyHost
  | badName
  | badCharacter
  | badIpv4
  | badIpv6
  | badPort
  deriving DecidableEq, Repr

def Fault.message : Fault → String
  | .relative => "relative URL without a base"
  | .emptyHost => "empty host"
  | .badName => "invalid international domain name"
  | .badCharacter => "invalid domain character"
  | .badIpv4 => "invalid IPv4 address"
  | .badIpv6 => "invalid IPv6 address"
  | .badPort => "invalid port number"

inductive Host where
  | named (name : List Char)
  | ipv4 (address : Nat)
  | ipv6 (groups : List Nat)
  deriving DecidableEq, Repr

namespace Host

def readBracketed (cs : List Char) : Except Fault Host :=
  match cs.reverse with
  | ']' :: inner =>
    match Address.Ipv6.read? inner.reverse with
    | some groups => .ok (.ipv6 groups)
    | none => .error .badIpv6
  | _ => .error .badIpv6

def read : List Char → Except Fault Host
  | '[' :: cs => readBracketed cs
  | cs =>
    match Domain.read? cs with
    | none => .error .badName
    | some [] => .error .emptyHost
    | some name =>
      if Ipv4.endsInNumber name then
        match Ipv4.read? name with
        | some address => .ok (.ipv4 address)
        | none => .error .badIpv4
      else .ok (.named name)

def isDelimiter (c : Char) : Bool :=
  ['\x00', '\t', '\n', '\x0d', ' ', '#', '/', ':', '<', '>', '?', '@', '[', '\\', ']', '^',
    '|'].contains c

def readAny : List Char → Except Fault Host
  | '[' :: cs => readBracketed cs
  | cs => if cs.any isDelimiter then .error .badCharacter else .ok (.named cs)

end Host
end WorkloadScan.Url
