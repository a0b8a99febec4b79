import WorkloadScan.Address.Ipv6

/-! An address and a port, as in `127.0.0.1:80` and `[::1]:80`. -/
namespace WorkloadScan.Address.Socket

def isPort (cs : List Char) : Bool :=
  !cs.isEmpty && cs.all Char.isDigit && Text.decimal cs < 65536

def isZone (cs : List Char) : Bool :=
  !cs.isEmpty && cs.all Char.isDigit && Text.decimal cs < 4294967296

def isIpv4 (cs : List Char) : Bool := (Ipv6.bytes? cs).isSome

/-- An address of eight groups may have a zone after a percent sign. -/
def isIpv6 (cs : List Char) : Bool :=
  match Text.cutAtLast '%' cs with
  | some (address, zone) => (Ipv6.read? address).isSome && isZone zone
  | none => (Ipv6.read? cs).isSome

def isValid (cs : List Char) : Bool :=
  match Text.cutAtLast ':' cs with
  | none => false
  | some (address, port) =>
    isPort port &&
      match address with
      | '[' :: inner => inner.getLast? == some ']' && isIpv6 inner.dropLast
      | _ => isIpv4 address

end WorkloadScan.Address.Socket
