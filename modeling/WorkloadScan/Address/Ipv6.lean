import WorkloadScan.Text.Ascii
import WorkloadScan.Text.Split

/-! Addresses of eight groups with colons between them. Two colons stand for one or more groups of
zeros, once at most. The last two groups may be written as four decimal bytes. -/
namespace WorkloadScan.Address.Ipv6

def group? (cs : List Char) : Option Nat :=
  if cs.isEmpty || 4 < cs.length then none
  else (cs.mapM Text.hexDigit?).map fun digits => digits.foldl (fun n d => 16 * n + d) 0

def byte? (cs : List Char) : Option Nat :=
  let value := Text.decimal cs
  if cs.isEmpty || 3 < cs.length || !cs.all Char.isDigit || 255 < value then none
  else if 1 < cs.length && cs.head? == some '0' then none
  else some value

def bytes? (cs : List Char) : Option (List Nat) :=
  match (Text.split (· == '.') cs).mapM byte? with
  | some [a, b, c, d] => some [256 * a + b, 256 * c + d]
  | _ => none

def groups? (withBytes : Bool) : List (List Char) → Option (List Nat)
  | [] => some []
  | [last] =>
    if withBytes && last.contains '.' then bytes? last else (group? last).map ([·])
  | first :: rest => do pure ((← group? first) :: (← groups? withBytes rest))

def side? (withBytes : Bool) (cs : List Char) : Option (List Nat) :=
  if cs.isEmpty then some [] else groups? withBytes (Text.split (· == ':') cs)

def read? (cs : List Char) : Option (List Nat) :=
  match Text.cutAtPair ':' cs with
  | none => (groups? true (Text.split (· == ':') cs)).filter (·.length = 8)
  | some (left, right) => do
    let left ← side? false left
    let right ← side? true right
    if left.length + right.length ≤ 7 then
      pure (left ++ List.replicate (8 - left.length - right.length) 0 ++ right)
    else none

end WorkloadScan.Address.Ipv6
