import WorkloadScan.Number.Binary64

/-! JSON values. -/
namespace WorkloadScan

/-- A whole number of 64 bits, signed or not, is exact; any other number is a binary64 value. -/
inductive Json.Numeral where
  | integer (n : Int)
  | float (negative : Bool) (magnitude : Number.Binary64)
  deriving DecidableEq, Repr

inductive Json where
  | null
  | bool (b : Bool)
  | number (n : Json.Numeral)
  | string (s : String)
  | array (items : List Json)
  | object (fields : List (String × Json))
  deriving Repr, Inhabited

namespace Json

def ofNat (n : Nat) : Json := .number (.integer n)

def ofStrings (items : List String) : Json := .array (items.map .string)

def ofOption : Option String → Json
  | none => .null
  | some s => .string s

/-- The value of a field. Of two fields with one name the later counts. -/
def field? (fields : List (String × Json)) (name : String) : Option Json :=
  fields.foldl (fun found (n, v) => if n = name then some v else found) none

/-- A field of an object; a null counts as missing. -/
def get? (j : Json) (name : String) : Option Json :=
  match j with
  | .object fields => (field? fields name).filter fun v => match v with | .null => false | _ => true
  | _ => none

def string? : Json → Option String
  | .string s => some s
  | _ => none

def bool? : Json → Option Bool
  | .bool b => some b
  | _ => none

def nat? : Json → Option Nat
  | .number (.integer (.ofNat n)) => some n
  | _ => none

def items? : Json → Option (List Json)
  | .array items => some items
  | _ => none

end Json
end WorkloadScan
