import WorkloadScan.Interval.Reader

/-! How long to wait for the answer to a request to begin. The text is that of an interval, with any
number of signs before it. -/
namespace WorkloadScan.Settings

inductive Timeout.Fault where
  | invalidUnit
  | noUnit
  | notANumber (fault : Interval.NumberFault)
  /-- A component is negative, or the whole is too long. -/
  | outOfRange
  deriving DecidableEq, Repr

def Timeout.Fault.message : Timeout.Fault → String
  | .invalidUnit => "invalid unit: " ++ Interval.expectedUnits
  | .noUnit => "missing a unit: " ++ Interval.expectedUnits
  | .notANumber fault => "invalid floating-point number: " ++ fault.message
  | .outOfRange => "duration is out of range"

structure Timeout where
  /-- A timeout that has passed before it starts. -/
  backward : Bool
  length : Interval
  deriving DecidableEq, Repr

namespace Timeout

def component (k : Interval.Component) : Except Fault Interval := do
  if k.unit.isEmpty then throw .noUnit
  let value ← (Interval.readDecimal k.value).mapError .notANumber
  match Interval.unitNanos? k.unit with
  | none => throw .invalidUnit
  | some unit =>
    if value.negative && value.digits ≠ 0 then throw .outOfRange
    match (Interval.componentNanos? value unit).bind Interval.ofNanos? with
    | none => throw .outOfRange
    | some d => pure d

/-- Adds the components. A last one that is a bare zero needs no unit. -/
def addAll (total : Interval) : List Interval.Component → Except Fault Interval
  | [] => .ok total
  | k :: rest =>
    if k = ⟨['0'], []⟩ then .ok total
    else
      match component k with
      | .error fault => .error fault
      | .ok d =>
        match total.add? d with
        | none => .error .outOfRange
        | some sum => addAll sum rest

def unsigned (cs : List Char) : List Char := (cs.dropWhile (· == '+')).dropWhile (· == '-')

def read (s : String) : Except Fault Timeout :=
  (addAll .zero (Interval.components (unsigned s.toList))).map fun length =>
    { backward := s.toList.head? == some '-', length }

end Timeout
end WorkloadScan.Settings
