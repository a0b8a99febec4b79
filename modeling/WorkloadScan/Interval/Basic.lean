/-! Lengths of time in whole nanoseconds. -/
namespace WorkloadScan

/-- There are fewer than `2 ^ 64` whole seconds in an interval. -/
structure Interval where
  nanos : Nat
  bound : nanos < 18446744073709551616 * 1000000000
  deriving DecidableEq, Repr

namespace Interval

def zero : Interval := ⟨0, by decide⟩

instance : Inhabited Interval := ⟨zero⟩

def ofNanos? (n : Nat) : Option Interval :=
  if h : n < 18446744073709551616 * 1000000000 then some ⟨n, h⟩ else none

def secs (d : Interval) : Nat := d.nanos / 1000000000

def subsec (d : Interval) : Nat := d.nanos % 1000000000

def isZero (d : Interval) : Bool := d.nanos == 0

def add? (d e : Interval) : Option Interval := ofNanos? (d.nanos + e.nanos)

end Interval
end WorkloadScan
