import WorkloadScan.Number.Binary64
import WorkloadScan.Text.Ascii

/-! Decimals read in two steps: the leading digits as one whole number, which is then scaled by a
power of ten. Both the number and each scaling round, so the outcome may miss the nearest binary64
value by a unit or so in the last place. -/
namespace WorkloadScan.Number

structure Scaled where
  significand : Nat
  power : Int
  deriving DecidableEq, Repr

namespace Scaled

abbrev limit : Nat := 18446744073709551616

/-- Appends digits to a number until one makes it too large. What follows is given back. -/
def gather (n : Nat) : List Char → Nat × List Char
  | [] => (n, [])
  | c :: rest =>
    if 10 * n + Text.digit c < limit then gather (10 * n + Text.digit c) rest else (n, c :: rest)

/-- The decimal with the given digits before and after its point, times a power of ten. Of digits
that have no room those before the point count as zeros, and those after it do not count. -/
def ofDigits (whole fraction : List Char) (power : Int) : Scaled :=
  let (n, surplus) := gather 0 whole
  let (significand, dropped) := gather n fraction
  { significand, power := power + surplus.length - (fraction.length - dropped.length : Nat) }

abbrev largestPower : Nat := 308

def powerOfTen? (n : Nat) : Option Binary64 := Binary64.ofRatio? (Nat.pow 10 n) 1

/-- Divides by a power of ten, in steps if the power is no binary64 value. -/
def lower? (x : Binary64) (n : Nat) : Option Binary64 :=
  if n ≤ largestPower then (powerOfTen? n).bind x.div?
  else if x.mantissa = 0 then some x
  else (powerOfTen? largestPower).bind fun p => (x.div? p).bind fun y => lower? y (n - largestPower)
termination_by n
decreasing_by
  have : largestPower = 308 := rfl
  omega

def value? (s : Scaled) : Option Binary64 := do
  let x ← Binary64.ofRatio? s.significand 1
  if s.power < 0 then lower? x (-s.power).toNat
  else if s.power ≤ largestPower then x.mul? (← powerOfTen? s.power.toNat)
  else if x.mantissa = 0 then some x
  else none

end Scaled
end WorkloadScan.Number
