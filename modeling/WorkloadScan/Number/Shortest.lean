import WorkloadScan.Number.Binary64

/-! The shortest decimal that reads back as a given binary64 value. Values that are neither large
nor small are written out in full, all others with a power of ten. -/
namespace WorkloadScan.Number

/-- Twice the ends of the interval of reals that round to `b`, in units of `2 ^ (exponent - 1)`,
and the value itself in these units. Below a power of two the spacing is half as wide. -/
structure Rounding where
  low : Nat
  value : Nat
  high : Nat
  endsIncluded : Bool
  exponent : Int

def Rounding.of (b : Binary64) : Rounding :=
  let m := 4 * b.mantissa
  { low := if b.mantissa = Binary64.leastNormal ∧ -1074 < b.exponent then m - 1 else m - 2
    value := m
    high := m + 2
    endsIncluded := b.mantissa % 2 = 0
    exponent := b.exponent - 2 }

def Rounding.holds (r : Rounding) (digits : Nat) (power : Int) : Bool :=
  let x := digits * Nat.pow 10 power.toNat * Nat.pow 2 (-r.exponent).toNat
  let scale := Nat.pow 10 (-power).toNat * Nat.pow 2 r.exponent.toNat
  let lo := r.low * scale
  let hi := r.high * scale
  if r.endsIncluded then lo ≤ x && x ≤ hi else lo < x && x < hi

/-- On the grid of multiples of `10 ^ power`, the nearer of the value's two neighbours among
those in the interval. -/
def Rounding.onGrid? (r : Rounding) (power : Int) : Option Nat :=
  let n := r.value * Nat.pow 2 r.exponent.toNat * Nat.pow 10 (-power).toNat
  let d := Nat.pow 2 (-r.exponent).toNat * Nat.pow 10 power.toNat
  let below := n / d
  let near := divHalfEven n d
  let far := if near = below then below + 1 else below
  if r.holds near power then some near
  else if r.holds far power then some far
  else none

def Rounding.shortest (r : Rounding) : Nat → Int → Nat × Int
  | 0, power => ((r.onGrid? power).getD 0, power)
  | fuel + 1, power =>
    match r.onGrid? power with
    | some digits => (digits, power)
    | none => r.shortest fuel (power - 1)

def shortestDecimal (b : Binary64) : Nat × Int :=
  let (n, d) := b.ratio
  let magnitude : Int :=
    if d ≤ n then ((toString (n / d)).length : Int) else 1 - ((toString (d / n)).length : Int)
  (Rounding.of b).shortest 20 (magnitude + 1)

def positional (digits : Nat) (power : Int) : String :=
  let ds := Nat.toDigits 10 digits
  if 0 ≤ power then
    String.ofList (ds ++ List.replicate power.toNat '0') ++ ".0"
  else
    let places := (-power).toNat
    let padded := List.replicate (places + 1 - ds.length) '0' ++ ds
    String.ofList (padded.take (padded.length - places)) ++ "." ++
      String.ofList (padded.drop (padded.length - places))

def exponentText (n : Int) : String :=
  (if n < 0 then "-" else "+") ++ (if n.natAbs < 10 then "0" else "") ++ toString n.natAbs

/-- One digit before the point, which is left out if no digit follows it, and a power of ten. -/
def scientific (digits : List Char) (exponent : Int) : String :=
  let fraction := digits.drop 1
  String.ofList (digits.take 1 ++ if fraction.isEmpty then [] else '.' :: fraction)
    ++ "e" ++ exponentText exponent

/-- From `0.00001` to below `10 ^ 16` values are written out in full. -/
def Binary64.text (b : Binary64) : String :=
  if b.mantissa = 0 then "0.0"
  else
    let (digits, power) := shortestDecimal b
    let ds := Nat.toDigits 10 digits
    let exponent := power + ds.length - 1
    if -5 ≤ exponent ∧ exponent < 16 then positional digits power else scientific ds exponent

end WorkloadScan.Number
