import WorkloadScan.Interval.Basic
import WorkloadScan.Number.Binary64

/-! The text of an interval: a decimal number of the largest unit that leaves a whole part. -/
namespace WorkloadScan.Interval

structure Scale where
  nanos : Nat
  /-- The number of digits that the unit leaves after the point. -/
  places : Nat
  symbol : String
  deriving Repr

def seconds : Scale := ⟨1000000000, 9, "s"⟩
def millis : Scale := ⟨1000000, 6, "ms"⟩
def micros : Scale := ⟨1000, 3, "\u00b5s"⟩
def single : Scale := ⟨1, 0, "ns"⟩

def scaleOf (nanos : Nat) : Scale :=
  if seconds.nanos ≤ nanos then seconds
  else if millis.nanos ≤ nanos then millis
  else if micros.nanos ≤ nanos then micros
  else single

def fixedDigits : Nat → Nat → List Char
  | 0, _ => []
  | places + 1, n => fixedDigits places (n / 10) ++ [Nat.digitChar (n % 10)]

def dropTrailingZeros (ds : List Char) : List Char := (ds.reverse.dropWhile (· == '0')).reverse

def pointed (ds : List Char) : List Char := if ds.isEmpty then [] else '.' :: ds

def chars (nanos : Nat) : List Char :=
  let scale := scaleOf nanos
  Nat.toDigits 10 (nanos / scale.nanos)
    ++ pointed (dropTrailingZeros (fixedDigits scale.places (nanos % scale.nanos)))
    ++ scale.symbol.toList

def text (d : Interval) : String := String.ofList (chars d.nanos)

instance : ToString Interval := ⟨text⟩

/-- The text with a fixed number of digits after the point, rounded half to even. The unit is that
of the exact value, also where rounding reaches the next one. -/
def fixed (nanos precision : Nat) : List Char :=
  let scale := scaleOf nanos
  let places := min precision scale.places
  let n := Number.divHalfEven nanos (scale.nanos / Nat.pow 10 places)
  Nat.toDigits 10 (n / Nat.pow 10 places)
    ++ pointed
      (fixedDigits places (n % Nat.pow 10 places) ++ List.replicate (precision - places) '0')
    ++ scale.symbol.toList

def format (d : Interval) (precision width : Option Nat) : String :=
  let cs := match precision with
    | none => chars d.nanos
    | some p => fixed d.nanos p
  String.ofList (cs ++ List.replicate (width.getD 0 - cs.length) ' ')

end WorkloadScan.Interval
