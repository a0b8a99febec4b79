/-! Finite non-negative binary64 values, and rounding to them in exact integer arithmetic.
A ratio rounds to the nearest value, and of two equally near ones to the one with the even
mantissa. -/
namespace WorkloadScan.Number

/-- The integer nearest to `n / d`; a half goes to the even neighbour. -/
def divHalfEven (n d : Nat) : Nat :=
  let q := n / d
  let r := 2 * (n % d)
  if r < d then q
  else if d < r then q + 1
  else if q % 2 = 0 then q else q + 1

theorem divHalfEven_near (n d : Nat) (h : 0 < d) :
    2 * n ≤ 2 * (divHalfEven n d * d) + d ∧ 2 * (divHalfEven n d * d) ≤ 2 * n + d := by
  have e := Nat.div_add_mod n d
  have l := Nat.mod_lt n h
  have c : d * (n / d) = n / d * d := Nat.mul_comm _ _
  simp only [divHalfEven]
  split
  · omega
  · split
    · rw [Nat.add_mul]
      omega
    · split
      · omega
      · rw [Nat.add_mul]
        omega

/-- The value `mantissa * 2 ^ exponent`. -/
structure Binary64 where
  mantissa : Nat
  exponent : Int
  deriving DecidableEq, Repr

namespace Binary64

def zero : Binary64 := ⟨0, 0⟩

def ratio (b : Binary64) : Nat × Nat :=
  (b.mantissa * Nat.pow 2 b.exponent.toNat, Nat.pow 2 (-b.exponent).toNat)

def inUnits (n d : Nat) (e : Int) : Nat × Nat :=
  (n * Nat.pow 2 (-e).toNat, d * Nat.pow 2 e.toNat)

abbrev leastNormal : Nat := 4503599627370496

/-- The exponent of the unit in the last place for `n / d`: the ratio then lies between
`2 ^ 52` and `2 ^ 53` units, or the unit is the smallest there is. -/
def unitExponent (n d : Nat) : Int :=
  let e := (n.log2 : Int) - d.log2 - 52
  let (a, b) := inUnits n d e
  max (-1074) (if a < b * leastNormal then e - 1 else e)

/-- The value nearest to `n / d`, or none if that is past the largest finite value. -/
def ofRatio? (n d : Nat) : Option Binary64 :=
  if n = 0 then some zero
  else
    let e := unitExponent n d
    let (a, b) := inUnits n d e
    let m := divHalfEven a b
    let r : Binary64 := if m = 2 * leastNormal then ⟨leastNormal, e + 1⟩ else ⟨m, e⟩
    if r.exponent ≤ 971 then some r else none

def mul? (x y : Binary64) : Option Binary64 :=
  ofRatio? (x.ratio.1 * y.ratio.1) (x.ratio.2 * y.ratio.2)

def div? (x y : Binary64) : Option Binary64 :=
  if y.mantissa = 0 then none else ofRatio? (x.ratio.1 * y.ratio.2) (x.ratio.2 * y.ratio.1)

def parts (b : Binary64) (per : Nat) : Nat := divHalfEven (b.ratio.1 * per) b.ratio.2

end Binary64
end WorkloadScan.Number
