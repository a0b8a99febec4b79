/-! Membership in a table of inclusive ranges. -/
namespace WorkloadScan.Text

/-- The ranges are in increasing order, so the search stops at the first one that ends past `n`. -/
def inRanges : List (Nat × Nat) → Nat → Bool
  | [], _ => false
  | (lo, hi) :: rest, n => if n ≤ hi then lo ≤ n else inRanges rest n

end WorkloadScan.Text
