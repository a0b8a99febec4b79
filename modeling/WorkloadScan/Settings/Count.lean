import WorkloadScan.Text.Ascii

/-! Positive numbers of 64 bits. -/
namespace WorkloadScan.Settings

inductive Count.Fault where
  | empty
  | badDigit
  | tooLarge
  | zero
  deriving DecidableEq, Repr

def Count.Fault.message : Count.Fault → String
  | .empty => "cannot parse integer from empty string"
  | .badDigit => "invalid digit found in string"
  | .tooLarge => "number too large to fit in target type"
  | .zero => "number would be zero for non-zero type"

namespace Count

/-- Reads digits after those of a number. The first fault from the left counts. -/
def digits (n : Nat) : List Char → Except Fault Nat
  | [] => .ok n
  | c :: rest =>
    if c.isDigit then
      let n := 10 * n + Text.digit c
      if n < 18446744073709551616 then digits n rest else .error .tooLarge
    else .error .badDigit

def unsigned : List Char → Except Fault Nat
  | [] => .error .empty
  | ['+'] => .error .badDigit
  | '+' :: cs => digits 0 cs
  | cs => digits 0 cs

def read (s : String) : Except Fault Nat := do
  match ← unsigned s.toList with
  | 0 => throw .zero
  | n => pure n

end Count
end WorkloadScan.Settings
