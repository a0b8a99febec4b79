/-! Letters and digits of ASCII. Case is folded for these letters only. -/
namespace WorkloadScan.Text

def lower (s : String) : List Char := s.toList.map Char.toLower

def sameLetters (s t : String) : Bool := lower s == lower t

def isLowerOrDigit (c : Char) : Bool := c.isLower || c.isDigit

def digit (c : Char) : Nat := c.toNat - '0'.toNat

def decimal (cs : List Char) : Nat := cs.foldl (fun n c => 10 * n + digit c) 0

def hexDigit? (c : Char) : Option Nat :=
  if c.isDigit then some (c.toNat - '0'.toNat)
  else if 'a' ≤ c && c ≤ 'f' then some (c.toNat - 'a'.toNat + 10)
  else if 'A' ≤ c && c ≤ 'F' then some (c.toNat - 'A'.toNat + 10)
  else none

def hex (n : Nat) : List Char := Nat.toDigits 16 n

end WorkloadScan.Text
