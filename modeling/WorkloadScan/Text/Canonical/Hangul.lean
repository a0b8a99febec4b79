/-! The syllables of Hangul: a leading consonant and a vowel make one, and it may take a trailing
consonant. -/
namespace WorkloadScan.Text.Canonical.Hangul

abbrev firstSyllable : Nat := 0xac00

def isSyllable (n : Nat) : Bool := firstSyllable ≤ n && n < firstSyllable + 19 * 21 * 28

def halves? (c : Char) : Option (Char × Char) :=
  if isSyllable c.toNat then
    let i := c.toNat - firstSyllable
    if i % 28 = 0 then
      some (Char.ofNat (0x1100 + i / (21 * 28)), Char.ofNat (0x1161 + i % (21 * 28) / 28))
    else some (Char.ofNat (c.toNat - i % 28), Char.ofNat (0x11a7 + i % 28))
  else none

def syllable? (first second : Char) : Option Char :=
  let a := first.toNat
  let b := second.toNat
  if 0x1100 ≤ a && a < 0x1100 + 19 && 0x1161 ≤ b && b < 0x1161 + 21 then
    some (Char.ofNat (firstSyllable + ((a - 0x1100) * 21 + (b - 0x1161)) * 28))
  else if isSyllable a && (a - firstSyllable) % 28 == 0 && 0x11a7 < b && b < 0x11a7 + 28 then
    some (Char.ofNat (a + (b - 0x11a7)))
  else none

end WorkloadScan.Text.Canonical.Hangul
