import WorkloadScan.Text.Ascii

/-! Bytes written as a percent sign and two hexadecimal digits. -/
namespace WorkloadScan.Url.Percent

def byteValue? (c : Char) : Option UInt8 := (Text.hexDigit? c).map (·.toUInt8)

def charOf (b : UInt8) : Char := Char.ofNat b.toNat

/-- Reads the written bytes. A percent sign without two digits stands for itself. -/
def decode : List UInt8 → List UInt8
  | 0x25 :: a :: b :: rest =>
    match byteValue? (charOf a), byteValue? (charOf b) with
    | some high, some low => (16 * high + low) :: decode rest
    | _, _ => 0x25 :: decode (a :: b :: rest)
  | b :: rest => b :: decode rest
  | [] => []

def decodeText? (cs : List Char) : Option (List Char) :=
  (String.fromUTF8? ⟨(decode (String.ofList cs).toUTF8.toList).toArray⟩).map String.toList

def upperHex (n : Nat) : Char := (Nat.digitChar n).toUpper

def encodeByte (b : UInt8) : List Char :=
  ['%', upperHex (b.toNat / 16), upperHex (b.toNat % 16)]

def isControl (c : Char) : Bool := c.toNat < 0x20 || c.toNat == 0x7f

def encodeChar (reserved : List Char) (c : Char) : List Char :=
  if 0x80 ≤ c.toNat || isControl c || c ∈ reserved then
    (String.ofList [c]).toUTF8.toList.flatMap encodeByte
  else [c]

def encode (reserved : List Char) (cs : List Char) : List Char := cs.flatMap (encodeChar reserved)

end WorkloadScan.Url.Percent
