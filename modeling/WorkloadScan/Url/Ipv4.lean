import WorkloadScan.Text.Ascii
import WorkloadScan.Text.Split

/-! Addresses of up to four numbers with points between them. A number is decimal, octal with a
leading zero, or hexadecimal after `0x`. The last number fills all bytes that are left. -/
namespace WorkloadScan.Url.Ipv4

def isOctalDigit (c : Char) : Bool := '0' ≤ c && c ≤ '7'

def isHexDigit (c : Char) : Bool := (Text.hexDigit? c).isSome

def inBase (base : Nat) (cs : List Char) : Nat :=
  cs.foldl (fun n c => base * n + (Text.hexDigit? c).getD 0) 0

/-- A number; digits may be missing after what tells the base, and the number is zero then. -/
def number? : List Char → Option Nat
  | [] => none
  | '0' :: 'x' :: cs | '0' :: 'X' :: cs =>
    if cs.all isHexDigit then some (inBase 16 cs) else none
  | '0' :: c :: cs => if (c :: cs).all isOctalDigit then some (inBase 8 (c :: cs)) else none
  | cs => if cs.all Char.isDigit then some (inBase 10 cs) else none

def parts (cs : List Char) : List (List Char) :=
  let parts := Text.split (· == '.') cs
  if 1 < parts.length && parts.getLast? == some [] then parts.dropLast else parts

def looksNumeric (part : List Char) : Bool :=
  !part.isEmpty && part.all Char.isDigit || (number? part).isSome

/-- A host whose last part is a number is an address or nothing. -/
def endsInNumber (cs : List Char) : Bool := (parts cs).getLast?.any looksNumeric

def combine (numbers : List Nat) : Option Nat :=
  match numbers.reverse with
  | [] => none
  | last :: bytes =>
    let places := 4 - bytes.length
    if bytes.length ≤ 3 && bytes.all (· < 256) && last < Nat.pow 256 places then
      some (bytes.reverse.foldl (fun n b => 256 * n + b) 0 * Nat.pow 256 places + last)
    else none

def read? (cs : List Char) : Option Nat := ((parts cs).mapM number?).bind combine

end WorkloadScan.Url.Ipv4
