import WorkloadScan.Json.Basic
import WorkloadScan.Number.Scaled
import WorkloadScan.Text.Ascii

/-! Reading JSON text. -/
namespace WorkloadScan.Json
open WorkloadScan.Text (hexDigit? decimal)

def isSpace (c : Char) : Bool := c = ' ' || c = '\t' || c = '\n' || c = '\r'

def skipSpace (cs : List Char) : List Char := cs.dropWhile isSpace

def readHex4 : List Char → Option (Nat × List Char)
  | a :: b :: c :: d :: rest => do
    let a ← hexDigit? a
    let b ← hexDigit? b
    let c ← hexDigit? c
    let d ← hexDigit? d
    some (a * 4096 + b * 256 + c * 16 + d, rest)
  | _ => none

def unescaped? (c : Char) : Option Char :=
  if c = '"' || c = '\\' || c = '/' then some c
  else if c = 'b' then some '\x08'
  else if c = 'f' then some '\x0c'
  else if c = 'n' then some '\n'
  else if c = 'r' then some '\r'
  else if c = 't' then some '\t'
  else none

/-- The character after a `\u`: one unit, or two surrogate units. -/
def readUnicode (cs : List Char) : Option (Char × List Char) := do
  let (unit, rest) ← readHex4 cs
  if 0xd800 ≤ unit && unit < 0xdc00 then
    match rest with
    | '\\' :: 'u' :: rest =>
      let (second, rest) ← readHex4 rest
      if 0xdc00 ≤ second && second < 0xe000 then
        some (Char.ofNat (0x10000 + (unit - 0xd800) * 0x400 + (second - 0xdc00)), rest)
      else none
    | _ => none
  else if 0xdc00 ≤ unit && unit < 0xe000 then none
  else some (Char.ofNat unit, rest)

/-- The contents of a string up to the closing quote. Each round takes at least one character, so
fuel of the length of the text suffices. -/
def readChars : Nat → List Char → Option (List Char × List Char)
  | 0, _ => none
  | fuel + 1, cs =>
    match cs with
    | [] => none
    | c :: rest =>
      if c = '"' then some ([], rest)
      else if c = '\\' then
        match rest with
        | [] => none
        | e :: rest =>
          if e = 'u' then do
            let (c, rest) ← readUnicode rest
            let (s, rest) ← readChars fuel rest
            some (c :: s, rest)
          else do
            let c ← unescaped? e
            let (s, rest) ← readChars fuel rest
            some (c :: s, rest)
      else if c.toNat < 0x20 then none
      else do
        let (s, rest) ← readChars fuel rest
        some (c :: s, rest)

def readString (cs : List Char) : Option (String × List Char) := do
  let (s, rest) ← readChars cs.length cs
  some (String.ofList s, rest)

def floatOf (negative : Bool) (whole fraction : List Char) (power : Int) : Option Numeral :=
  (Number.Scaled.ofDigits whole fraction power).value?.map (.float negative)

/-- A number without fraction and exponent is whole if it fits; minus zero is not whole. -/
def wholeOf (negative : Bool) (digits : List Char) : Option Numeral :=
  let n := decimal digits
  if negative then
    if n ≠ 0 ∧ n ≤ 9223372036854775808 then some (.integer (-n)) else floatOf true digits [] 0
  else if n < Number.Scaled.limit then some (.integer n)
  else floatOf false digits [] 0

def readExponent (cs : List Char) : Option (Option Int × List Char) :=
  match cs with
  | e :: rest =>
    if e = 'e' || e = 'E' then
      let (negative, rest) := match rest with
        | '+' :: rest => (false, rest)
        | '-' :: rest => (true, rest)
        | rest => (false, rest)
      let ds := rest.takeWhile Char.isDigit
      if ds.isEmpty then none
      else
        let n : Int := decimal ds
        some (some (if negative then -n else n), rest.dropWhile Char.isDigit)
    else some (none, cs)
  | [] => some (none, [])

def readNumber (cs : List Char) : Option (Numeral × List Char) := do
  let (negative, cs) := match cs with
    | '-' :: rest => (true, rest)
    | cs => (false, cs)
  let whole := cs.takeWhile Char.isDigit
  let rest := cs.dropWhile Char.isDigit
  if whole.isEmpty || (whole.head? == some '0' && 1 < whole.length) then none
  else
    let (fraction, rest) ← match rest with
      | '.' :: rest =>
        let ds := rest.takeWhile Char.isDigit
        if ds.isEmpty then none else some (ds, rest.dropWhile Char.isDigit)
      | rest => some ([], rest)
    let (exponent, rest) ← readExponent rest
    match fraction, exponent with
    | [], none => (wholeOf negative whole).map (·, rest)
    | _, _ => (floatOf negative whole fraction (exponent.getD 0)).map (·, rest)

def dropWord : List Char → List Char → Option (List Char)
  | [], cs => some cs
  | w :: ws, c :: cs => if w = c then dropWord ws cs else none
  | _ :: _, [] => none

mutual

/-- One value after white space, and the rest. The fuel bounds the nesting and the length. -/
def readValue : Nat → List Char → Option (Json × List Char)
  | 0, _ => none
  | fuel + 1, cs =>
    match skipSpace cs with
    | [] => none
    | c :: rest =>
      if c = '"' then (readString rest).map fun (s, rest) => (.string s, rest)
      else if c = '\x7b' then
        match skipSpace rest with
        | '\x7d' :: rest => some (.object [], rest)
        | rest => (readFields fuel rest).map fun (fields, rest) => (.object fields, rest)
      else if c = '[' then
        match skipSpace rest with
        | ']' :: rest => some (.array [], rest)
        | rest => (readItems fuel rest).map fun (items, rest) => (.array items, rest)
      else if c = 't' then (dropWord "rue".toList rest).map (.bool true, ·)
      else if c = 'f' then (dropWord "alse".toList rest).map (.bool false, ·)
      else if c = 'n' then (dropWord "ull".toList rest).map (.null, ·)
      else (readNumber (c :: rest)).map fun (n, rest) => (.number n, rest)

def readItems : Nat → List Char → Option (List Json × List Char)
  | 0, _ => none
  | fuel + 1, cs => do
    let (v, rest) ← readValue fuel cs
    match skipSpace rest with
    | ',' :: rest =>
      let (vs, rest) ← readItems fuel rest
      some (v :: vs, rest)
    | ']' :: rest => some ([v], rest)
    | _ => none

def readFields : Nat → List Char → Option (List (String × Json) × List Char)
  | 0, _ => none
  | fuel + 1, cs =>
    match skipSpace cs with
    | '"' :: rest => do
      let (name, rest) ← readString rest
      match skipSpace rest with
      | ':' :: rest =>
        let (v, rest) ← readValue fuel rest
        match skipSpace rest with
        | ',' :: rest =>
          let (fields, rest) ← readFields fuel rest
          some ((name, v) :: fields, rest)
        | '\x7d' :: rest => some ([(name, v)], rest)
        | _ => none
      | _ => none
    | _ => none

end

def readChars? (cs : List Char) : Option Json := do
  let (v, rest) ← readValue (2 * cs.length + 1) cs
  if (skipSpace rest).isEmpty then some v else none

def read? (s : String) : Option Json := readChars? s.toList

end WorkloadScan.Json
