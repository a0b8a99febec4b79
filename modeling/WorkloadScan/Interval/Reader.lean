import WorkloadScan.Interval.Basic
import WorkloadScan.Number.Binary64
import WorkloadScan.Text.Ascii
import WorkloadScan.Text.Blank
import WorkloadScan.Text.Letter
import WorkloadScan.Text.Quoted

/-! Reading intervals: `10s`, `1h30m`, `1.5h`. -/
namespace WorkloadScan.Interval
open WorkloadScan.Number (Binary64)

inductive NumberFault where
  | empty
  | malformed
  deriving DecidableEq, Repr

inductive Fault where
  | invalidUnit (text : String)
  | noUnit
  | negative
  | notANumber (fault : NumberFault)
  | overflow
  deriving DecidableEq, Repr

def expectedUnits : String := "expected one of 'ns', 'us', '\u00b5s', 'ms', 's', 'm', or 'h'"

def NumberFault.message : NumberFault → String
  | .empty => "cannot parse float from empty string"
  | .malformed => "invalid float literal"

def Fault.message : Fault → String
  | .invalidUnit text => "invalid unit " ++ Text.quoted text ++ ": " ++ expectedUnits
  | .noUnit => "missing a unit: " ++ expectedUnits
  | .negative => "negative durations are not supported"
  | .notANumber fault => "invalid number: " ++ fault.message
  | .overflow => "duration is too large"

/-- The units and their lengths in nanoseconds. The first `µ` is the micro sign and the second
the Greek letter. -/
def unitNanos? (unit : List Char) : Option Nat :=
  if unit = ['n', 's'] then some 1
  else if unit = ['u', 's'] || unit = ['\u00b5', 's'] || unit = ['\u03bc', 's'] then some 1000
  else if unit = ['m', 's'] then some 1000000
  else if unit = ['s'] then some 1000000000
  else if unit = ['m'] then some (60 * 1000000000)
  else if unit = ['h'] then some (3600 * 1000000000)
  else none

/-- A signed decimal: `digits / 10 ^ places`. -/
structure Decimal where
  negative : Bool
  digits : Nat
  places : Nat
  deriving DecidableEq, Repr

/-- Digits with at most one point among them, and at least one digit. -/
def readUnsignedDecimal (negative : Bool) (cs : List Char) : Except NumberFault Decimal :=
  let whole := cs.takeWhile Char.isDigit
  match cs.dropWhile Char.isDigit with
  | [] =>
    if whole.isEmpty then .error .malformed else .ok ⟨negative, Text.decimal whole, 0⟩
  | '.' :: fraction =>
    if fraction.all Char.isDigit && !(whole.isEmpty && fraction.isEmpty) then
      .ok ⟨negative, Text.decimal (whole ++ fraction), fraction.length⟩
    else .error .malformed
  | _ => .error .malformed

def readDecimal : List Char → Except NumberFault Decimal
  | [] => .error .empty
  | '-' :: cs => readUnsignedDecimal true cs
  | '+' :: cs => readUnsignedDecimal false cs
  | cs => readUnsignedDecimal false cs

structure Component where
  value : List Char
  unit : List Char
  deriving DecidableEq, Repr

/-- Cuts a text before each number: a component ends with the last letter of its unit. -/
def components : List Char → List Component
  | [] => []
  | c :: cs =>
    match components cs with
    | [] => if Text.isLetter c then [⟨[], [c]⟩] else [⟨[c], []⟩]
    | k :: ks =>
      if Text.isLetter c then
        if k.value.isEmpty then ⟨[], c :: k.unit⟩ :: ks else ⟨[], [c]⟩ :: k :: ks
      else ⟨c :: k.value, k.unit⟩ :: ks

/-- The length in nanoseconds of so many units. The number, the unit in seconds and their product
are rounded to binary64 each, and the product to nanoseconds. -/
def componentNanos? (value : Decimal) (unit : Nat) : Option Nat := do
  let x ← Binary64.ofRatio? value.digits (Nat.pow 10 value.places)
  let u ← Binary64.ofRatio? unit 1000000000
  let p ← u.mul? x
  some (p.parts 1000000000)

def readComponent (k : Component) : Except Fault Interval := do
  if k.unit.isEmpty then throw .noUnit
  let value ← (readDecimal k.value).mapError .notANumber
  if value.negative then throw .negative
  match unitNanos? k.unit with
  | none => throw (.invalidUnit (String.ofList k.unit))
  | some unit =>
    match (componentNanos? value unit).bind ofNanos? with
    | none => throw .overflow
    | some d => pure d

def addComponent (total : Interval) (k : Component) : Except Fault Interval := do
  let d ← readComponent k
  match total.add? d with
  | none => throw .overflow
  | some sum => pure sum

def readUnsigned (cs : List Char) : Except Fault Interval :=
  if cs = ['0'] then .ok zero
  else if cs.isEmpty then .error .noUnit
  else (components cs).foldlM addComponent zero

/-- A leading minus is allowed before a bare zero only. -/
def readChars : List Char → Except Fault Interval
  | '-' :: cs => if cs = ['0'] then .ok zero else .error .negative
  | '+' :: cs => readUnsigned cs
  | cs => readUnsigned cs

def read (s : String) : Except Fault Interval := readChars (Text.trim s.toList)

end WorkloadScan.Interval
