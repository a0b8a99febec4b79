import WorkloadScan.Settings.FieldPattern
import WorkloadScan.Text.Split

/-! Which log records are shown: directives with commas between them, each of them a level, or a
source of records, a span in brackets, or both, with a level after an equals sign. -/
namespace WorkloadScan.Settings

inductive LogFilter.Fault where
  | malformed
  | badLevel
  | field (fault : FieldPattern.Fault)
  deriving DecidableEq, Repr

def LogFilter.Fault.message : LogFilter.Fault → String
  | .malformed => "invalid filter directive"
  | .badLevel => "error parsing level filter: expected one of \"off\", \"error\", \"warn\", "
      ++ "\"info\", \"debug\", \"trace\", or a number 0-5"
  | .field fault => "invalid field filter: " ++ fault.message

namespace LogFilter

def levelNames : List String := ["off", "error", "warn", "info", "debug", "trace"]

/-- A number up to five, perhaps with a plus sign. -/
def isLevelNumber (cs : List Char) : Bool :=
  let digits := match cs with
    | '+' :: rest => rest
    | cs => cs
  !digits.isEmpty && digits.all Char.isDigit && Text.decimal digits ≤ 5

/-- A level has a name or a number. A missing level is all right. -/
def isLevel (cs : List Char) : Bool :=
  cs.isEmpty || levelNames.any (·.toList == cs.map Char.toLower) || isLevelNumber cs

def checkLevel (cs : List Char) : Except Fault Unit :=
  if isLevel cs then .ok () else .error .badLevel

def size (cs : List Char) : Nat := (String.ofList cs).utf8ByteSize

def splitBytes : Nat → List Char → List Char × List Char
  | _, [] => ([], [])
  | n, c :: cs =>
    if n = 0 then ([], c :: cs)
    else
      let (first, rest) := splitBytes (n - c.utf8Size) cs
      (c :: first, rest)

/-- The name of a field, perhaps with an equals sign and a value after it. A second equals sign
ends the value. -/
def checkField (cs : List Char) : Except Fault Unit :=
  match Text.split (· == '=') cs with
  | _ :: value :: _ => (FieldPattern.check value).mapError .field
  | _ => .ok ()

/-- A directive as it stands and without the blanks around it. Its parts are looked for in the
second text, but a level or a field is then taken from the same place of the first: blanks before a
directive, or after its level, spoil the level. -/
structure Directive where
  raw : List Char
  trimmed : List Char

namespace Directive

def of (raw : List Char) : Directive := ⟨raw, Text.trim raw⟩

/-- What stands in the text as it is where the trimmed one has `rest` left. -/
def rawRest (d : Directive) (rest : List Char) : List Char :=
  (splitBytes (size d.trimmed - size rest) d.raw).2

def checkLevel (d : Directive) (level : List Char) : Except Fault Unit :=
  LogFilter.checkLevel (d.rawRest level)

def checkAfterSpan (d : Directive) : List Char → Except Fault Unit
  | [] => .ok ()
  | '=' :: level => d.checkLevel level
  | _ => .error .malformed

def checkFields (d : Directive) (cs : List Char) : Except Fault Unit :=
  match cs.span (· ≠ '\x7d') with
  | (c :: field, _ :: rest) => do
    checkField (splitBytes (size (c :: field)) (d.rawRest cs)).1
    match rest with
    | ']' :: rest => d.checkAfterSpan rest
    | _ => throw .malformed
  | _ => .error .malformed

def checkSpan (d : Directive) (cs : List Char) : Except Fault Unit :=
  match cs.dropWhile fun c => c ≠ ']' && c ≠ '\x7b' with
  | ']' :: rest => d.checkAfterSpan rest
  | '\x7b' :: rest => d.checkFields rest
  | _ => .error .malformed

def startsSource (c : Char) : Bool :=
  Text.isLetterOrNumeral c || c == '-' || c == ':' || c == '_'

def checkAfterSource (d : Directive) (cs : List Char) : Except Fault Unit :=
  match cs.dropWhile fun c => c ≠ '=' && c ≠ '[' with
  | '=' :: level => d.checkLevel level
  | '[' :: rest => d.checkSpan rest
  | _ => .ok ()

def check (d : Directive) : Except Fault Unit :=
  match d.trimmed with
  | '[' :: rest => d.checkSpan rest
  | c :: rest => if startsSource c then d.checkAfterSource rest else .error .malformed
  | [] => .error .malformed

end Directive

def check (s : String) : Except Fault Unit :=
  ((Text.split (· == ',') s.toList).filter (!·.isEmpty)).forM fun raw => (Directive.of raw).check

end LogFilter
end WorkloadScan.Settings
