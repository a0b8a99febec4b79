import WorkloadScan.Namespaces.Glob
import WorkloadScan.Text.Ascii
import WorkloadScan.Text.Quoted

/-! Patterns for namespace names. -/
namespace WorkloadScan.Namespaces

inductive Pattern.Fault where
  | empty
  | badCharacter
  deriving DecidableEq, Repr

def Pattern.Fault.reason : Pattern.Fault → String
  | .empty => "empty pattern"
  | .badCharacter => "expected lowercase alphanumerics, '-', '*', or '?'"

structure Pattern.Invalid where
  text : String
  fault : Pattern.Fault
  deriving DecidableEq, Repr

def Pattern.Invalid.message (e : Pattern.Invalid) : String :=
  "invalid namespace pattern " ++ Text.quoted e.text ++ ": " ++ e.fault.reason

/-- An invalid pattern is kept and matches nothing, so that it does not vanish from its list. -/
inductive Pattern where
  | glob (text : String)
  | invalid (error : Pattern.Invalid)
  deriving DecidableEq, Repr

namespace Pattern

def isPatternChar (c : Char) : Bool :=
  Text.isLowerOrDigit c || c == '-' || c == '*' || c == '?'

def read (s : String) : Pattern :=
  if s.isEmpty then .invalid ⟨s, .empty⟩
  else if s.toList.all isPatternChar then .glob s
  else .invalid ⟨s, .badCharacter⟩

def accepts : Pattern → String → Bool
  | .glob p, ns => Glob.accepts p.toList ns.toList
  | .invalid _, _ => false

def error? : Pattern → Option Invalid
  | .glob _ => none
  | .invalid e => some e

/-- The characters of a glob; of adjacent stars one is kept. -/
def simplified : List Char → List Char
  | '*' :: '*' :: p => simplified ('*' :: p)
  | c :: p => c :: simplified p
  | [] => []

def debug : Pattern → String
  | .glob p =>
    "Glob(WildMatchPattern \x7b pattern: "
      ++ Text.bracketed ((simplified p.toList).map fun c => String.ofList ['\'', c, '\''])
      ++ ", case_insensitive: false \x7d)"
  | .invalid e =>
    "Invalid(InvalidPattern \x7b pattern: " ++ Text.quoted e.text ++ ", reason: "
      ++ Text.quoted e.fault.reason ++ " \x7d)"

end Pattern
end WorkloadScan.Namespaces
