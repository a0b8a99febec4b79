import WorkloadScan.Json.Writer
import WorkloadScan.Text.Quoted

/-! Decoding JSON values into typed ones. -/
namespace WorkloadScan.Json

inductive DecodeError where
  | wrongType (found : Json) (expected : String)
  | wrongLength (length : Nat) (expected : String)
  | missingField (name : String)
  | rejected (message : String)
  deriving Repr

/-- A value as messages name it: simple values are shown, lists and objects only named. -/
def describe : Json → String
  | .null => "null"
  | .bool true => "boolean `true`"
  | .bool false => "boolean `false`"
  | .number (.integer n) => "integer `" ++ toString n ++ "`"
  | .number n => "floating point `" ++ n.text ++ "`"
  | .string s => "string " ++ Text.quoted s
  | .array _ => "sequence"
  | .object _ => "map"

def DecodeError.message : DecodeError → String
  | .wrongType found expected => "invalid type: " ++ found.describe ++ ", expected " ++ expected
  | .wrongLength length expected =>
    "invalid length " ++ toString length ++ ", expected " ++ expected
  | .missingField name => "missing field `" ++ name ++ "`"
  | .rejected message => message

def asString : Json → Except DecodeError String
  | .string s => .ok s
  | j => .error (.wrongType j "a string")

def asBool : Json → Except DecodeError Bool
  | .bool b => .ok b
  | j => .error (.wrongType j "a boolean")

def asStrings : Json → Except DecodeError (List String)
  | .array items => items.mapM asString
  | j => .error (.wrongType j "a sequence")

def optional {α : Type} (decode : Json → Except DecodeError α) :
    Option Json → Except DecodeError (Option α)
  | none => .ok none
  | some j => (decode j).map some

def withDefault {α : Type} (default : α) (decode : Json → Except DecodeError α) (j : Option Json) :
    Except DecodeError α :=
  (optional decode j).map (·.getD default)

end WorkloadScan.Json
