import WorkloadScan.Namespaces.Filter

/-! What a tenant asks for: where scans of its resources go. -/
namespace WorkloadScan.Target

structure Spec where
  endpoint : String := ""
  token : String := ""
  integrationId : String := ""
  included : List String := []
  excluded : List String := []
  deriving DecidableEq, Repr, Inhabited

namespace Spec

def filter (s : Spec) : Namespaces.Filter := .ofTexts s.included s.excluded

/-- A token is a secret: only whether there is one may be shown. -/
def redacted (token : String) : String := if token.isEmpty then "" else "<redacted>"

def shownToken (s : Spec) : String := redacted s.token

def debug (s : Spec) : String :=
  "TargetSpec \x7b endpoint: " ++ Text.quoted s.endpoint
    ++ ", token: " ++ Text.quoted s.shownToken
    ++ ", integration_id: " ++ Text.quoted s.integrationId
    ++ ", namespaces: " ++ Text.bracketed (s.included.map Text.quoted)
    ++ ", namespaces_exclude: " ++ Text.bracketed (s.excluded.map Text.quoted) ++ " \x7d"

def listed (items : List String) : String :=
  if items.isEmpty then "[]"
  else "[\n" ++ String.join (items.map fun s => "        " ++ Text.quoted s ++ ",\n") ++ "    ]"

def debugLines (s : Spec) : String :=
  let line (name value : String) := "    " ++ name ++ ": " ++ value ++ ",\n"
  "TargetSpec \x7b\n"
    ++ line "endpoint" (Text.quoted s.endpoint)
    ++ line "token" (Text.quoted s.shownToken)
    ++ line "integration_id" (Text.quoted s.integrationId)
    ++ line "namespaces" (listed s.included)
    ++ line "namespaces_exclude" (listed s.excluded)
    ++ "\x7d"

end Spec
end WorkloadScan.Target
