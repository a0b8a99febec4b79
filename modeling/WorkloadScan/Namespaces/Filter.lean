import WorkloadScan.Namespaces.Pattern

/-! Which namespaces a target takes resources from. -/
namespace WorkloadScan.Namespaces

structure Filter where
  included : List Pattern
  excluded : List Pattern
  deriving DecidableEq, Repr

namespace Filter

def ofTexts (included excluded : List String) : Filter :=
  ⟨included.map Pattern.read, excluded.map Pattern.read⟩

/-- A resource outside every namespace is always admitted. If there are patterns to include, one
of them has to match; otherwise none of those to exclude may. -/
def admits (f : Filter) : Option String → Bool
  | none => true
  | some ns =>
    if f.included.isEmpty then !f.excluded.any (·.accepts ns) else f.included.any (·.accepts ns)

def invalidPatterns (f : Filter) : List Pattern.Invalid :=
  (f.included ++ f.excluded).filterMap Pattern.error?

def debug (f : Filter) : String :=
  "NamespaceFilter \x7b include: " ++ Text.bracketed (f.included.map Pattern.debug)
    ++ ", exclude: " ++ Text.bracketed (f.excluded.map Pattern.debug) ++ " \x7d"

@[simp] theorem admits_none (f : Filter) : f.admits none = true := rfl

end Filter
end WorkloadScan.Namespaces
