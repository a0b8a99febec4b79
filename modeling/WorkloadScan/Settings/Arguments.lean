import WorkloadScan.Settings.Parameter

/-! Settings read from the words of a command line and from the environment.

A parameter is given as `--name=value` or as `--name value`. In the second form the value is looked
at only when the next parameter comes or the words end, so a fault of a later word may be found
first. -/
namespace WorkloadScan.Settings.Arguments

inductive Fault where
  /-- A word that is no parameter and no value of one. -/
  | unknownArgument
  | missingValue
  /-- A value for a flag. -/
  | surplusValue
  | repeated
  | badValue (fault : Parameter.Fault)
  deriving DecidableEq, Repr

def Fault.message : Fault → String
  | .unknownArgument => "unexpected argument found"
  | .missingValue => "a value is required but none was supplied"
  | .surplusValue => "unexpected value for an argument that takes none"
  | .repeated => "an argument cannot be used multiple times"
  | .badValue fault => fault.message

/-- The settings so far, the parameters that were given, and one whose value is still to be looked
at, with the value if it has come. -/
structure Progress where
  settings : Settings := {}
  given : List Parameter := []
  pending : Option (Parameter × Option String) := none
  deriving DecidableEq, Repr

namespace Progress

/-- Gives a parameter its value. All but lists may be given once only. -/
def assign (g : Progress) (p : Parameter) (text : String) : Except Fault Progress := do
  if p ∈ g.given && !p.isList then throw .repeated
  if p.needsText && text.isEmpty then throw .missingValue
  let settings ← (p.set g.settings text).mapError .badValue
  pure { g with settings, given := p :: g.given }

def resolve (g : Progress) : Except Fault Progress :=
  match g.pending with
  | none => .ok g
  | some (p, some text) => { g with pending := none }.assign p text
  | some (_, none) => .error .missingValue

def give (g : Progress) (p : Parameter) (value : Option String) : Except Fault Progress :=
  match value, p.isFlag with
  | some _, true => .error .surplusValue
  | some text, false => do (← g.resolve).assign p text
  | none, true => do (← g.resolve).assign p ""
  | none, false => do pure { ← g.resolve with pending := some (p, none) }

/-- A word that is not a parameter is the value of the last one, if that still needs one. -/
def takeWord (g : Progress) (word : String) : Except Fault Progress :=
  match g.pending with
  | some (p, none) => .ok { g with pending := some (p, some word) }
  | _ => .error .unknownArgument

end Progress

def nameAndValue (cs : List Char) : String × Option String :=
  match cs.span (· ≠ '=') with
  | (name, _ :: value) => (String.ofList name, some (String.ofList value))
  | (name, []) => (String.ofList name, none)

/-- After two dashes alone no word has a place any more. -/
def readWords : List String → Progress → Except Fault Progress
  | [], g => g.resolve
  | word :: rest, g =>
    match word.toList with
    | ['-', '-'] => if rest.isEmpty then g.resolve else .error .unknownArgument
    | '-' :: '-' :: cs =>
      let (name, value) := nameAndValue cs
      match Parameter.named? name with
      | none => .error .unknownArgument
      | some p => (g.give p value).bind (readWords rest)
    | '-' :: _ :: _ => .error .unknownArgument
    | _ => (g.takeWord word).bind (readWords rest)

/-- Variables of the environment count for parameters that the words do not give. -/
def readVariables (env : String → Option String) : List Parameter → Progress → Except Fault Progress
  | [], g => .ok g
  | p :: rest, g =>
    match if p ∈ g.given then none else p.envVar?.bind env with
    | none => readVariables env rest g
    | some text => (g.assign p text).bind (readVariables env rest)

def read (words : List String) (env : String → Option String) : Except Fault Settings := do
  pure (← readVariables env Parameter.all (← readWords words {})).settings

end WorkloadScan.Settings.Arguments
