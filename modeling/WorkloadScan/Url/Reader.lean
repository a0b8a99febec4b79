import WorkloadScan.Url.Host

/-! URLs. Some schemes are of the internet: their URLs always have a host, and a backslash is a
slash for them. -/
namespace WorkloadScan

structure Url where
  scheme : String
  host : Option Url.Host
  port : Option Nat
  /-- What follows host and port, as it is written. -/
  rest : List Char
  deriving DecidableEq, Repr

namespace Url

def endsAuthority (internet : Bool) (c : Char) : Bool :=
  c == '/' || c == '?' || c == '#' || internet && c == '\\'

/-- A host ends before a colon that is not in brackets. -/
def takeHost (internet inBrackets : Bool) : List Char → List Char × List Char
  | [] => ([], [])
  | c :: rest =>
    if endsAuthority internet c || !inBrackets && c == ':' then ([], c :: rest)
    else
      let (host, after) := takeHost internet (c == '[' || inBrackets && c != ']') rest
      (c :: host, after)

def takePort : List Char → Except Fault (Option Nat × List Char)
  | ':' :: cs =>
    let digits := cs.takeWhile Char.isDigit
    let rest := cs.dropWhile Char.isDigit
    let port := Text.decimal digits
    if 65535 < port || !rest.head?.all (endsAuthority true) then .error .badPort
    else .ok (if digits.isEmpty then none else some port, rest)
  | cs => .ok (none, cs)

def takeUser (internet : Bool) (cs : List Char) : Except Fault (Bool × List Char) :=
  let authority := cs.takeWhile (!endsAuthority internet ·)
  match Text.cutAtLast '@' authority with
  | none => .ok (false, cs)
  | some (user, _) =>
    let rest := cs.drop (user.length + 1)
    if user.isEmpty && rest.head?.any (endsAuthority internet) then .error .emptyHost
    else .ok (!user.isEmpty && user ≠ [':'], rest)

def readInternetAuthority (scheme : String) (cs : List Char) : Except Fault Url := do
  let (_, cs) ← takeUser true cs
  let (host, cs) := takeHost true false cs
  if host.isEmpty then throw .emptyHost
  let host ← Host.read host
  let (port, rest) ← takePort cs
  pure { scheme, host, port, rest }

def readAuthority (scheme : String) (cs : List Char) : Except Fault Url := do
  let (hasUser, cs) ← takeUser false cs
  let (hostText, cs) := takeHost false false cs
  let host ← Host.readAny hostText
  if hostText.isEmpty && cs.head? = some ':' then throw .emptyHost
  let (port, rest) ← takePort cs
  if hostText.isEmpty && hasUser then throw .emptyHost
  pure { scheme, host, port, rest }

def isSlash (c : Char) : Bool := c == '/' || c == '\\'

/-- A letter and a colon or a bar: a drive, and no host. -/
def isDrive : List Char → Bool
  | [c, d] => c.isAlpha && (d == ':' || d == '|')
  | _ => false

/-- A file has a host if two slashes come first. -/
def readFile (cs : List Char) : Except Fault Url :=
  match cs with
  | a :: b :: after =>
    let host := after.takeWhile (!endsAuthority true ·)
    if isSlash a && isSlash b && !host.isEmpty && !isDrive host then do
      pure { scheme := "file", host := ← Host.read host, port := none,
             rest := after.drop host.length }
    else .ok { scheme := "file", host := none, port := none, rest := cs }
  | _ => .ok { scheme := "file", host := none, port := none, rest := cs }

def isInternetScheme (scheme : String) : Bool :=
  ["http", "https", "ws", "wss", "ftp"].contains scheme

def readAfterScheme (scheme : String) (cs : List Char) : Except Fault Url :=
  if scheme = "file" then readFile cs
  else if isInternetScheme scheme then readInternetAuthority scheme (cs.dropWhile isSlash)
  else
    match cs with
    | '/' :: '/' :: cs => readAuthority scheme cs
    | _ => .ok { scheme, host := none, port := none, rest := cs }

def isSchemeChar (c : Char) : Bool := c.isAlphanum || c == '+' || c == '-' || c == '.'

def takeScheme? (cs : List Char) : Option (String × List Char) :=
  match cs.dropWhile isSchemeChar with
  | ':' :: rest =>
    let scheme := cs.takeWhile isSchemeChar
    if scheme.head?.any Char.isAlpha then some (String.ofList (scheme.map Char.toLower), rest)
    else none
  | _ => none

def isEdge (c : Char) : Bool := c.toNat ≤ 0x20

def isBreak (c : Char) : Bool := c == '\t' || c == '\n' || c == '\x0d'

/-- The text without controls and blanks around it, and without tabs and line breaks. -/
def cleaned (cs : List Char) : List Char :=
  (((cs.dropWhile isEdge).reverse.dropWhile isEdge).reverse).filter (!isBreak ·)

def read (s : String) : Except Fault Url :=
  match takeScheme? (cleaned s.toList) with
  | none => .error .relative
  | some (scheme, rest) => readAfterScheme scheme rest

end Url
end WorkloadScan
