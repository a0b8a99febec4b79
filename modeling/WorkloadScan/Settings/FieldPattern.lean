import WorkloadScan.Text.Ascii
import WorkloadScan.Text.Blank
import WorkloadScan.Text.Numeral

/-! Regular expressions that the value of a field has to match. Here it is only decided whether an
expression is well formed, and can be searched for.

The value of a field has no closing brace in it, so nothing that a brace opens is complete. -/
namespace WorkloadScan.Settings.FieldPattern

inductive Fault where
  | malformed
  /-- A boundary of words of any script, which the search cannot find. -/
  | wordBoundary
  deriving DecidableEq, Repr

def Fault.message : Fault → String
  | .malformed => "error building NFA"
  | .wordBoundary => "unsupported regex feature for DFAs: cannot build DFAs for regexes with "
      ++ "Unicode word boundaries; switch to ASCII word boundaries, or heuristically enable "
      ++ "Unicode word boundaries or use a different regex engine"

structure Mode where
  /-- Blanks do not count, nor does what comes after a hash sign on a line. -/
  isSpaced : Bool := false
  /-- Classes are classes of bytes, of which none may be a part of a character. -/
  isBytewise : Bool := false
  deriving DecidableEq, Repr

def skipBlanks (inComment : Bool) : List Char → List Char
  | [] => []
  | c :: cs =>
    if inComment then skipBlanks (c ≠ '\n') cs
    else if c = '#' then skipBlanks true cs
    else if Text.isBlank c then skipBlanks false cs
    else c :: cs

namespace Mode

def skip (m : Mode) (cs : List Char) : List Char := if m.isSpaced then skipBlanks false cs else cs

/-- The letters that change a mode, and the minus sign: letters after it are switched off. -/
def flagLetters : List Char := ['i', 'm', 's', 'U', 'u', 'R', 'x', '-']

/-- The mode that flags lead to. None is given twice, and something follows the minus sign. -/
def change? (m : Mode) (flags : List Char) : Option Mode :=
  if flags.all flagLetters.contains && decide flags.Nodup && flags.getLast? ≠ some '-' then
    let on := flags.takeWhile (· ≠ '-')
    some {
      isSpaced := if 'x' ∈ flags then decide ('x' ∈ on) else m.isSpaced
      isBytewise := if 'u' ∈ flags then decide ('u' ∉ on) else m.isBytewise }
  else none

end Mode

inductive Item where
  | literal (c : Char)
  /-- One of several characters. -/
  | oneOf (beyondAscii : Bool)
  | boundary
  /-- An end of the text, or a boundary of words of ASCII. -/
  | anchor
  deriving DecidableEq, Repr

def readHex (m : Mode) : Nat → Nat → List Char → Option (Nat × List Char)
  | 0, n, cs => some (n, cs)
  | k + 1, n, c :: cs => do readHex m k (16 * n + (← Text.hexDigit? c)) (m.skip cs)
  | _ + 1, _, [] => none

def readCode (m : Mode) (digits : Nat) (cs : List Char) : Option (Item × List Char) := do
  let (n, rest) ← readHex m digits 0 (m.skip cs)
  if n.isValidChar then some (.literal (Char.ofNat n), rest) else none

/-- A class of characters that has a letter for its name: control characters, letters, marks,
numbers, punctuation, symbols and separators. -/
def readProperty (m : Mode) (cs : List Char) : Option (Item × List Char) :=
  match m.skip cs with
  | c :: rest =>
    if !m.isBytewise && ['c', 'l', 'm', 'n', 'p', 's', 'z'].contains c.toLower then
      some (.oneOf true, m.skip rest)
    else none
  | [] => none

def boundaryIn (m : Mode) : Item := if m.isBytewise then .anchor else .boundary

/-- What comes after a backslash. Signs of ASCII then stand for themselves, letters have a meaning
of their own or none. -/
def readEscape (m : Mode) : List Char → Option (Item × List Char)
  | [] => none
  | 'x' :: cs => (readCode m 2 cs).filter fun
    | (.literal c, _) => !(m.isBytewise && 0x7f < c.toNat)
    | _ => true
  | 'u' :: cs => readCode m 4 cs
  | 'U' :: cs => readCode m 8 cs
  | 'a' :: cs => some (.literal '\x07', cs)
  | 'f' :: cs => some (.literal '\x0c', cs)
  | 'n' :: cs => some (.literal '\n', cs)
  | 'r' :: cs => some (.literal '\r', cs)
  | 't' :: cs => some (.literal '\t', cs)
  | 'v' :: cs => some (.literal '\x0b', cs)
  | c :: cs =>
    if c = 'p' || c = 'P' then readProperty m cs
    else if ['d', 's', 'w'].contains c then some (.oneOf false, cs)
    else if ['D', 'S', 'W'].contains c then some (.oneOf true, cs)
    else if ['b', 'B', '<', '>'].contains c then some (boundaryIn m, cs)
    else if c = 'A' || c = 'z' then some (.anchor, cs)
    else if c.toNat < 0x80 && !c.isAlphanum then some (.literal c, cs)
    else none

inductive Joint where
  | both
  | without
  | oneOnly
  deriving DecidableEq, Repr

def Joint.apply : Joint → Bool → Bool → Bool
  | .both, a, b => a && b
  | .without, a, b => a && !b
  | .oneOnly, a, b => a != b

/-- A class in brackets, as far as it is read. Of its characters it is kept whether those beyond
ASCII are among them: in a class of bytes, either all of them are or none. -/
structure Bracket where
  isNegated : Bool
  /-- Nothing but dashes has come so far. They stand for themselves. -/
  isFresh : Bool
  left : Option (Joint × Bool) := none
  beyondAscii : Bool := false
  deriving DecidableEq, Repr

namespace Bracket

def add (b : Bracket) (beyondAscii : Bool) : Bracket :=
  { b with isFresh := false, beyondAscii := b.beyondAscii || beyondAscii }

def joined (b : Bracket) : Bool :=
  match b.left with
  | none => b.beyondAscii
  | some (joint, left) => joint.apply left b.beyondAscii

def join (b : Bracket) (joint : Joint) : Bracket :=
  { b with isFresh := false, left := some (joint, b.joined), beyondAscii := false }

def total (b : Bracket) : Bool := b.isNegated != b.joined

/-- Starts after the opening bracket. A closing one that comes first stands for itself. -/
def start (m : Mode) (cs : List Char) : Bracket × List Char :=
  let (isNegated, cs) := match m.skip cs with
    | '^' :: rest => (true, m.skip rest)
    | cs => (false, cs)
  match cs with
  | ']' :: rest => (⟨isNegated, false, none, false⟩, rest)
  | cs => (⟨isNegated, true, none, false⟩, cs)

end Bracket

def setNames : List String :=
  ["alnum", "alpha", "ascii", "blank", "cntrl", "digit", "graph", "lower", "print", "punct",
    "space", "upper", "word", "xdigit"]

def namedSet? : List Char → Option (Bool × List Char)
  | ':' :: cs =>
    let (isNegated, cs) := match cs with
      | '^' :: rest => (true, rest)
      | cs => (false, cs)
    match cs.span (· ≠ ':') with
    | (name, ':' :: ']' :: rest) =>
      if setNames.contains (String.ofList name) then some (isNegated, rest) else none
    | _ => none
  | _ => none

def readMember (m : Mode) : List Char → Option (Item × List Char)
  | [] => none
  | '\\' :: cs => readEscape m cs
  | c :: cs => some (.literal c, cs)

/-- Whether a member has characters beyond ASCII. A place between characters is no member, and one
character beyond ASCII is none of a class of bytes. -/
def Item.beyondAscii? (m : Mode) : Item → Option Bool
  | .literal c => if m.isBytewise && 0x80 ≤ c.toNat then none else some false
  | .oneOf beyondAscii => some beyondAscii
  | .boundary | .anchor => none

def readRange (m : Mode) (cs : List Char) : Option (Bool × List Char) := do
  let (first, rest) ← readMember m cs
  let single ← first.beyondAscii? m
  match m.skip rest with
  | '-' :: more =>
    match m.skip more with
    | ']' :: _ | '-' :: _ => some (single, '-' :: more)
    | more =>
      match first, ← readMember m more with
      | .literal a, (.literal b, rest) =>
        if a ≤ b then return (← (Item.literal b).beyondAscii? m, rest) else none
      | _, _ => none
  | rest => some (single, rest)

/-- The rest of a class in brackets, with brackets inside it. There is a step for each character. -/
def readSet (m : Mode) : Nat → Bracket → List Bracket → List Char → Option (Bool × List Char)
  | 0, _, _, _ => none
  | steps + 1, b, outer, cs =>
    match m.skip cs with
    | '[' :: rest =>
      match namedSet? rest with
      | some (beyondAscii, rest) => readSet m steps (b.add beyondAscii) outer rest
      | none =>
        let (inner, rest) := Bracket.start m rest
        readSet m steps inner (b :: outer) rest
    | ']' :: rest =>
      match outer with
      | [] => some (b.total, rest)
      | next :: outer => readSet m steps (next.add b.total) outer rest
    | '&' :: '&' :: rest => readSet m steps (b.join .both) outer rest
    | '~' :: '~' :: rest => readSet m steps (b.join .oneOnly) outer rest
    | cs =>
      match b.isFresh, cs with
      | true, '-' :: rest => readSet m steps b outer rest
      | false, '-' :: '-' :: rest => readSet m steps (b.join .without) outer rest
      | _, cs =>
        match readRange m cs with
        | some (beyondAscii, rest) => readSet m steps (b.add beyondAscii) outer rest
        | none => none

structure Progress where
  mode : Mode := {}
  /-- The modes to come back to, one for each open group. -/
  outer : List Mode := []
  groupNames : List (List Char) := []
  /-- There is something before this place that can be repeated. -/
  isRepeatable : Bool := false
  hasBoundary : Bool := false
  deriving DecidableEq, Repr

namespace Progress

def enter (p : Progress) (mode : Mode) : Progress :=
  { p with mode, outer := p.mode :: p.outer, isRepeatable := false }

def leave? (p : Progress) : Option Progress :=
  match p.outer with
  | [] => none
  | mode :: outer => some { p with mode, outer, isRepeatable := true }

def startsName (c : Char) : Bool := c == '_' || Text.isLetter c

def continuesName (c : Char) : Bool :=
  startsName c || Text.isNumeral c || c == '.' || c == '[' || c == ']'

def enterNamed (p : Progress) (cs : List Char) : Option (Progress × List Char) :=
  match cs.span (· ≠ '>') with
  | (c :: name, _ :: rest) =>
    if startsName c && name.all continuesName && c :: name ∉ p.groupNames then
      some ({ p.enter p.mode with groupNames := (c :: name) :: p.groupNames }, rest)
    else none
  | _ => none

def takeFlags (p : Progress) (cs : List Char) : Option (Progress × List Char) :=
  match cs.span fun c => c ≠ ':' && c ≠ ')' with
  | (flags, ':' :: rest) => (p.mode.change? flags).map fun mode => (p.enter mode, rest)
  | (c :: flags, _ :: rest) =>
    (p.mode.change? (c :: flags)).map fun mode => ({ p with mode, isRepeatable := false }, rest)
  | _ => none

def takeGroup (p : Progress) (cs : List Char) : Option (Progress × List Char) :=
  match p.mode.skip cs with
  | '?' :: 'P' :: '<' :: rest | '?' :: '<' :: rest => p.enterNamed rest
  | '?' :: rest => p.takeFlags rest
  | rest => some (p.enter p.mode, rest)

def put (p : Progress) (item : Item) : Option Progress :=
  match item with
  | .oneOf true => if p.mode.isBytewise then none else some { p with isRepeatable := true }
  | .boundary => some { p with isRepeatable := true, hasBoundary := true }
  | _ => some { p with isRepeatable := true }

/-- A repetition, which takes as little as it can if a question mark follows. -/
def repeated (p : Progress) (cs : List Char) : Option (Progress × List Char) :=
  if p.isRepeatable then
    match cs with
    | '?' :: rest => some (p, rest)
    | rest => some (p, rest)
  else none

def takeItem (p : Progress) (read : Option (Item × List Char)) : Option (Progress × List Char) := do
  let (item, rest) ← read
  return (← p.put item, rest)

def takeSet (p : Progress) (cs : List Char) : Option (Progress × List Char) := do
  let (bracket, rest) := Bracket.start p.mode cs
  let (beyondAscii, rest) ← readSet p.mode (rest.length + 1) bracket [] rest
  return (← p.put (.oneOf (p.mode.isBytewise && beyondAscii)), rest)

def next (p : Progress) : Char → List Char → Option (Progress × List Char)
  | '(', cs => p.takeGroup cs
  | ')', cs => p.leave?.map fun p => (p, cs)
  | '|', cs => some ({ p with isRepeatable := false }, cs)
  | '[', cs => p.takeSet cs
  | '?', cs => p.repeated cs
  | '*', cs => p.repeated cs
  | '+', cs => p.repeated cs
  | '\x7b', _ => none
  | '\\', cs => p.takeItem (readEscape p.mode cs)
  | '.', cs => p.takeItem (some (.oneOf true, cs))
  | '^', cs => p.takeItem (some (.anchor, cs))
  | '$', cs => p.takeItem (some (.anchor, cs))
  | c, cs => p.takeItem (some (.literal c, cs))

/-- Reads to the end, where no group may be open. There is a step for each character. -/
def run : Nat → Progress → List Char → Option Progress
  | 0, _, _ => none
  | steps + 1, p, cs =>
    match p.mode.skip cs with
    | [] => if p.outer.isEmpty then some p else none
    | c :: cs =>
      match p.next c cs with
      | some (p, rest) => run steps p rest
      | none => none

end Progress

def checkExpression (cs : List Char) : Except Fault Unit :=
  match Progress.run (cs.length + 1) {} cs with
  | none => .error .malformed
  | some p => if p.hasBoundary then .error .wordBoundary else .ok ()

def isUnsigned (cs : List Char) : Bool :=
  let (mantissa, exponent) := cs.span fun c => c ≠ 'e' && c ≠ 'E'
  let (whole, fraction) := mantissa.span Char.isDigit
  let isMantissa := match fraction with
    | [] => !whole.isEmpty
    | '.' :: digits => !(whole.isEmpty && digits.isEmpty) && digits.all Char.isDigit
    | _ => false
  let isExponent := match exponent with
    | [] => true
    | _ :: '+' :: digits => !digits.isEmpty && digits.all Char.isDigit
    | _ :: '-' :: digits => !digits.isEmpty && digits.all Char.isDigit
    | _ :: digits => !digits.isEmpty && digits.all Char.isDigit
  isMantissa && isExponent || ["inf", "infinity", "nan"].any (·.toList == cs.map Char.toLower)

def isNumber : List Char → Bool
  | '+' :: cs => isUnsigned cs
  | '-' :: cs => isUnsigned cs
  | cs => isUnsigned cs

/-- A number is compared as a number, any other value is an expression. -/
def check (value : List Char) : Except Fault Unit :=
  if isNumber value then .ok () else checkExpression value

end WorkloadScan.Settings.FieldPattern
