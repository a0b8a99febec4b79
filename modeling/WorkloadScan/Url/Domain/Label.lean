import WorkloadScan.Text.Canonical.Form
import WorkloadScan.Text.Direction
import WorkloadScan.Text.Joining
import WorkloadScan.Url.Domain.Plain
import WorkloadScan.Url.Punycode

/-! The labels of a name, between its points. -/
namespace WorkloadScan.Url.Domain

def isForbidden (c : Char) : Bool :=
  c.toNat ≤ 0x20 || c.toNat == 0x7f
    || ['%', '#', '/', ':', '<', '>', '?', '@', '[', '\\', ']', '^', '|'].contains c

/-- The plain form of a text, or nothing if a character is barred or forbidden. A sign that is
forbidden by itself is not if a mark makes another one of it. -/
def plainForm? (cs : List Char) : Option (List Char) :=
  let parts := cs.flatMap Text.Canonical.decompose
  if parts.any isBarred then none
  else
    let name := Text.Canonical.form (parts.flatMap plain)
    if name.any isForbidden then none else some name

namespace Label

/-- The longest encoded label, without what marks it as encoded. -/
abbrev longestEncoded : Nat := 2000

abbrev longest : Nat := 1000

/-- An encoded label stands for a label in plain form that could not go without encoding. -/
def decode? (cs : List Char) : Option (List Char) :=
  if cs.getLast? == some '-' || longestEncoded < cs.length then none
  else
    (Punycode.decode? cs).filter fun label =>
      label.any (0x80 ≤ ·.toNat) && !label.contains '.' && plainForm? label == some label

def read? : List Char → Option (List Char)
  | 'x' :: 'n' :: '-' :: '-' :: cs => decode? cs
  | label => some label

def zeroWidthNonJoiner : Char := '\u200c'

def zeroWidthJoiner : Char := '\u200d'

/-- A joiner, or a non-joiner, comes after a sign that silences a vowel. A non-joiner may also keep
apart two letters that would join. The characters before it are given from the last one on. -/
def joinerFits (joiner : Char) (before after : List Char) : Bool :=
  match before with
  | [] => false
  | c :: _ =>
    Text.Canonical.classOf c == Text.Canonical.silencing
      || (joiner == zeroWidthNonJoiner
        && (before.dropWhile Text.isTransparent).head?.any Text.joinsAfter
        && (after.dropWhile Text.isTransparent).head?.any Text.joinsBefore)

def joinersFit (before : List Char) : List Char → Bool
  | [] => true
  | c :: after =>
    (if c = zeroWidthJoiner || c = zeroWidthNonJoiner then joinerFits c before after else true)
      && joinersFit (c :: before) after

/-- A label does not begin with a mark, it has joiners only where they show, and it is not too
long. -/
def isProper (label : List Char) : Bool :=
  !label.head?.any Text.isMark && joinersFit [] label
    && (label.length ≤ longest || label.all (·.toNat < 0x80))

open Text (Direction)

def hasLeftward (label : List Char) : Bool :=
  label.any fun c => Direction.of c == .leftward || Direction.of c == .arabicDigit

/-- The directions after the first character, from the last one on that is not a mark. -/
def tail (directions : List Direction) : List Direction :=
  directions.reverse.dropWhile (· == .mark)

def endsIn (ends : List Direction) (tail : List Direction) : Bool := tail.head?.all ends.contains

/-- Where something is written leftward, each label has a direction: it begins with a letter of it
and ends with a letter of it or a digit, and it has only one row of digits. -/
def hasDirection (label : List Char) : Bool :=
  match label.map Direction.of with
  | [] => true
  | .rightward :: rest =>
    endsIn [.rightward, .digit] (tail rest)
      && !rest.contains .leftward && !rest.contains .arabicDigit
  | .leftward :: rest =>
    endsIn [.leftward, .digit, .arabicDigit] (tail rest)
      && !rest.contains .rightward && !(rest.contains .digit && rest.contains .arabicDigit)
  | _ => false

end Label
end WorkloadScan.Url.Domain
