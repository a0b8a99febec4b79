import WorkloadScan.Text.Canonical.Class
import WorkloadScan.Text.Canonical.Hangul
import WorkloadScan.Text.Canonical.Pairs
import WorkloadScan.Text.Canonical.Singles

/-! The canonical form of a text. Texts that differ only in whether letters and their marks are
written as one character, or in the order of marks that do not touch, have one form. -/
namespace WorkloadScan.Text.Canonical

def halves? (c : Char) : Option (Char × Char) :=
  (Hangul.halves? c).or ((pair? c).map fun p => (p.first, p.second))

def decomposeIn : Nat → Char → List Char
  | 0, c => [c]
  | n + 1, c =>
    match single? c with
    | some d => decomposeIn n d
    | none =>
      match halves? c with
      | some (a, b) => decomposeIn n a ++ [b]
      | none => [c]

/-- The smallest parts of a character. Three times taking apart suffice for any of them, and the
characters up to the multiplication sign but one have no parts. -/
def decompose (c : Char) : List Char := if c.toNat < 0xc0 then [c] else decomposeIn 4 c

/-- Puts a character before others, behind the marks of lower classes. -/
def place (c : Char) : List Char → List Char
  | [] => [c]
  | d :: rest =>
    if classOf d ≠ 0 ∧ classOf d < classOf c then d :: place c rest else c :: d :: rest

def order (cs : List Char) : List Char := cs.foldr place []

def merge? (a b : Char) : Option Char := (Hangul.syllable? a b).or (whole? a b)

/-- Puts together what can be put together. A mark joins the start of its group unless one between
them, of those in `kept`, is of the same class; the last of them is of class `last`. -/
def composeAfter (start : Char) (kept : List Char) (last : Nat) : List Char → List Char
  | [] => start :: kept.reverse
  | c :: rest =>
    match if kept.isEmpty || last < classOf c then merge? start c else none with
    | some whole => composeAfter whole kept last rest
    | none =>
      if classOf c = 0 then start :: (kept.reverse ++ composeAfter c [] 0 rest)
      else composeAfter start (c :: kept) (classOf c) rest

def compose : List Char → List Char
  | [] => []
  | c :: rest => if classOf c = 0 then composeAfter c [] 0 rest else c :: compose rest

/-- The canonical form: taken apart, ordered, and put together again. -/
def form (cs : List Char) : List Char := compose (order (cs.flatMap decompose))

end WorkloadScan.Text.Canonical
