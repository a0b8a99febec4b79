/-! Texts cut into parts at separators. -/
namespace WorkloadScan.Text

/-- The parts between separators. There is always at least one part, and it may be empty. -/
def split (isSeparator : Char → Bool) : List Char → List (List Char)
  | [] => [[]]
  | c :: rest =>
    if isSeparator c then [] :: split isSeparator rest
    else
      match split isSeparator rest with
      | [] => [[c]]
      | part :: parts => (c :: part) :: parts

/-- What comes before the first place where a text of two equal characters stands, and what comes
after it. -/
def cutAtPair (pair : Char) : List Char → Option (List Char × List Char)
  | c :: d :: rest =>
    if c = pair && d = pair then some ([], rest)
    else (cutAtPair pair (d :: rest)).map fun (before, after) => (c :: before, after)
  | _ => none

def cutAtLast (c : Char) (cs : List Char) : Option (List Char × List Char) :=
  match cs.reverse.span (· ≠ c) with
  | (after, _ :: before) => some (before.reverse, after.reverse)
  | (_, []) => none

end WorkloadScan.Text
