/-! Globs: a star stands for any run of characters, a question mark for any one character, and
every other character for itself.

A text is matched against all its suffixes at once. The row of a pattern holds, for each suffix of
the text from the longest to the empty one, whether the pattern matches it. -/
namespace WorkloadScan.Namespaces.Glob

/-- The row of the empty pattern: it matches the empty suffix only. -/
def emptyRow : List Char → List Bool
  | [] => [true]
  | _ :: s => false :: emptyRow s

/-- A star before a pattern matches a suffix if the pattern matches it or a later one. -/
def starRow : List Bool → List Bool
  | [] => []
  | b :: row =>
    let later := starRow row
    (b || later.headD false) :: later

def charRow (q : Char) : List Char → List Bool → List Bool
  | c :: s, _ :: row => ((q == '?' || q == c) && row.headD false) :: charRow q s row
  | _, _ => [false]

def row (s : List Char) : List Char → List Bool
  | [] => emptyRow s
  | '*' :: p => starRow (row s p)
  | q :: p => charRow q s (row s p)

def accepts (p s : List Char) : Bool := (row s p).headD false

end WorkloadScan.Namespaces.Glob
