import WorkloadScan.Url.Reader

/-! What of a URL is sent to its host: the path without dot segments, and the query. -/
namespace WorkloadScan.Url

def lowered (cs : List Char) : List Char := cs.map Char.toLower

def isSingleDot (segment : List Char) : Bool := [".", "%2e"].any (·.toList == lowered segment)

def isDoubleDot (segment : List Char) : Bool :=
  ["..", ".%2e", "%2e.", "%2e%2e"].any (·.toList == lowered segment)

/-- The segments without those that only lead elsewhere. If such a one comes last, an empty segment
stays in its place. -/
def resolve (done : List (List Char)) : List (List Char) → List (List Char)
  | [] => done
  | [last] =>
    if isDoubleDot last then done.dropLast ++ [[]]
    else if isSingleDot last then done ++ [[]]
    else done ++ [last]
  | segment :: rest =>
    if isDoubleDot segment then resolve done.dropLast rest
    else if isSingleDot segment then resolve done rest
    else resolve (done ++ [segment]) rest

def reservedInPath : List Char := [' ', '"', '#', '<', '>', '?', '\x60', '\x7b', '\x7d']

def reservedInQuery : List Char := [' ', '"', '#', '<', '>', '\'']

def isQueryMark (c : Char) : Bool := c == '?' || c == '#'

def pathText (cs : List Char) : List Char :=
  let cs := if cs.head?.any isSlash then cs.drop 1 else cs
  (resolve [] (Text.split isSlash cs)).flatMap fun segment =>
    '/' :: Percent.encode reservedInPath segment

def queryText : List Char → List Char
  | '?' :: cs => '?' :: Percent.encode reservedInQuery (cs.takeWhile (· ≠ '#'))
  | _ => []

def target (u : Url) : String :=
  String.ofList (pathText (u.rest.takeWhile (!isQueryMark ·))
    ++ queryText (u.rest.dropWhile (!isQueryMark ·)))

end WorkloadScan.Url
