import WorkloadScan.Text.Split

/-! The form in which names with characters beyond ASCII are written in ASCII: the ASCII
characters, a dash, and numbers that say which characters to insert where. -/
namespace WorkloadScan.Url.Punycode

def digit? (c : Char) : Option Nat :=
  if c.isLower then some (c.toNat - 'a'.toNat)
  else if c.isUpper then some (c.toNat - 'A'.toNat)
  else if c.isDigit then some (c.toNat - '0'.toNat + 26)
  else none

/-- A digit below the threshold of its place ends a number. -/
def threshold (place bias : Nat) : Nat := max 1 (min 26 (place - bias))

abbrev largest : Nat := 4294967295

def readNumber (bias : Nat) : List Char → Nat → Nat → Nat → Option (Nat × List Char)
  | [], _, _, _ => none
  | c :: rest, place, weight, value =>
    match digit? c with
    | none => none
    | some d =>
      if largest < weight || largest < value + d * weight then none
      else if d < threshold place bias then some (value + d * weight, rest)
      else
        readNumber bias rest (place + 36) (weight * (36 - threshold place bias))
          (value + d * weight)

theorem length_readNumber {bias : Nat} {cs : List Char} {place weight value : Nat}
    {r : Nat × List Char} (h : readNumber bias cs place weight value = some r) :
    r.2.length < cs.length := by
  induction cs generalizing place weight value with
  | nil => simp [readNumber] at h
  | cons c rest ih =>
    rw [readNumber] at h
    split at h
    · simp at h
    · split at h
      · simp at h
      · split at h
        · rw [← Option.some.inj h]
          simp
        · exact Nat.lt_succ_of_lt (ih h)

def shrink (delta : Nat) : Nat × Nat :=
  if 455 < delta then
    let (places, rest) := shrink (delta / 35)
    (places + 36, rest)
  else (0, delta)
termination_by delta
decreasing_by omega

def adapt (delta size : Nat) (isFirst : Bool) : Nat :=
  let scaled := if isFirst then delta / 700 else delta / 2
  let (places, rest) := shrink (scaled + scaled / size)
  places + 36 * rest / (rest + 38)

def insertAll (bias code place : Nat) (out : List Char) (cs : List Char) : Option (List Char) :=
  match cs with
  | [] => some out
  | c :: rest =>
    match _h : readNumber bias (c :: rest) 36 1 place with
    | none => none
    | some (next, left) =>
      let size := out.length + 1
      let code := code + next / size
      if _hc : code.isValidChar then
        insertAll (adapt (next - place) size (place = 0)) code (next % size + 1)
          (out.insertIdx (next % size) (Char.ofNat code)) left
      else none
termination_by cs.length
decreasing_by exact length_readNumber _h

/-- A dash comes after the ASCII characters, of which there is then at least one. -/
def decode? (cs : List Char) : Option (List Char) :=
  match Text.cutAtLast '-' cs with
  | some (basic, extended) =>
    if basic.isEmpty || basic.any (0x80 ≤ ·.toNat) then none else insertAll 72 128 0 basic extended
  | none => insertAll 72 128 0 [] cs

end WorkloadScan.Url.Punycode
