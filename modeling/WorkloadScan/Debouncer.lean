import WorkloadScan.Resource
import WorkloadScan.Table

/-! Changes wait for a quiet period, and flushes keep a distance from each other.

Each change puts the next flush off until no change has come for the quiet period. A flush that
would follow the last one too closely is put off once, for the rest of the spacing, and further
changes do not move it. The first flush is meant for what was seen while the watches started, and
may be discarded. -/
namespace WorkloadScan

/-- Nanoseconds on a clock that never goes back. -/
abbrev Instant := Nat

/-- What has changed, with the latest revision of each resource. -/
abbrev Batch := Table Resource.Key Resource.Revision

structure Config where
  /-- How long no change may come before a flush. -/
  quiet : Nat := 10000000000
  /-- The least distance of two flushes. -/
  spacing : Nat := 120000000000
  discardFirst : Bool := true
  /-- How many scans may be under way at once; zero is no limit. -/
  limit : Nat := 16
  deriving DecidableEq, Repr, Inhabited

structure Debouncer where
  pending : Batch := .empty
  /-- When to flush. -/
  deadline : Option Instant := none
  /-- Whether the deadline is that of a flush put off for the spacing. -/
  rateLimited : Bool := false
  /-- Whether no flush has been due yet. -/
  first : Bool := true
  lastFlush : Option Instant := none
  deriving Inhabited

namespace Debouncer

inductive Poll where
  | idle
  | discarded (batch : Batch)
  | postponed (wait pending : Nat)
  | ready (batch : Batch)

inductive Remainder where
  | discarded (batch : Batch)
  | ready (batch : Batch)

def add (c : Config) (now : Instant) (key : Resource.Key) (revision : Resource.Revision)
    (d : Debouncer) : Debouncer :=
  { d with
    pending := d.pending.insert key revision
    deadline := if d.rateLimited then d.deadline else some (now + c.quiet) }

def isEarly (d : Debouncer) (now : Instant) : Bool :=
  match d.deadline with
  | some deadline => now < deadline
  | none => false

/-- How long the spacing still keeps a flush off. -/
def remaining (c : Config) (d : Debouncer) (now : Instant) : Nat :=
  match d.lastFlush with
  | some last => last + c.spacing - max now last
  | none => 0

def emptied (d : Debouncer) : Debouncer := { d with pending := .empty, deadline := none }

/-- The timer has fired and something is pending. -/
def due (c : Config) (now : Instant) (d : Debouncer) : Debouncer × Poll :=
  if d.first && c.discardFirst then ({ d.emptied with first := false }, .discarded d.pending)
  else
    let wait := d.remaining c now
    if 0 < wait then
      ({ d with deadline := some (now + wait), rateLimited := true, first := false },
        .postponed wait d.pending.size)
    else
      ({ d.emptied with rateLimited := false, first := false, lastFlush := some now },
        .ready d.pending)

def poll (c : Config) (now : Instant) (d : Debouncer) : Debouncer × Poll :=
  if d.isEarly now then (d, .idle)
  else if d.pending.isEmpty then ({ d with deadline := none, rateLimited := false }, .idle)
  else due c now d

/-- Takes what is still pending, whatever the spacing. -/
def takeRest (c : Config) (now : Instant) (d : Debouncer) : Debouncer × Remainder :=
  if d.first && c.discardFirst then (d.emptied, .discarded d.pending)
  else ({ d.emptied with lastFlush := some now }, .ready d.pending)

end Debouncer
end WorkloadScan
