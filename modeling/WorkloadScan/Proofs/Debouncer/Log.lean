import Mathlib.Data.List.DropRight
import WorkloadScan.Debouncer
import WorkloadScan.Proofs.Table

/-! Runs of a debouncer and the log of what came of them. A take is an outcome that empties the
pending changes; what it takes is read off the log as the changes since the take before. -/
namespace WorkloadScan.Debouncer
open Table (ofList latest)

inductive Event where
  | add (key : Resource.Key) (revision : Resource.Revision)
  | poll
  | takeRest

inductive Outcome where
  | added (key : Resource.Key) (revision : Resource.Revision)
  | polled (poll : Poll)
  | ended (rest : Remainder)

def apply (c : Config) (now : Instant) (d : Debouncer) : Event → Debouncer × Outcome
  | .add key revision => (d.add c now key revision, .added key revision)
  | .poll => ((d.poll c now).1, .polled (d.poll c now).2)
  | .takeRest => ((d.takeRest c now).1, .ended (d.takeRest c now).2)

def run (c : Config) (d : Debouncer) (events : List (Instant × Event)) : Debouncer :=
  events.foldl (fun d e => (d.apply c e.1 e.2).1) d

/-- What came of each event of a list. -/
def log (c : Config) : Debouncer → List (Instant × Event) → List (Instant × Outcome)
  | _, [] => []
  | d, (now,event)::rest => (now,(d.apply c now event).2) :: log c (d.apply c now event).1 rest

@[simp] theorem run_nil (c : Config) (d : Debouncer) : run c d [] = d := rfl

theorem run_append (c : Config) (d : Debouncer) (es fs : List (Instant × Event)) :
    run c d (es ++ fs) = run c (run c d es) fs := by
  simp [run]

theorem run_concat (c : Config) (d : Debouncer) (es : List (Instant × Event))
    (now : Instant) (event : Event) :
    run c d (es ++ [(now,event)]) = ((run c d es).apply c now event).1 := by
  simp [run]

theorem log_append (c : Config) (d : Debouncer) (es fs : List (Instant × Event)) :
    log c d (es ++ fs) = log c d es ++ log c (run c d es) fs := by
  induction es generalizing d with
  | nil => rfl
  | cons e es ih => simpa [log, run] using ih (d.apply c e.1 e.2).1

theorem log_concat (c : Config) (d : Debouncer) (es : List (Instant × Event))
    (now : Instant) (event : Event) :
    log c d (es ++ [(now,event)]) = log c d es ++ [(now,((run c d es).apply c now event).2)] := by
  rw [log_append]
  rfl

theorem log_eq_append_cons {c : Config} {d : Debouncer} {es : List (Instant × Event)}
    {before after : List (Instant × Outcome)} {now : Instant} {outcome : Outcome}
    (h : log c d es = before ++ (now,outcome) :: after) :
    ∃ fs event gs, es = fs ++ (now,event) :: gs ∧ before = log c d fs ∧
      outcome = ((run c d fs).apply c now event).2 := by
  induction before generalizing d es with
  | nil =>
    cases es with
    | nil => simp [log] at h
    | cons e es =>
      obtain ⟨t, event⟩ := e
      simp only [log, List.nil_append, List.cons.injEq, Prod.mk.injEq] at h
      obtain ⟨⟨rfl, rfl⟩, -⟩ := h
      exact ⟨[], event, es, rfl, rfl, rfl⟩
  | cons b before ih =>
    cases es with
    | nil => simp [log] at h
    | cons e es =>
      obtain ⟨t, event⟩ := e
      simp only [log, List.cons_append, List.cons.injEq] at h
      obtain ⟨fs, later, gs, rfl, rfl, hout⟩ := ih h.2
      exact ⟨(t,event)::fs, later, gs, rfl, by simp [log, ← h.1], hout⟩

theorem log_eq_append {c : Config} {d : Debouncer} {es : List (Instant × Event)}
    {xs ys : List (Instant × Outcome)} (h : log c d es = xs ++ ys) :
    ∃ fs gs, es = fs ++ gs ∧ xs = log c d fs ∧ ys = log c (run c d fs) gs := by
  cases ys with
  | nil => exact ⟨es, [], by simp, by simpa using h.symm, rfl⟩
  | cons y ys =>
    obtain ⟨fs, event, gs, rfl, rfl, -⟩ := log_eq_append_cons h
    exact ⟨fs, (y.1,event)::gs, rfl, rfl, List.append_cancel_left (h.symm.trans (log_append ..))⟩

def Outcome.cause : Outcome → Event
  | .added key revision => .add key revision
  | .polled _ => .poll
  | .ended _ => .takeRest

theorem cause_apply (c : Config) (now : Instant) (d : Debouncer) (event : Event) :
    (d.apply c now event).2.cause = event := by
  cases event <;> rfl

theorem map_cause_log (c : Config) (d : Debouncer) (es : List (Instant × Event)) :
    (log c d es).map (fun e => (e.1,e.2.cause)) = es := by
  induction es generalizing d with
  | nil => rfl
  | cons e es ih => simp [log, cause_apply, ih]

theorem cause_mem_of_mem_log {c : Config} {d : Debouncer} {es : List (Instant × Event)}
    {entry : Instant × Outcome} (h : entry ∈ log c d es) : (entry.1,entry.2.cause) ∈ es := by
  rw [← map_cause_log c d es]
  exact List.mem_map_of_mem h

def Event.isAdd : Event → Bool
  | .add .. => true
  | .poll | .takeRest => false

/-- Once the rest has been taken, nothing but changes may come. -/
def ClosesLast (events : List (Instant × Event)) : Prop :=
  events.Pairwise fun a b => a.2 = .takeRest → b.2.isAdd = true

/-- The batch that an outcome takes out of the debouncer. -/
def Outcome.taken? : Outcome → Option Batch
  | .polled (.discarded batch) | .polled (.ready batch) => some batch
  | .ended (.discarded batch) | .ended (.ready batch) => some batch
  | .added .. | .polled .idle | .polled (.postponed ..) => none

/-- The batch that an outcome leaves to be flushed. An empty rest needs no flush. -/
def Outcome.flushed? : Outcome → Option Batch
  | .polled (.ready batch) => some batch
  | .ended (.ready batch) => if batch.isEmpty then none else some batch
  | _ => none

def Outcome.isDiscard : Outcome → Bool
  | .polled (.discarded _) | .ended (.discarded _) => true
  | _ => false

def Outcome.added? : Outcome → Option (Resource.Key × Resource.Revision)
  | .added key revision => some (key,revision)
  | _ => none

/-- The changes that have come since the last take. -/
def sinceTake (entries : List (Instant × Outcome)) : List (Resource.Key × Resource.Revision) :=
  (entries.rtakeWhile fun e => e.2.taken?.isNone).filterMap fun e => e.2.added?

theorem sinceTake_concat (entries : List (Instant × Outcome)) (now : Instant) (o : Outcome) :
    sinceTake (entries ++ [(now,o)]) =
      if o.taken?.isSome then [] else sinceTake entries ++ o.added?.toList := by
  rw [sinceTake, List.rtakeWhile_concat]
  cases h : o.taken? with
  | none => cases ha : o.added? <;> simp [sinceTake, List.filterMap_append, ha]
  | some batch => simp

theorem remaining_of_lastFlush {c : Config} {d : Debouncer} {now last : Nat}
    (h : d.lastFlush = some last) : d.remaining c now = last + c.spacing - max now last := by
  simp only [remaining, h]

inductive Polled (c : Config) (now : Instant) (d : Debouncer) : Debouncer × Poll → Prop
  | early (early : d.isEarly now = true) : Polled c now d (d, .idle)
  | nothing (late : d.isEarly now = false) (void : d.pending.isEmpty = true) :
      Polled c now d ({ d with deadline := none, rateLimited := false }, .idle)
  | discarded (late : d.isEarly now = false) (full : d.pending.isEmpty = false)
      (first : d.first = true) (discard : c.discardFirst = true) :
      Polled c now d ({ d.emptied with first := false }, .discarded d.pending)
  | postponed (late : d.isEarly now = false) (full : d.pending.isEmpty = false)
      (kept : d.first = true → c.discardFirst = false) (wait : 0 < d.remaining c now) :
      Polled c now d
        ({ d with
            deadline := some (now + d.remaining c now), rateLimited := true, first := false },
          .postponed (d.remaining c now) d.pending.size)
  | ready (late : d.isEarly now = false) (full : d.pending.isEmpty = false)
      (kept : d.first = true → c.discardFirst = false) (spaced : d.remaining c now = 0) :
      Polled c now d
        ({ d.emptied with rateLimited := false, first := false, lastFlush := some now },
          .ready d.pending)

theorem polled_poll (c : Config) (now : Instant) (d : Debouncer) :
    Polled c now d (d.poll c now) := by
  unfold poll
  split
  case isTrue early => exact .early early
  case isFalse late =>
    have hlate : d.isEarly now = false := by simpa using late
    split
    case isTrue void => exact .nothing hlate void
    case isFalse full =>
      have hfull : d.pending.isEmpty = false := by simpa using full
      unfold due
      split
      case isTrue first =>
        obtain ⟨hfirst, hdiscard⟩ := Bool.and_eq_true_iff.mp first
        exact .discarded hlate hfull hfirst hdiscard
      case isFalse kept =>
        have hkept : d.first = true → c.discardFirst = false := by simpa using kept
        by_cases wait : 0 < d.remaining c now
        · simpa only [if_pos wait] using Polled.postponed hlate hfull hkept wait
        · simpa only [if_neg wait] using Polled.ready hlate hfull hkept (by omega)

inductive RestTaken (c : Config) (now : Instant) (d : Debouncer) : Debouncer × Remainder → Prop
  | discarded (first : d.first = true) (discard : c.discardFirst = true) :
      RestTaken c now d (d.emptied, .discarded d.pending)
  | ready (kept : d.first = true → c.discardFirst = false) :
      RestTaken c now d ({ d.emptied with lastFlush := some now }, .ready d.pending)

theorem restTaken_takeRest (c : Config) (now : Instant) (d : Debouncer) :
    RestTaken c now d (d.takeRest c now) := by
  unfold takeRest
  split
  case isTrue first =>
    obtain ⟨hfirst, hdiscard⟩ := Bool.and_eq_true_iff.mp first
    exact .discarded hfirst hdiscard
  case isFalse kept => exact .ready (by simpa using kept)

end WorkloadScan.Debouncer
