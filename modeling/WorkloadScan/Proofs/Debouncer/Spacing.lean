import Mathlib.Data.List.Chain
import WorkloadScan.Proofs.Debouncer.Log

/-! The distance of dispatching flushes. A flush that comes too early is put off to the end of the
spacing, and what it waits for is not moved again, so it is put off once at most. -/
namespace WorkloadScan.Debouncer
variable {c : Config} {now clock : Nat} {d : Debouncer}

def Event.isPoll : Event → Bool
  | .poll => true
  | .add .. | .takeRest => false

def pollInstants (events : List (Instant × Event)) : List Instant :=
  (events.filter (·.2.isPoll)).map Prod.fst

def Outcome.isReady : Outcome → Bool
  | .polled (.ready _) => true
  | _ => false

def Outcome.isPostponed : Outcome → Bool
  | .polled (.postponed ..) => true
  | _ => false

def readyInstants (entries : List (Instant × Outcome)) : List Instant :=
  (entries.filter (·.2.isReady)).map Prod.fst

def readyCount (entries : List (Instant × Outcome)) : Nat := entries.countP (·.2.isReady)

def postponedCount (entries : List (Instant × Outcome)) : Nat := entries.countP (·.2.isPostponed)

/-- How often a flush may still be put off before the next one is dispatched. -/
def credit (d : Debouncer) : Nat := if d.rateLimited || d.lastFlush.isNone then 0 else 1

theorem credit_le_one (d : Debouncer) : credit d ≤ 1 := by
  unfold credit
  split <;> omega

/-- What holds between polls that do not go back in time, the last of them at `clock`. -/
structure IsPaced (c : Config) (clock : Nat) (d : Debouncer) : Prop where
  past : ∀ last : Nat, last ∈ d.lastFlush → last ≤ clock
  /-- A flush that was put off has something to flush, and its deadline stays. -/
  kept : d.rateLimited = true → d.first = false ∧ d.pending.isEmpty = false ∧
    ∃ last : Nat, last ∈ d.lastFlush ∧ d.deadline = some (last + c.spacing)

theorem IsPaced.mono {later : Nat} (h : IsPaced c clock d) (hle : clock ≤ later) :
    IsPaced c later d :=
  ⟨fun last hlast => Nat.le_trans (h.past last hlast) hle, h.kept⟩

theorem isPaced_fresh (c : Config) (clock : Nat) : IsPaced c clock {} :=
  ⟨by simp, by simp⟩

theorem remaining_of_last {last : Nat} (h : last ∈ d.lastFlush) (hlast : last ≤ now) :
    d.remaining c now = last + c.spacing - now := by
  rw [remaining_of_lastFlush h, Nat.max_eq_left hlast]

theorem remaining_of_rateLimited (h : IsPaced c clock d) (hclock : clock ≤ now)
    (hlate : d.isEarly now = false) (hlimited : d.rateLimited = true) :
    d.remaining c now = 0 := by
  obtain ⟨-, -, last, hlast, hdeadline⟩ := h.kept hlimited
  have hdue : last + c.spacing ≤ now := by simpa [isEarly, hdeadline] using hlate
  rw [remaining_of_last hlast (Nat.le_trans (h.past last hlast) hclock)]
  omega

theorem isPaced_add (h : IsPaced c clock d) (now : Instant) (key : Resource.Key)
    (revision : Resource.Revision) : IsPaced c clock (d.add c now key revision) := by
  refine ⟨h.past, fun hlimited => ?_⟩
  have hold : d.rateLimited = true := hlimited
  obtain ⟨hfirst, -, last, hlast, hdeadline⟩ := h.kept hold
  exact ⟨hfirst, Table.isEmpty_insert .., last, hlast, by simp [add, hold, hdeadline]⟩

theorem isPaced_poll (h : IsPaced c clock d) (hclock : clock ≤ now) :
    IsPaced c now (d.poll c now).1 := by
  have hpast : ∀ last : Nat, last ∈ d.lastFlush → last ≤ now := fun last hlast =>
    Nat.le_trans (h.past last hlast) hclock
  have hp := polled_poll c now d
  generalize d.poll c now = r at hp ⊢
  cases hp with
  | early => exact ⟨hpast, h.kept⟩
  | nothing => exact ⟨hpast, fun hlimited => by cases hlimited⟩
  | discarded late full first =>
    refine ⟨hpast, fun hlimited => ?_⟩
    rw [(h.kept hlimited).1] at first
    cases first
  | ready => exact ⟨by simp, fun hlimited => by cases hlimited⟩
  | postponed late full kept wait =>
    refine ⟨hpast, fun _ => ⟨rfl, full, ?_⟩⟩
    cases hl : d.lastFlush with
    | none => simp [remaining, hl] at wait
    | some last =>
      have hlast : last ∈ d.lastFlush := hl
      have hremaining := remaining_of_last (c := c) hlast (hpast last hlast)
      have hend : now + (last + c.spacing - now) = last + c.spacing := by omega
      exact ⟨last, rfl, by simp only [hremaining, hend]⟩

/-- Each flush that is put off uses up the credit of the dispatched one before it. -/
theorem credit_poll (h : IsPaced c clock d) (hclock : clock ≤ now) :
    postponedCount [(now,Outcome.polled (d.poll c now).2)] + credit (d.poll c now).1 ≤
      credit d + readyCount [(now,Outcome.polled (d.poll c now).2)] := by
  have hp := polled_poll c now d
  generalize d.poll c now = r at hp ⊢
  cases hp with
  | early => simp [postponedCount, readyCount, Outcome.isPostponed, Outcome.isReady]
  | nothing late void =>
    have hfree : d.rateLimited = false := by
      by_contra hlimited
      have hfull := (h.kept (by simpa using hlimited)).2.1
      rw [void] at hfull
      cases hfull
    simp [postponedCount, readyCount, Outcome.isPostponed, Outcome.isReady, credit, hfree]
  | discarded late full first =>
    simp [postponedCount, readyCount, Outcome.isPostponed, Outcome.isReady, credit, emptied]
  | ready =>
    simp [postponedCount, readyCount, Outcome.isPostponed, Outcome.isReady, credit]
  | postponed late full kept wait =>
    have hfree : d.rateLimited = false := by
      by_contra hlimited
      rw [remaining_of_rateLimited h hclock late (by simpa using hlimited)] at wait
      cases wait
    have hsome : d.lastFlush.isNone = false := by
      cases hl : d.lastFlush with
      | none => simp [remaining, hl] at wait
      | some last => rfl
    simp [postponedCount, readyCount, Outcome.isPostponed, Outcome.isReady, credit, hfree, hsome]

theorem spaced_of_isReady (h : IsPaced c clock d) (hclock : clock ≤ now)
    (hready : (Outcome.polled (d.poll c now).2).isReady = true) :
    (∀ last : Nat, last ∈ d.lastFlush → last + c.spacing ≤ now) ∧
      (d.poll c now).1.lastFlush = some now := by
  have hp := polled_poll c now d
  generalize d.poll c now = r at hready hp ⊢
  cases hp with
  | early | nothing | discarded | postponed => cases hready
  | ready late full kept spaced =>
    refine ⟨fun last hlast => ?_, rfl⟩
    rw [remaining_of_last hlast (Nat.le_trans (h.past last hlast) hclock)] at spaced
    omega

theorem lastFlush_of_not_isReady
    (hready : (Outcome.polled (d.poll c now).2).isReady = false) :
    (d.poll c now).1.lastFlush = d.lastFlush := by
  have hp := polled_poll c now d
  generalize d.poll c now = r at hready hp ⊢
  cases hp with
  | early | nothing | discarded | postponed => rfl
  | ready => cases hready

theorem not_isPostponed_of_spacing_eq_zero (hc : c.spacing = 0) (now : Nat) (d : Debouncer) :
    (Outcome.polled (d.poll c now).2).isPostponed = false := by
  have hp := polled_poll c now d
  generalize d.poll c now = r at hp ⊢
  cases hp with
  | early | nothing | discarded | ready => rfl
  | postponed late full kept wait =>
    have hnone : d.remaining c now = 0 := by
      unfold remaining
      split
      case h_1 last hl =>
        rw [hc]
        exact Nat.sub_eq_zero_of_le (Nat.le_max_right now last)
      case h_2 => rfl
    rw [hnone] at wait
    cases wait

/-! ### Runs -/

@[simp] theorem pollInstants_append (es fs : List (Instant × Event)) :
    pollInstants (es ++ fs) = pollInstants es ++ pollInstants fs := by
  simp [pollInstants]

@[simp] theorem readyInstants_append (xs ys : List (Instant × Outcome)) :
    readyInstants (xs ++ ys) = readyInstants xs ++ readyInstants ys := by
  simp [readyInstants]

theorem readyInstants_singleton_of_not {outcome : Outcome} (h : outcome.isReady = false) :
    readyInstants [(now,outcome)] = [] := by
  simp [readyInstants, h]

@[simp] theorem readyCount_append (xs ys : List (Instant × Outcome)) :
    readyCount (xs ++ ys) = readyCount xs + readyCount ys := List.countP_append ..

@[simp] theorem postponedCount_append (xs ys : List (Instant × Outcome)) :
    postponedCount (xs ++ ys) = postponedCount xs + postponedCount ys := List.countP_append ..

/-- The polls do not go back in time, and the rest is not taken. -/
structure IsOrdered (events : List (Instant × Event)) : Prop where
  sorted : (pollInstants events).Pairwise (· ≤ ·)
  noRest : ∀ e ∈ events, e.2 ≠ .takeRest

variable {events es fs : List (Instant × Event)} {event : Event}

theorem IsOrdered.left (h : IsOrdered (es ++ fs)) : IsOrdered es where
  sorted := by
    have hsorted := h.sorted
    rw [pollInstants_append] at hsorted
    exact (List.pairwise_append.mp hsorted).1
  noRest e he := h.noRest e (List.mem_append_left _ he)

theorem not_isOrdered_takeRest : ¬IsOrdered (es ++ [(now,.takeRest)]) := fun h =>
  h.noRest (now,.takeRest) (by simp) rfl

theorem IsOrdered.le_poll (h : IsOrdered (es ++ [(now,.poll)])) :
    ∀ t ∈ pollInstants es, t ≤ now := by
  have hsorted := h.sorted
  rw [pollInstants_append] at hsorted
  intro t ht
  exact (List.pairwise_append.mp hsorted).2.2 t ht now (by simp [pollInstants, Event.isPoll])

theorem isPaced_run (h : IsOrdered events) (hnow : ∀ t ∈ pollInstants events, t ≤ now) :
    IsPaced c now (run c {} events) := by
  induction events using List.reverseRecOn generalizing now with
  | nil => exact isPaced_fresh c now
  | append_singleton es e ih =>
    obtain ⟨t, event⟩ := e
    rw [run_concat]
    cases event with
    | takeRest => exact absurd h not_isOrdered_takeRest
    | add key revision =>
      exact isPaced_add (ih h.left fun u hu => hnow u (by simp [hu])) t key revision
    | poll =>
      have ht : t ≤ now := hnow t (by simp [pollInstants, Event.isPoll])
      exact (isPaced_poll (ih h.left h.le_poll) (Nat.le_refl t)).mono ht

/-- Over a stretch of a run: what is put off uses up what is dispatched, and one more at most. -/
theorem credit_run (h : IsOrdered (es ++ fs)) :
    postponedCount (log c (run c {} es) fs) + credit (run c {} (es ++ fs)) ≤
      credit (run c {} es) + readyCount (log c (run c {} es) fs) := by
  induction fs using List.reverseRecOn with
  | nil => simp [log, postponedCount, readyCount]
  | append_singleton fs e ih =>
    obtain ⟨now, event⟩ := e
    rw [← List.append_assoc] at h
    have hfs := ih h.left
    rw [← List.append_assoc, run_concat, log_concat, ← run_append, postponedCount_append,
      readyCount_append]
    cases event with
    | takeRest => exact absurd h not_isOrdered_takeRest
    | add key revision => exact hfs
    | poll =>
      have hpoll := credit_poll (isPaced_run (c := c) h.left h.le_poll) (Nat.le_refl now)
      simp only [apply]
      omega

theorem readyInstants_run (h : IsOrdered events) :
    (readyInstants (log c {} events)).IsChain (fun (s t : Nat) => s + c.spacing ≤ t) ∧
      (readyInstants (log c {} events)).getLast? = (run c {} events).lastFlush := by
  induction events using List.reverseRecOn with
  | nil => exact ⟨.nil, rfl⟩
  | append_singleton es e ih =>
    obtain ⟨now, event⟩ := e
    obtain ⟨hchain, hlast⟩ := ih h.left
    rw [run_concat, log_concat, readyInstants_append]
    cases event with
    | takeRest => exact absurd h not_isOrdered_takeRest
    | add key revision =>
      rw [readyInstants_singleton_of_not (by rfl), List.append_nil]
      exact ⟨hchain, hlast⟩
    | poll =>
      have hpaced := isPaced_run (c := c) h.left h.le_poll
      simp only [apply]
      cases hready : (Outcome.polled ((run c {} es).poll c now).2).isReady with
      | false =>
        rw [readyInstants_singleton_of_not hready, List.append_nil, lastFlush_of_not_isReady hready]
        exact ⟨hchain, hlast⟩
      | true =>
        obtain ⟨hspaced, hnow⟩ := spaced_of_isReady hpaced (Nat.le_refl now) hready
        have hone : readyInstants [(now,Outcome.polled ((run c {} es).poll c now).2)] = [now] := by
          simp [readyInstants, hready]
        rw [hone, hnow]
        refine ⟨List.isChain_append.mpr ⟨hchain, .singleton now, ?_⟩, by simp⟩
        intro last hmem t ht
        rw [hlast] at hmem
        rw [List.head?_cons, Option.mem_some_iff] at ht
        exact ht ▸ hspaced last hmem

/-! ### The whole log -/

theorem add_mul_le_of_isChain {gap : Nat} {times : List Nat}
    (h : times.IsChain fun s t => s + gap ≤ t) {i j : Nat} (hij : i ≤ j) (hj : j < times.length) :
    times[i] + (j - i) * gap ≤ times[j] := by
  induction j, hij using Nat.le_induction with
  | base => simp
  | succ j hij ih =>
    have hstep : times[j] + gap ≤ times[j + 1] := List.isChain_iff_getElem.mp h j hj
    have hbefore := ih (Nat.lt_of_succ_lt hj)
    have hmul : (j + 1 - i) * gap = (j - i) * gap + gap := by
      rw [Nat.succ_sub hij, Nat.succ_mul]
    omega

theorem not_isPoll_of_closesLast (h : ClosesLast events) :
    ∃ es fs, events = es ++ fs ∧ (∀ e ∈ es, e.2 ≠ .takeRest) ∧ ∀ e ∈ fs, e.2 ≠ .poll := by
  induction events with
  | nil => exact ⟨[], [], rfl, by simp, by simp⟩
  | cons e rest ih =>
    obtain ⟨hlast, hrest⟩ := List.pairwise_cons.mp h
    by_cases he : e.2 = .takeRest
    · refine ⟨[], e::rest, rfl, by simp, ?_⟩
      intro f hf hpoll
      rcases List.mem_cons.mp hf with rfl | hf
      · rw [he] at hpoll
        cases hpoll
      · have hadd := hlast f hf he
        rw [hpoll] at hadd
        cases hadd
    · obtain ⟨es, fs, rfl, hes, hfs⟩ := ih hrest
      exact ⟨e::es, fs, rfl, List.forall_mem_cons.mpr ⟨he, hes⟩, hfs⟩

section NoPoll
variable (hpoll : ∀ e ∈ fs, e.2 ≠ .poll)
include hpoll

theorem readyInstants_log_of_no_poll : readyInstants (log c d fs) = [] := by
  rw [readyInstants, List.map_eq_nil_iff, List.filter_eq_nil_iff]
  intro e he hready
  refine hpoll _ (cause_mem_of_mem_log he) ?_
  revert hready
  cases e.2 <;> simp [Outcome.cause, Outcome.isReady]

theorem postponedCount_log_of_no_poll : postponedCount (log c d fs) = 0 := by
  rw [postponedCount, List.countP_eq_zero]
  intro e he hpostponed
  refine hpoll _ (cause_mem_of_mem_log he) ?_
  revert hpostponed
  cases e.2 <;> simp [Outcome.cause, Outcome.isPostponed]

end NoPoll

/-- What the spacing promises of a log. -/
structure IsSpaced (c : Config) (entries : List (Instant × Outcome)) : Prop where
  apart : ∀ (i j : Nat) (_ : i < j) (hj : j < (readyInstants entries).length),
    (readyInstants entries)[i] + (j - i) * c.spacing ≤ (readyInstants entries)[j]
  /-- From one dispatched flush to the next the flush is put off once at most. -/
  once : ∀ before between after, entries = before ++ between ++ after →
    readyCount between = 0 → postponedCount between ≤ 1
  counts : postponedCount entries ≤ readyCount entries
  unlimited : c.spacing = 0 → postponedCount entries = 0

theorem postponedCount_le_one (hsorted : (pollInstants (es ++ fs)).Pairwise (· ≤ ·))
    (hclose : ClosesLast (es ++ fs)) (hnone : readyCount (log c (run c {} es) fs) = 0) :
    postponedCount (log c (run c {} es) fs) ≤ 1 := by
  obtain ⟨polled, rest, hsplit, hrest, hpoll⟩ := not_isPoll_of_closesLast hclose
  -- The rest may be taken within the stretch, or before it.
  rcases List.append_eq_append_iff.mp hsplit with ⟨stretch, rfl, rfl⟩ | ⟨extra, rfl, rfl⟩
  · rw [← List.append_assoc, pollInstants_append] at hsorted
    have hcredit := credit_run (c := c) ⟨(List.pairwise_append.mp hsorted).1, hrest⟩
    have hone := credit_le_one (run c {} es)
    rw [log_append, readyCount_append] at hnone
    rw [log_append, postponedCount_append, postponedCount_log_of_no_poll hpoll]
    omega
  · rw [postponedCount_log_of_no_poll fun e he => hpoll e (List.mem_append_right _ he)]
    exact Nat.zero_le 1

theorem isSpaced_log (hsorted : (pollInstants events).Pairwise (· ≤ ·))
    (hclose : ClosesLast events) : IsSpaced c (log c {} events) := by
  obtain ⟨polled, rest, rfl, hrest, hpoll⟩ := not_isPoll_of_closesLast hclose
  have hpolled : (pollInstants polled).Pairwise (· ≤ ·) := by
    rw [pollInstants_append] at hsorted
    exact (List.pairwise_append.mp hsorted).1
  have hordered : IsOrdered polled := ⟨hpolled, hrest⟩
  refine ⟨?_, ?_, ?_, ?_⟩
  · have hready : readyInstants (log c {} (polled ++ rest)) = readyInstants (log c {} polled) := by
      rw [log_append, readyInstants_append, readyInstants_log_of_no_poll hpoll, List.append_nil]
    intro i j hij hj
    refine add_mul_le_of_isChain ?_ (Nat.le_of_lt hij) hj
    rw [hready]
    exact (readyInstants_run hordered).1
  · intro before between after hlog hnone
    rw [List.append_assoc] at hlog
    obtain ⟨es, later, hsplit, rfl, hlater⟩ := log_eq_append hlog
    obtain ⟨fs, gs, rfl, rfl, -⟩ := log_eq_append hlater.symm
    rw [hsplit, ← List.append_assoc] at hsorted hclose
    rw [pollInstants_append] at hsorted
    exact postponedCount_le_one (List.pairwise_append.mp hsorted).1
      (List.pairwise_append.mp hclose).1 hnone
  · have hcredit := @credit_run c [] polled hordered
    have hfresh : credit (run c {} []) = 0 := rfl
    rw [log_append, postponedCount_append, readyCount_append, postponedCount_log_of_no_poll hpoll]
    rw [run_nil] at hcredit
    rw [run_nil] at hfresh
    omega
  · intro hc
    rw [postponedCount, List.countP_eq_zero]
    intro e he
    obtain ⟨before, after, hlog⟩ := List.append_of_mem he
    obtain ⟨fs, event, gs, -, -, hout⟩ := log_eq_append_cons hlog
    rw [hout]
    cases event with
    | add | takeRest => simp [apply, Outcome.isPostponed]
    | poll => simp [apply, not_isPostponed_of_spacing_eq_zero hc]

end WorkloadScan.Debouncer
