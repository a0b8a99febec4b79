import WorkloadScan.Proofs.Debouncer.Log

/-! What is pending is what has come since the last take, and each take hands over just that. Only
the first take of a run may be discarded. -/
namespace WorkloadScan.Debouncer
open Table (ofList latest)
variable {c : Config} {now : Instant} {d : Debouncer} {event : Event}

theorem taken_poll {batch : Batch} (h : (Outcome.polled (d.poll c now).2).taken? = some batch) :
    batch = d.pending ∧ (d.poll c now).1.pending = .empty := by
  have hp := polled_poll c now d
  generalize d.poll c now = r at h hp ⊢
  cases hp with
  | early | nothing | postponed => cases h
  | discarded | ready =>
    cases h
    exact ⟨rfl, rfl⟩

theorem taken_takeRest {batch : Batch}
    (h : (Outcome.ended (d.takeRest c now).2).taken? = some batch) :
    batch = d.pending ∧ (d.takeRest c now).1.pending = .empty := by
  have hr := restTaken_takeRest c now d
  generalize d.takeRest c now = r at h hr ⊢
  cases hr <;> cases h <;> exact ⟨rfl, rfl⟩

theorem taken_apply {batch : Batch} (h : (d.apply c now event).2.taken? = some batch) :
    batch = d.pending ∧ (d.apply c now event).1.pending = .empty := by
  cases event with
  | add key revision => cases h
  | poll => exact taken_poll h
  | takeRest => exact taken_takeRest h

theorem pending_poll (h : (Outcome.polled (d.poll c now).2).taken? = none) :
    (d.poll c now).1.pending = d.pending := by
  have hp := polled_poll c now d
  generalize d.poll c now = r at h hp ⊢
  cases hp with
  | early | nothing | postponed => rfl
  | discarded | ready => cases h

theorem takeRest_taken (c : Config) (now : Instant) (d : Debouncer) :
    (Outcome.ended (d.takeRest c now).2).taken? = some d.pending := by
  have hr := restTaken_takeRest c now d
  generalize d.takeRest c now = r at hr ⊢
  cases hr <;> rfl

theorem pending_apply (h : (d.apply c now event).2.taken? = none) :
    (d.apply c now event).1.pending =
      match (d.apply c now event).2.added? with
      | some (key,revision) => d.pending.insert key revision
      | none => d.pending := by
  cases event with
  | add key revision => rfl
  | poll => exact pending_poll h
  | takeRest =>
    rw [apply, takeRest_taken] at h
    cases h

/-- The pending changes are those that have come since the last take. -/
theorem pending_run (c : Config) (events : List (Instant × Event)) :
    (run c {} events).pending = ofList (sinceTake (log c {} events)) := by
  induction events using List.reverseRecOn with
  | nil => rfl
  | append_singleton events e ih =>
    obtain ⟨now, event⟩ := e
    rw [run_concat, log_concat, sinceTake_concat]
    cases ht : ((run c {} events).apply c now event).2.taken? with
    | some batch => simpa using (taken_apply ht).2
    | none =>
      rw [pending_apply ht]
      cases ha : ((run c {} events).apply c now event).2.added? with
      | none => simpa using ih
      | some change =>
        obtain ⟨key, revision⟩ := change
        simp [ih]

/-- The batch of a take holds what has come since the take before. -/
theorem taken_eq_ofList {events : List (Instant × Event)}
    {before after : List (Instant × Outcome)} {outcome : Outcome} {batch : Batch}
    (h : log c {} events = before ++ (now,outcome) :: after) (ht : outcome.taken? = some batch) :
    batch = ofList (sinceTake before) := by
  obtain ⟨fs, event, gs, rfl, rfl, rfl⟩ := log_eq_append_cons h
  rw [(taken_apply ht).1, pending_run]

theorem isEmpty_taken_poll {batch : Batch}
    (h : (Outcome.polled (d.poll c now).2).taken? = some batch) : batch.isEmpty = false := by
  have hp := polled_poll c now d
  generalize d.poll c now = r at h hp
  cases hp with
  | early | nothing | postponed => cases h
  | discarded late full | ready late full =>
    cases h
    exact full

theorem flushed_apply {batch : Batch} :
    (d.apply c now event).2.flushed? = some batch ↔
      (d.apply c now event).2.taken? = some batch ∧
        (d.apply c now event).2.isDiscard = false ∧ batch.isEmpty = false := by
  cases event with
  | add key revision => simp [apply, Outcome.flushed?, Outcome.taken?]
  | poll =>
    have hempty := @isEmpty_taken_poll c now d batch
    simp only [apply]
    generalize (d.poll c now).2 = p at hempty ⊢
    cases p <;> simp_all [Outcome.flushed?, Outcome.taken?, Outcome.isDiscard]
  | takeRest =>
    simp only [apply]
    generalize (d.takeRest c now).2 = r
    cases r with
    | discarded => simp [Outcome.flushed?, Outcome.isDiscard]
    | ready rest =>
      simp only [Outcome.flushed?, Outcome.taken?, Outcome.isDiscard]
      split <;> grind

/-! ### The discarded take -/

/-- The timer has taken something. -/
def Outcome.IsTimerTake (o : Outcome) : Prop := o.cause = .poll ∧ o.taken? ≠ none

theorem isDiscard_apply :
    (d.apply c now event).2.isDiscard = true ↔
      c.discardFirst = true ∧ d.first = true ∧ (d.apply c now event).2.taken? ≠ none := by
  cases event with
  | add key revision => simp [apply, Outcome.isDiscard, Outcome.taken?]
  | poll =>
    have hp := polled_poll c now d
    simp only [apply]
    generalize d.poll c now = r at hp ⊢
    cases hp with
    | early | nothing | postponed => simp [Outcome.isDiscard, Outcome.taken?]
    | discarded late full first discard =>
      simp [Outcome.isDiscard, Outcome.taken?, first, discard]
    | ready late full kept spaced =>
      simp only [Outcome.isDiscard, Outcome.taken?]
      grind
  | takeRest =>
    have hr := restTaken_takeRest c now d
    simp only [apply]
    generalize d.takeRest c now = r at hr ⊢
    cases hr with
    | discarded first discard => simp [Outcome.isDiscard, Outcome.taken?, first, discard]
    | ready kept =>
      simp only [Outcome.isDiscard, Outcome.taken?]
      grind

theorem first_apply (hc : c.discardFirst = true) :
    (d.apply c now event).1.first = true ↔
      d.first = true ∧ ¬(d.apply c now event).2.IsTimerTake := by
  cases event with
  | add key revision => simp [apply, add, Outcome.IsTimerTake, Outcome.cause]
  | takeRest =>
    have hr := restTaken_takeRest c now d
    simp only [apply, Outcome.IsTimerTake, Outcome.cause]
    generalize d.takeRest c now = r at hr ⊢
    cases hr <;> simp [emptied]
  | poll =>
    have hp := polled_poll c now d
    simp only [apply]
    generalize d.poll c now = r at hp ⊢
    cases hp with
    | early | nothing => simp [Outcome.IsTimerTake, Outcome.taken?]
    | discarded | ready => simp [Outcome.IsTimerTake, Outcome.cause, Outcome.taken?]
    | postponed late full kept wait =>
      simp only [Outcome.IsTimerTake, Outcome.cause, Outcome.taken?]
      grind

theorem first_run (hc : c.discardFirst = true) (events : List (Instant × Event)) :
    (run c {} events).first = true ↔ ∀ e ∈ log c {} events, ¬e.2.IsTimerTake := by
  induction events using List.reverseRecOn with
  | nil => simp [log]
  | append_singleton events e ih =>
    obtain ⟨now, event⟩ := e
    rw [run_concat, log_concat, first_apply hc, ih]
    simp only [List.forall_mem_append, List.forall_mem_singleton]

/-- Only the first take of a run is ever discarded. -/
theorem isDiscard_iff_first {events : List (Instant × Event)}
    {before after : List (Instant × Outcome)} {outcome : Outcome} (hclose : ClosesLast events)
    (h : log c {} events = before ++ (now,outcome) :: after) :
    outcome.isDiscard = true ↔
      c.discardFirst = true ∧ outcome.taken? ≠ none ∧ ∀ e ∈ before, e.2.taken? = none := by
  obtain ⟨fs, event, gs, rfl, rfl, rfl⟩ := log_eq_append_cons h
  rw [isDiscard_apply]
  constructor
  · rintro ⟨hc, hfirst, htaken⟩
    refine ⟨hc, htaken, fun e he => ?_⟩
    by_contra htake
    have hmem : (e.1,e.2.cause) ∈ fs := by
      rw [← map_cause_log c {} fs]
      exact List.mem_map_of_mem he
    cases hev : e.2.cause with
    | add key revision =>
      have hnone : e.2.taken? = none := by
        cases ho : e.2 <;> simp_all [Outcome.cause, Outcome.taken?]
      exact htake hnone
    | poll => exact (first_run hc fs).mp hfirst e he ⟨hev, htake⟩
    | takeRest =>
      have hadd : event.isAdd = true :=
        (List.pairwise_append.mp hclose).2.2 _ hmem _ List.mem_cons_self hev
      cases event with
      | add key revision => exact htaken rfl
      | poll | takeRest => cases hadd
  · rintro ⟨hc, htaken, hbefore⟩
    refine ⟨hc, (first_run hc fs).mpr fun e he htimer => ?_, htaken⟩
    exact htimer.2 (hbefore e he)

end WorkloadScan.Debouncer
