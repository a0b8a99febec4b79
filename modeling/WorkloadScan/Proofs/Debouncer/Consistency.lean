import WorkloadScan.Proofs.Debouncer.Spacing

/-! How the fields of a debouncer agree between its steps. As long as the rest has not been taken
and time does not go back, there is a deadline just while something is pending, and it is the end of
the spacing or of a quiet period. So a poll does something just when the deadline has come. -/
namespace WorkloadScan.Debouncer
variable {c : Config} {now : Nat} {added : Option Instant} {d : Debouncer} {event : Event}
  {events es fs : List (Instant × Event)}

def lastAdd (events : List (Instant × Event)) : Option Instant :=
  (events.filter (·.2.isAdd)).getLast?.map Prod.fst

theorem lastAdd_concat (events : List (Instant × Event)) (now : Instant) (event : Event) :
    lastAdd (events ++ [(now,event)]) = if event.isAdd then some now else lastAdd events := by
  cases h : event.isAdd <;> simp [lastAdd, h]

/-- Changes and polls at instants that do not go back, the last of them at `now` or before. -/
structure IsOngoing (events : List (Instant × Event)) (now : Nat) : Prop where
  sorted : (events.map Prod.fst ++ [now]).Pairwise (· ≤ ·)
  noRest : ∀ e ∈ events, e.2 ≠ .takeRest

theorem IsOngoing.of_concat {t : Nat} (h : IsOngoing (events ++ [(t,event)]) now) :
    IsOngoing events t ∧ t ≤ now ∧ event ≠ .takeRest := by
  obtain ⟨hsorted, hrest⟩ := h
  rw [List.map_append] at hsorted
  obtain ⟨hearlier, -, hnow⟩ := List.pairwise_append.mp hsorted
  exact ⟨⟨hearlier, fun e he => hrest e (List.mem_append_left _ he)⟩,
    hnow t (by simp) now (by simp), hrest (t,event) (by simp)⟩

/-- How the fields agree at an instant if the last change came at `added`. -/
structure IsConsistent (c : Config) (now : Nat) (added : Option Instant) (d : Debouncer) :
    Prop where
  armed : d.deadline.isSome = true ↔ d.pending.isEmpty = false
  /-- A flush that was put off waits for the end of the spacing. -/
  spaced : d.rateLimited = true →
    ∃ last : Nat, d.lastFlush = some last ∧ d.deadline = some (last + c.spacing)
  /-- Any other flush waits for the end of the quiet period. -/
  quiet : d.rateLimited = false → d.pending.isEmpty = false →
    ∃ last : Nat, added = some last ∧ d.deadline = some (last + c.quiet)
  fresh : d.first = true → d.lastFlush = none ∧ d.rateLimited = false
  past : ∀ last : Nat, d.lastFlush = some last → last ≤ now

/-- What a stretch of events leaves of the debouncer before it. -/
structure Continues (c : Config) (d : Debouncer) (events : List (Instant × Event)) : Prop where
  forward : ∀ last : Nat, d.lastFlush = some last →
    ∃ later : Nat, (run c d events).lastFlush = some later ∧ last ≤ later
  /-- Changes do not move the deadline of a flush that was put off, nor do polls before it. -/
  kept : d.rateLimited = true → ∀ due : Nat, d.deadline = some due →
    (∀ e ∈ events, e.2 = .poll → e.1 < due) →
      (run c d events).rateLimited = true ∧ (run c d events).deadline = some due

/-! ### What a step keeps -/

theorem IsConsistent.mono {later : Nat} (h : IsConsistent c now added d) (hle : now ≤ later) :
    IsConsistent c later added d :=
  { h with past := fun last hlast => Nat.le_trans (h.past last hlast) hle }

theorem IsConsistent.isPaced (h : IsConsistent c now added d) : IsPaced c now d := by
  refine ⟨h.past, fun hlimited => ?_⟩
  obtain ⟨last, hlast, hdue⟩ := h.spaced hlimited
  have hfull : d.pending.isEmpty = false := h.armed.mp (by simp [hdue])
  refine ⟨?_, hfull, last, hlast, hdue⟩
  cases hfirst : d.first with
  | false => rfl
  | true => simp [(h.fresh hfirst).2] at hlimited

theorem IsPaced.spaced (h : IsPaced c now d) (hlimited : d.rateLimited = true) :
    ∃ last : Nat, d.lastFlush = some last ∧ d.deadline = some (last + c.spacing) := by
  obtain ⟨-, -, last, hlast, hdue⟩ := h.kept hlimited
  exact ⟨last, hlast, hdue⟩

theorem isConsistent_of_isEmpty (hempty : d.pending.isEmpty = true) (hdeadline : d.deadline = none)
    (hfree : d.rateLimited = false) (hfresh : d.first = true → d.lastFlush = none)
    (hpast : ∀ last : Nat, d.lastFlush = some last → last ≤ now) : IsConsistent c now added d :=
  ⟨by simp [hempty, hdeadline], by simp [hfree], by simp [hempty],
    fun hfirst => ⟨hfresh hfirst, hfree⟩, hpast⟩

theorem isConsistent_add (h : IsConsistent c now added d) (key : Resource.Key)
    (revision : Resource.Revision) :
    IsConsistent c now (some now) (d.add c now key revision) where
  armed := by
    rw [add, Table.isEmpty_insert]
    cases hlimited : d.rateLimited with
    | false => simp
    | true =>
      obtain ⟨last, -, hdue⟩ := h.spaced hlimited
      simp [hdue]
  spaced := (isPaced_add h.isPaced now key revision).spaced
  quiet hfree _ := by
    have hold : d.rateLimited = false := hfree
    exact ⟨now, rfl, by simp [add, hold]⟩
  fresh := h.fresh
  past := h.past

theorem isConsistent_poll (h : IsConsistent c now added d) :
    IsConsistent c now added (d.poll c now).1 := by
  have hpaced := isPaced_poll h.isPaced (Nat.le_refl now)
  have hp := polled_poll c now d
  generalize d.poll c now = r at hpaced hp ⊢
  cases hp with
  | early => exact h
  | nothing late void =>
    exact isConsistent_of_isEmpty void rfl rfl (fun hfirst => (h.fresh hfirst).1) h.past
  | discarded late full first =>
    -- Only the first flush is discarded, and it is never put off.
    exact isConsistent_of_isEmpty rfl rfl (h.fresh first).2 (by simp) h.past
  | postponed late full => exact ⟨by simp [full], hpaced.spaced, by simp, by simp, h.past⟩
  | ready => exact isConsistent_of_isEmpty rfl rfl rfl (by simp) (by simp)

theorem isConsistent_apply (h : IsConsistent c now added d) (hrest : event ≠ .takeRest) :
    IsConsistent c now (if event.isAdd then some now else added) (d.apply c now event).1 := by
  cases event with
  | add key revision => exact isConsistent_add h key revision
  | poll => exact isConsistent_poll h
  | takeRest => exact absurd rfl hrest

theorem IsConsistent.lastFlush_apply (h : IsConsistent c now added d) (hrest : event ≠ .takeRest)
    {last : Nat} (hlast : d.lastFlush = some last) :
    ∃ later : Nat, (d.apply c now event).1.lastFlush = some later ∧ last ≤ later := by
  cases event with
  | add key revision => exact ⟨last, hlast, Nat.le_refl last⟩
  | takeRest => exact absurd rfl hrest
  | poll =>
    cases hready : (Outcome.polled (d.poll c now).2).isReady with
    | true =>
      exact ⟨now, (spaced_of_isReady h.isPaced (Nat.le_refl now) hready).2, h.past last hlast⟩
    | false => exact ⟨last, (lastFlush_of_not_isReady hready).trans hlast, Nat.le_refl last⟩

/-! ### Polls before the deadline -/

theorem poll_of_early {due : Nat} (hdue : d.deadline = some due) (h : now < due) :
    d.poll c now = (d,.idle) := by
  have hearly : d.isEarly now = true := by simpa [isEarly, hdue] using h
  simp [poll, hearly]

theorem IsConsistent.poll_of_not_armed (h : IsConsistent c now added d) (hnone : d.deadline = none)
    (t : Instant) : d.poll c t = (d,.idle) := by
  have hempty : d.pending.isEmpty = true := by
    by_contra hfull
    have harmed := h.armed.mpr (by simpa using hfull)
    simp [hnone] at harmed
  have hfree : d.rateLimited = false := by
    by_contra hlimited
    obtain ⟨last, -, hdue⟩ := h.spaced (by simpa using hlimited)
    cases hnone.symm.trans hdue
  have hsame : { d with deadline := none, rateLimited := false } = d := by
    rw [← hnone, ← hfree]
  simp [poll, isEarly, hnone, hempty, hsame]

theorem IsConsistent.poll_ne_idle (h : IsConsistent c now added d) {t due : Nat}
    (hdue : d.deadline = some due) (hle : due ≤ t) : (d.poll c t).2 ≠ .idle := by
  have hfull : d.pending.isEmpty = false := h.armed.mp (by simp [hdue])
  have hp := polled_poll c t d
  generalize d.poll c t = r at hp ⊢
  cases hp with
  | early early =>
    have hlt : t < due := by simpa [isEarly, hdue] using early
    exact absurd hle (Nat.not_le.mpr hlt)
  | nothing late void =>
    rw [hfull] at void
    cases void
  | discarded | postponed | ready => simp

/-- A poll changes nothing just when it finds no deadline that has come. -/
theorem IsConsistent.poll_eq_idle (h : IsConsistent c now added d) (t : Nat) :
    d.poll c t = (d,.idle) ↔ ∀ due : Nat, d.deadline = some due → t < due := by
  constructor
  · intro hidle due hdue
    by_contra hle
    exact h.poll_ne_idle hdue (Nat.le_of_not_lt hle) (by rw [hidle])
  · intro hearly
    cases hdue : d.deadline with
    | none => exact h.poll_of_not_armed hdue t
    | some due => exact poll_of_early hdue (hearly due hdue)

/-! ### Whole runs -/

theorem isConsistent_run (h : IsOngoing events now) :
    IsConsistent c now (lastAdd events) (run c {} events) := by
  induction events using List.reverseRecOn generalizing now with
  | nil => exact isConsistent_of_isEmpty rfl rfl rfl (fun _ => rfl) (by simp)
  | append_singleton events e ih =>
    obtain ⟨hbefore, hnow, hrest⟩ := h.of_concat
    rw [run_concat, lastAdd_concat]
    exact (isConsistent_apply (ih hbefore) hrest).mono hnow

theorem lastFlush_run (h : IsOngoing (es ++ fs) now) {last : Nat}
    (hlast : (run c {} es).lastFlush = some last) :
    ∃ later : Nat, (run c {} (es ++ fs)).lastFlush = some later ∧ last ≤ later := by
  induction fs using List.reverseRecOn generalizing now with
  | nil => exact ⟨last, by simpa using hlast, Nat.le_refl last⟩
  | append_singleton fs e ih =>
    rw [← List.append_assoc] at h ⊢
    obtain ⟨hbefore, -, hrest⟩ := h.of_concat
    obtain ⟨middle, hmiddle, hle⟩ := ih hbefore
    obtain ⟨later, hlater, hle'⟩ := (isConsistent_run hbefore).lastFlush_apply hrest hmiddle
    rw [run_concat]
    exact ⟨later, hlater, Nat.le_trans hle hle'⟩

theorem run_of_rateLimited {due : Nat} (hlimited : d.rateLimited = true)
    (hdue : d.deadline = some due) (hrest : ∀ e ∈ events, e.2 ≠ .takeRest)
    (hearly : ∀ e ∈ events, e.2 = .poll → e.1 < due) :
    (run c d events).rateLimited = true ∧ (run c d events).deadline = some due := by
  induction events using List.reverseRecOn with
  | nil => exact ⟨hlimited, hdue⟩
  | append_singleton events e ih =>
    obtain ⟨t, event⟩ := e
    obtain ⟨hbefore, hlast⟩ := List.forall_mem_append.mp hrest
    obtain ⟨hearlier, hpoll⟩ := List.forall_mem_append.mp hearly
    obtain ⟨hold, hsame⟩ := ih hbefore hearlier
    rw [run_concat]
    cases event with
    | add key revision => exact ⟨hold, by simp [apply, add, hold, hsame]⟩
    | poll =>
      have hlt : t < due := hpoll (t,.poll) (by simp) rfl
      rw [apply, poll_of_early hsame hlt]
      exact ⟨hold, hsame⟩
    | takeRest => exact absurd rfl (hlast (t,.takeRest) (by simp))

theorem continues_run (h : IsOngoing (es ++ fs) now) : Continues c (run c {} es) fs where
  forward last hlast := by
    rw [← run_append]
    exact lastFlush_run h hlast
  kept hlimited due hdue hearly :=
    run_of_rateLimited hlimited hdue (fun e he => h.noRest e (List.mem_append_right _ he)) hearly

end WorkloadScan.Debouncer
