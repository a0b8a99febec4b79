import WorkloadScan.Proofs.Debouncer.Age

/-! Quiet periods before takes. The timer takes nothing until a quiet period has passed since some
change, and unless the flush was put off that is the last change: no burst is cut short. Polls come
at any instants, late or early, and may even have read the clock before the last change came. -/
namespace WorkloadScan.Debouncer
variable {c : Config} {now : Nat} {d : Debouncer} {events : List (Instant × Event)}
  {entries : List (Instant × Outcome)} {a : Arrival}

/-- Changes do not go back in time: none bears an instant before that of an earlier event. -/
def AddsForward (events : List (Instant × Event)) : Prop :=
  events.Pairwise fun a b => b.2.isAdd = true → a.1 ≤ b.1

/-- No change comes within the quiet period that starts at an instant. -/
def IsQuiet (quiet : Nat) (start : Nat) (events : List (Instant × Event)) : Prop :=
  ∀ e ∈ events, e.2.isAdd = true → e.1 ≤ start ∨ start + quiet ≤ e.1

/-- By an instant the quiet period is over that started with a change not taken yet. -/
structure HasRested (c : Config) (events : List (Instant × Event))
    (entries : List (Instant × Outcome)) (a : Arrival) (now : Nat) : Prop where
  untaken : a ∈ arrivalsSinceTake entries
  passed : a.time + c.quiet ≤ now
  quiet : IsQuiet c.quiet a.time events

def sinceLastTake (entries : List (Instant × Outcome)) : List (Instant × Outcome) :=
  entries.rtakeWhile fun e => e.2.taken?.isNone

theorem arrivalsSinceTake_concat (entries : List (Instant × Outcome)) (e : Instant × Outcome) :
    arrivalsSinceTake (entries ++ [e]) = noteArrival (arrivalsSinceTake entries) e := by
  simp [arrivalsSinceTake]

theorem noteArrival_of_taken {arrivals : List Arrival} {e : Instant × Outcome} {batch : Batch}
    (h : e.2.taken? = some batch) : noteArrival arrivals e = [] := by
  simp [noteArrival, h]

theorem noteArrival_of_idle {arrivals : List Arrival} {e : Instant × Outcome}
    (htaken : e.2.taken? = none) (hadded : e.2.added? = none) : noteArrival arrivals e = arrivals := by
  simp [noteArrival, htaken, hadded]

theorem sinceLastTake_concat (entries : List (Instant × Outcome)) (e : Instant × Outcome) :
    sinceLastTake (entries ++ [e]) =
      if e.2.taken?.isSome then [] else sinceLastTake entries ++ [e] := by
  rw [sinceLastTake, List.rtakeWhile_concat]
  cases h : e.2.taken? <;> simp [sinceLastTake]

/-! ### What every run keeps -/

/-- How the deadline goes by the changes since the last take. Unless a flush was put off it is the
end of the quiet period of the last one; else a quiet period was over when the flush was put off. -/
structure Heeds (c : Config) (events : List (Instant × Event))
    (entries : List (Instant × Outcome)) (d : Debouncer) : Prop where
  full : d.pending.isEmpty = (arrivalsSinceTake entries).isEmpty
  kept : d.rateLimited = true → d.first = false
  last : ∀ a ∈ (arrivalsSinceTake entries).getLast?, ∀ e ∈ events, e.2.isAdd = true → e.1 ≤ a.time
  due : d.rateLimited = false → d.deadline = (arrivalsSinceTake entries).getLast?.map
    (·.time + c.quiet)
  putOff : d.rateLimited = true → ∃ a t due, HasRested c events entries a t ∧ (t,.poll) ∈ events ∧
    d.deadline = some due ∧ t ≤ due
  free : postponedCount (sinceLastTake entries) = 0 → d.rateLimited = false

theorem heeds_fresh (c : Config) : Heeds c [] [] {} :=
  ⟨rfl, by simp, by simp [arrivalsSinceTake], fun _ => rfl, by simp, fun _ => rfl⟩

theorem Heeds.rested (h : Heeds c events entries d) (hlate : d.isEarly now = false)
    (hfull : d.pending.isEmpty = false) :
    ∃ a, HasRested c events entries a now ∧
      (d.rateLimited = false → (arrivalsSinceTake entries).getLast? = some a) := by
  cases hlimited : d.rateLimited with
  | true =>
    obtain ⟨a, t, due, hrested, -, hdeadline, hle⟩ := h.putOff hlimited
    have hdue : due ≤ now := by simpa [isEarly, hdeadline] using hlate
    have hpassed : a.time + c.quiet ≤ now := Nat.le_trans hrested.passed (Nat.le_trans hle hdue)
    exact ⟨a, { hrested with passed := hpassed }, by simp⟩
  | false =>
    rw [h.full] at hfull
    obtain ⟨a, hlast⟩ : ∃ a, (arrivalsSinceTake entries).getLast? = some a :=
      Option.isSome_iff_exists.mp (by simpa using hfull)
    have hover : a.time + c.quiet ≤ now := by
      simpa [isEarly, h.due hlimited, hlast] using hlate
    have hquiet : IsQuiet c.quiet a.time events := fun e he hadd => .inl (h.last a hlast e he hadd)
    exact ⟨a, ⟨List.mem_of_getLast? hlast, hover, hquiet⟩, fun _ => hlast⟩

theorem Heeds.exists_deadline (h : Heeds c events entries d) (hfull : d.pending.isEmpty = false) :
    ∃ due, d.deadline = some due := by
  cases hlimited : d.rateLimited with
  | true =>
    obtain ⟨-, -, due, -, -, hdeadline, -⟩ := h.putOff hlimited
    exact ⟨due, hdeadline⟩
  | false =>
    rw [h.full] at hfull
    obtain ⟨a, hlast⟩ : ∃ a, (arrivalsSinceTake entries).getLast? = some a :=
      Option.isSome_iff_exists.mp (by simpa using hfull)
    exact ⟨_, by rw [h.due hlimited, hlast]; rfl⟩

theorem forall_add_concat {p : Instant × Event → Prop} {e : Instant × Event}
    (h : ∀ f ∈ events, f.2.isAdd = true → p f) (he : e.2.isAdd = true → p e) :
    ∀ f ∈ events ++ [e], f.2.isAdd = true → p f := by
  intro f hf
  rcases List.mem_append.mp hf with hold | hnew
  · exact h f hold
  · exact List.mem_singleton.mp hnew ▸ he

theorem forall_add_concat_poll {p : Instant × Event → Prop}
    (h : ∀ f ∈ events, f.2.isAdd = true → p f) :
    ∀ f ∈ events ++ [(now,.poll)], f.2.isAdd = true → p f :=
  forall_add_concat h (by simp [Event.isAdd])

theorem heeds_add {key : Resource.Key} {revision : Resource.Revision}
    (h : Heeds c events entries d) (hforward : ∀ e ∈ events, e.1 ≤ now) :
    Heeds c (events ++ [(now,.add key revision)]) (entries ++ [(now,.added key revision)])
      (d.add c now key revision) := by
  have harrivals : arrivalsSinceTake (entries ++ [(now,.added key revision)]) =
      arrivalsSinceTake entries ++ [⟨now,(key,revision)⟩] := by
    rw [arrivalsSinceTake_concat]
    rfl
  refine ⟨?_, h.kept, ?_, ?_, ?_, ?_⟩
  · rw [harrivals, add, Table.isEmpty_insert]
    simp
  · intro a ha
    rw [harrivals, List.getLast?_concat, Option.mem_some_iff] at ha
    subst ha
    exact forall_add_concat (fun e he _ => hforward e he) fun _ => Nat.le_refl now
  · intro hfree
    have hold : d.rateLimited = false := hfree
    simp [add, hold, harrivals]
  · intro hlimited
    have hold : d.rateLimited = true := hlimited
    obtain ⟨a, t, due, hrested, hpoll, hdeadline, hle⟩ := h.putOff hold
    have hafter : a.time + c.quiet ≤ now := Nat.le_trans hrested.passed (hforward _ hpoll)
    refine ⟨a, t, due, ⟨?_, hrested.passed, forall_add_concat hrested.quiet fun _ => .inr hafter⟩,
      List.mem_append_left _ hpoll, by simp [add, hold, hdeadline], hle⟩
    rw [harrivals]
    exact List.mem_append_left _ hrested.untaken
  · intro hnone
    rw [sinceLastTake_concat] at hnone
    refine h.free ?_
    simpa [postponedCount, Outcome.taken?, Outcome.isPostponed] using hnone

theorem heeds_idle {e : Instant × Outcome} (h : Heeds c events entries d)
    (htaken : e.2.taken? = none) (hadded : e.2.added? = none) (hkept : e.2.isPostponed = false) :
    Heeds c (events ++ [(now,.poll)]) (entries ++ [e]) d := by
  have harrivals : arrivalsSinceTake (entries ++ [e]) = arrivalsSinceTake entries := by
    rw [arrivalsSinceTake_concat, noteArrival_of_idle htaken hadded]
  refine ⟨harrivals ▸ h.full, h.kept, ?_, harrivals ▸ h.due, ?_, ?_⟩
  · exact fun a ha => forall_add_concat_poll (h.last a (harrivals ▸ ha))
  · intro hlimited
    obtain ⟨a, t, due, hrested, hpoll, hdeadline, hle⟩ := h.putOff hlimited
    exact ⟨a, t, due,
      ⟨harrivals ▸ hrested.untaken, hrested.passed, forall_add_concat_poll hrested.quiet⟩,
      List.mem_append_left _ hpoll, hdeadline, hle⟩
  · intro hnone
    rw [sinceLastTake_concat, htaken] at hnone
    refine h.free ?_
    simpa [postponedCount, hkept] using hnone

theorem heeds_of_taken {batch : Batch} {e : Instant × Outcome} (htaken : e.2.taken? = some batch)
    (hempty : d.pending.isEmpty = true) (hdeadline : d.deadline = none)
    (hfree : d.rateLimited = false) : Heeds c (events ++ [(now,.poll)]) (entries ++ [e]) d := by
  have hnone : arrivalsSinceTake (entries ++ [e]) = [] := by
    rw [arrivalsSinceTake_concat, noteArrival_of_taken htaken]
  exact ⟨by rw [hnone, hempty]; rfl, by simp [hfree], by simp [hnone], by simp [hnone, hdeadline],
    by simp [hfree], fun _ => hfree⟩

theorem heeds_poll (h : Heeds c events entries d) :
    Heeds c (events ++ [(now,.poll)]) (entries ++ [(now,.polled (d.poll c now).2)])
      (d.poll c now).1 := by
  have hp := polled_poll c now d
  generalize d.poll c now = r at hp ⊢
  cases hp with
  | early => exact heeds_idle h rfl rfl rfl
  | nothing late void =>
    have hnone : arrivalsSinceTake entries = [] := List.isEmpty_iff.mp (h.full ▸ void)
    refine heeds_idle ⟨h.full, by simp, h.last, ?_, by simp, fun _ => rfl⟩ rfl rfl rfl
    simp [hnone]
  | discarded late full first =>
    refine heeds_of_taken rfl rfl rfl ?_
    cases hlimited : d.rateLimited with
    | true => simp [h.kept hlimited] at first
    | false => exact hlimited
  | ready => exact heeds_of_taken rfl rfl rfl rfl
  | postponed late full kept wait =>
    have harrivals : arrivalsSinceTake
        (entries ++ [(now,.polled (.postponed (d.remaining c now) d.pending.size))]) =
          arrivalsSinceTake entries := by
      rw [arrivalsSinceTake_concat, noteArrival_of_idle rfl rfl]
    obtain ⟨a, hrested, -⟩ := h.rested late full
    refine ⟨harrivals ▸ h.full, fun _ => rfl, ?_, by simp, fun _ => ?_, ?_⟩
    · exact fun a ha => forall_add_concat_poll (h.last a (harrivals ▸ ha))
    · exact ⟨a, now, _,
        ⟨harrivals ▸ hrested.untaken, hrested.passed, forall_add_concat_poll hrested.quiet⟩,
        by simp, rfl, Nat.le_add_right _ _⟩
    · intro hnone
      simp [sinceLastTake_concat, postponedCount, Outcome.taken?, Outcome.isPostponed] at hnone

theorem heeds_run (hforward : AddsForward events) (hrest : ∀ e ∈ events, e.2 ≠ .takeRest) :
    Heeds c events (log c {} events) (run c {} events) := by
  induction events using List.reverseRecOn with
  | nil => exact heeds_fresh c
  | append_singleton events e ih =>
    obtain ⟨now, event⟩ := e
    obtain ⟨hbefore, -, hlast⟩ := List.pairwise_append.mp hforward
    have hold := ih hbefore fun e he => hrest e (List.mem_append_left _ he)
    rw [log_concat, run_concat]
    cases event with
    | add key revision => exact heeds_add hold fun e he => hlast e he _ (List.mem_singleton_self _) rfl
    | poll => exact heeds_poll hold
    | takeRest => exact absurd rfl (hrest (now,.takeRest) (by simp))

/-! ### Takes of the timer -/

theorem no_takeRest_of_closesLast {fs gs : List (Instant × Event)} {e : Instant × Event}
    (hclose : ClosesLast (fs ++ e :: gs)) (he : e.2.isAdd = false) : ∀ f ∈ fs, f.2 ≠ .takeRest := by
  intro f hf htake
  have hadd := (List.pairwise_append.mp hclose).2.2 f hf e List.mem_cons_self htake
  rw [he] at hadd
  cases hadd

/-- Each take of the timer comes after a quiet period that started with a change taken by it. If the
flush was not put off, that is the last change before the take. -/
def TakesRested (c : Config) (events : List (Instant × Event)) : Prop :=
  ∀ before now outcome after, log c {} events = before ++ (now,outcome) :: after →
    outcome.IsTimerTake → ∃ a, HasRested c events before a now ∧
      (postponedCount (sinceLastTake before) = 0 → (arrivalsSinceTake before).getLast? = some a)

theorem late_of_isTimerTake (h : (Outcome.polled (d.poll c now).2).IsTimerTake) :
    d.isEarly now = false ∧ d.pending.isEmpty = false := by
  have hp := polled_poll c now d
  generalize d.poll c now = r at h hp
  cases hp with
  | early | nothing | postponed => exact absurd rfl h.2
  | discarded late full | ready late full => exact ⟨late, full⟩

theorem takesRested (hforward : AddsForward events) (hclose : ClosesLast events) :
    TakesRested c events := by
  intro before now outcome after hlog htake
  obtain ⟨fs, event, gs, rfl, rfl, rfl⟩ := log_eq_append_cons hlog
  have hpoll : event = .poll := (cause_apply c now (run c {} fs) event).symm.trans htake.1
  subst hpoll
  obtain ⟨hbefore, hrest, hcross⟩ := List.pairwise_append.mp hforward
  have hheeds := @heeds_run c fs hbefore (no_takeRest_of_closesLast hclose rfl)
  obtain ⟨hlate, hfull⟩ := late_of_isTimerTake htake
  obtain ⟨a, hrested, hlast⟩ := hheeds.rested hlate hfull
  refine ⟨a, ⟨hrested.untaken, hrested.passed, ?_⟩, fun hnone => hlast (hheeds.free hnone)⟩
  intro e he hadd
  rcases List.mem_append.mp he with hold | hnew
  · exact hrested.quiet e hold hadd
  · rcases List.mem_cons.mp hnew with rfl | hlater
    · cases hadd
    · exact .inr (Nat.le_trans hrested.passed ((List.pairwise_cons.mp hrest).1 e hlater hadd))

end WorkloadScan.Debouncer
