import WorkloadScan.Proofs.Debouncer.Consistency
import WorkloadScan.Proofs.Debouncer.Quiet
import WorkloadScan.Proofs.Engine.Counting

/-! The flusher's timer in a run of the engine. It takes nothing within a burst of changes, and the
flusher never waits for an instant that changes have made the wrong one without being woken. A timer
that fires before the deadline changes nothing. -/
namespace WorkloadScan.Engine
open Debouncer (Event ClosesLast AddsForward TakesRested HasRested Heeds IsOngoing IsConsistent
  Continues lastAdd arrivalsSinceTake sinceLastTake postponedCount)
variable {env : Env} {e next : Engine} {a : Action} {actions : List Action} {e₀ : Engine}

/-! ### Takes come after quiet periods -/

theorem addsForward_touches (h : run env actions e₀ = some e) :
    AddsForward (touches (path env actions e₀)) := by
  have hsorted := touches_sorted h
  rw [List.pairwise_map] at hsorted
  refine hsorted.imp ?_
  intro first second hle _
  exact hle

/-- No take of the timer comes before a quiet period that started with a change it takes is over,
and unless it was put off that change is the last one before it. The first part holds of polls at any
instants; the second one says so of a run of the engine, however long a flush keeps the flusher
busy. -/
theorem takes_after_quiet :
    (∀ (c : Config) (events : List (Instant × Event)), AddsForward events → ClosesLast events →
      TakesRested c events) ∧
    ∀ (env : Env) (actions : List Action) (e : Engine), run env actions {} = some e →
      e.debouncer = Debouncer.run env.config {} (touches (path env actions {})) ∧
      TakesRested env.config (touches (path env actions {})) := by
  refine ⟨fun c events => Debouncer.takesRested, fun env actions e h => ?_⟩
  exact ⟨(flushing_run h).1, Debouncer.takesRested (addsForward_touches h) (closesLast_run h)⟩

/-- A poll that has read the clock before the change at 8 finds the deadline of 13 still to come,
and the flush due then is put off to 35. Of the changes at 6, 8 and 33 that it takes in the end, the
quiet period from 8 on is over, but the last one is only 2 old. -/
theorem takes_after_quiet_of_stale_poll :
    let c : Config := { quiet := 5, spacing := 30, discardFirst := false }
    let pod : Resource.Key := ⟨.pod, some "web", "a"⟩
    let add (now : Instant) (version : String) : Instant × Event :=
      (now,.add pod ⟨none, some version⟩)
    let events : List (Instant × Event) := [add 0 "1", (5,.poll), add 6 "2", add 8 "3", (7,.poll),
      (13,.poll), add 33 "4", (35,.poll)]
    let taken : List (Instant × Debouncer.Outcome) :=
      (Debouncer.log c {} events).filter (·.2.taken?.isSome)
    (AddsForward events ∧ ClosesLast events) ∧ taken.map Prod.fst = [5,35] ∧
      ∃ a, HasRested c events ((Debouncer.log c {} events).take 7) a 35 := by
  intro c pod add events taken
  have hforward : AddsForward events := by simp [events, add, AddsForward, Event.isAdd]
  have hclose : ClosesLast events := by simp [events, add, ClosesLast, Event.isAdd]
  obtain ⟨a, hrested, -⟩ := takes_after_quiet.1 c events hforward hclose
    ((Debouncer.log c {} events).take 7) 35 _ [] rfl ⟨rfl, Option.some_ne_none _⟩
  exact ⟨⟨hforward, hclose⟩, rfl, a, hrested⟩

/-! ### No wakeup is lost -/

/-- A flusher that waits either has a signal stored or waits for the deadline, unless a change has
been noted that is not signalled yet. -/
def IsAlert (e : Engine) : Prop :=
  ∀ armed, e.flusher = .waiting armed → e.unsignalled = 0 →
    e.signal = true ∨ armed = e.debouncer.deadline

theorem isAlert_of_busy (h : ∀ armed, next.flusher ≠ .waiting armed) : next.IsAlert :=
  fun armed hwaiting => absurd hwaiting (h armed)

theorem IsAlert.of_same (h : e.IsAlert) (hflusher : next.flusher = e.flusher)
    (hsignal : next.signal = e.signal) (hunsignalled : next.unsignalled = e.unsignalled)
    (hdebouncer : next.debouncer = e.debouncer) : next.IsAlert := by
  intro armed hwaiting hnone
  rw [hsignal, hdebouncer]
  exact h armed (hflusher ▸ hwaiting) (hunsignalled ▸ hnone)

theorem not_waiting_firePoll (e : Engine) (p : Debouncer.Poll) (armed : Option Instant) :
    (firePoll e p).flusher ≠ .waiting armed := by
  cases p <;> simp [firePoll, flush]

theorem not_waiting_flushRest (e : Engine) (r : Debouncer.Remainder) (armed : Option Instant) :
    (flushRest e r).flusher ≠ .waiting armed := by
  cases r with
  | discarded batch => simp [flushRest]
  | ready batch =>
    simp only [flushRest]
    split <;> simp [flush]

theorem isAlert_recordObject (h : e.IsAlert) (c : Config) (kind : Kind) (object : Cluster.Object)
    (targets : List Target) : (recordObject c kind object targets e).IsAlert := by
  unfold recordObject
  split
  · exact h
  · split
    -- A change that has just been noted is not signalled yet.
    · exact fun armed hwaiting hnone => absurd hnone (Nat.succ_ne_zero _)
    · exact h

theorem isAlert_transition (h : Transition env e a next) (halert : e.IsAlert) : next.IsAlert := by
  cases h with
  | change => exact fun armed hwaiting hnone => absurd hnone (Nat.succ_ne_zero _)
  | @resumeWatch id w object targets replies =>
    let resumed : Engine :=
      { e with replies, watches := e.watches.insert id { w with phase := .ready } }
    have hresumed : resumed.IsAlert := halert.of_same rfl rfl rfl rfl
    exact isAlert_recordObject hresumed _ _ _ _
  | signal => exact fun armed hwaiting hnone => .inl rfl
  | arm =>
    intro armed hwaiting hnone
    exact .inr (Flusher.waiting.inj hwaiting).symm
  | fire => exact isAlert_of_busy (not_waiting_firePoll _ _)
  | quitFlusher => exact isAlert_of_busy (not_waiting_flushRest _ _)
  | wake | launch | beginScan | finishScan =>
    refine isAlert_of_busy fun armed hwaiting => ?_
    cases hwaiting
  | @land flight final =>
    refine isAlert_of_busy fun armed hwaiting => ?_
    cases final <;> cases hwaiting
  | _ => exact halert.of_same (by simp [note]) (by simp [note]) (by simp [note]) (by simp [note])

theorem isAlert_run (h : run env actions {} = some e) : e.IsAlert :=
  path_induction (P := fun _ e => e.IsAlert) (isAlert_of_busy fun armed h => by cases h)
    (fun _ _ _ _ halert ht => isAlert_transition ht halert) h

theorem isOngoing_touches (h : run env actions e₀ = some e) (hend : e.flusher.isEnding = false) :
    IsOngoing (touches (path env actions e₀)) e.now := by
  refine ⟨touches_until_now h, fun entry hmem htake => ?_⟩
  have hending := isEnding_run h ⟨entry, hmem, htake⟩
  rw [hend] at hending
  cases hending

theorem heeds_of_waiting {armed : Option Instant} (h : run env actions {} = some e)
    (hwaiting : e.flusher = .waiting armed) :
    Heeds env.config (touches (path env actions {}))
      (Debouncer.log env.config {} (touches (path env actions {}))) e.debouncer := by
  have hongoing := isOngoing_touches h (by rw [hwaiting]; rfl)
  have hdebouncer : e.debouncer = Debouncer.run env.config {} (touches (path env actions {})) :=
    (flushing_run h).1
  rw [hdebouncer]
  exact Debouncer.heeds_run (addsForward_touches h) hongoing.noRest

/-- The steps by which a flusher that waits comes to wait anew. -/
def Action.isWaking : Action → Bool
  | .signal | .wake | .arm => true
  | _ => false

/-- What a flusher comes to by steps that take no time and leave the debouncer alone. -/
def ComesToWait (env : Env) (e : Engine) (armed : Option Instant) : Prop :=
  ∃ more later, more.all Action.isWaking = true ∧ run env more e = some later ∧
    later.flusher = .waiting armed ∧ later.debouncer = e.debouncer ∧ later.now = e.now

theorem comesToWait_of_signal {armed : Option Instant} (env : Env)
    (hwaiting : e.flusher = .waiting armed) (hsignal : e.signal = true) :
    ComesToWait env e e.debouncer.deadline := by
  refine ⟨[.wake, .arm], { e with signal := false, flusher := .waiting e.debouncer.deadline }, rfl,
    ?_, rfl, rfl, rfl⟩
  simp [run, step, wake, arm, hwaiting, hsignal]

theorem comesToWait_of_unsignalled {armed : Option Instant} (env : Env)
    (hwaiting : e.flusher = .waiting armed) (hnoted : 0 < e.unsignalled) :
    ComesToWait env e e.debouncer.deadline := by
  have hstep : step env .signal e =
      some { e with unsignalled := e.unsignalled - 1, signal := true } := by
    simp [step, sendSignal, Nat.ne_of_gt hnoted]
  obtain ⟨more, later, hmore, hrun, hlater, hdebouncer, hnow⟩ :=
    @comesToWait_of_signal { e with unsignalled := e.unsignalled - 1, signal := true } armed env
      hwaiting rfl
  exact ⟨.signal :: more, later, hmore, by simp [run, hstep, hrun], hlater, hdebouncer, hnow⟩

/-- A flusher that waits while nobody owes it a signal has one stored or waits for the deadline. So
while something is pending there is a deadline, and the flusher has a signal, is owed one, or waits
for that deadline; in each case it comes to wait for it before any time passes. -/
theorem waits_for_deadline {armed : Option Instant} (h : run env actions {} = some e)
    (hwaiting : e.flusher = .waiting armed) :
    (e.unsignalled = 0 → e.signal = true ∨ armed = e.debouncer.deadline) ∧
    (e.debouncer.pending.isEmpty = false → ∃ due, e.debouncer.deadline = some due ∧
      (e.signal = true ∨ 0 < e.unsignalled ∨ armed = some due) ∧
      ComesToWait env e (some due)) := by
  have halert := isAlert_run h armed hwaiting
  refine ⟨halert, fun hfull => ?_⟩
  obtain ⟨due, hdue⟩ := (heeds_of_waiting h hwaiting).exists_deadline hfull
  rw [hdue] at halert
  refine ⟨due, hdue, ?_⟩
  rcases Nat.eq_zero_or_pos e.unsignalled with hnone | hnoted
  · rcases halert hnone with hsignal | rfl
    · exact ⟨.inl hsignal, hdue ▸ comesToWait_of_signal env hwaiting hsignal⟩
    · exact ⟨.inr (.inr rfl), [], e, rfl, rfl, hwaiting, rfl, rfl⟩
  · exact ⟨.inr (.inl hnoted), hdue ▸ comesToWait_of_unsignalled env hwaiting hnoted⟩

/-- A change moves the deadline from 5 to 8 while the flusher waits for 5. Its signal is stored, as
is that of a second change, which comes to the same. -/
theorem waits_for_deadline_after_moved :
    let env : Env := .calm { quiet := 5 }
    let pod : Resource.Key := ⟨.pod, some "web", "a"⟩
    let actions : List Action := [.change pod ⟨none, some "1"⟩, .signal, .arm, .wake, .arm, .tick 3,
      .change pod ⟨none, some "2"⟩, .change pod ⟨none, some "3"⟩, .signal, .signal]
    ∃ e, (run env actions {} = some e ∧ e.flusher = .waiting (some 5)) ∧ e.unsignalled = 0 ∧
      e.signal = true ∧ ∃ due, e.debouncer.deadline = some due ∧ due = 8 ∧
        ComesToWait env e (some due) := by
  intro env pod actions
  obtain ⟨due, hdue, -, hcomes⟩ := (@waits_for_deadline env _ actions (some 5) rfl rfl).2 rfl
  exact ⟨_, ⟨rfl, rfl⟩, rfl, rfl, due, hdue, (Option.some.inj hdue).symm, hcomes⟩

/-! ### Polls before the deadline -/

theorem firePoll_of_early {c : Config} {now t : Nat} {added : Option Instant}
    (h : IsConsistent c now added e.debouncer)
    (hearly : ∀ due : Nat, e.debouncer.deadline = some due → t < due) :
    firePoll { e with debouncer := (e.debouncer.poll c t).1 } (e.debouncer.poll c t).2 =
      { e with flusher := .looping } := by
  rw [(h.poll_eq_idle t).mpr hearly]
  rfl

/-- How the fields of the debouncer agree until the rest is taken, what they keep of earlier states,
and that a poll changes something just when the deadline has come. A poll before that, or without a
deadline, leaves the metrics and all else in the engine as they were too. The first part holds of
changes and polls at any instants that do not go back; the second one ties them to a run of the
engine, whose timer may fire before the deadline. -/
theorem debouncer_consistent :
    (∀ (c : Config) (events : List (Instant × Event)) (now : Nat), IsOngoing events now →
      IsConsistent c now (lastAdd events) (Debouncer.run c {} events) ∧
      (∀ es fs, events = es ++ fs → Continues c (Debouncer.run c {} es) fs) ∧
      ∀ t : Nat,
        ((Debouncer.run c {} events).poll c t = (Debouncer.run c {} events,.idle) ↔
          ∀ due : Nat, (Debouncer.run c {} events).deadline = some due → t < due) ∧
        ∀ e : Engine, e.debouncer = Debouncer.run c {} events →
          (∀ due : Nat, e.debouncer.deadline = some due → t < due) →
            firePoll { e with debouncer := (e.debouncer.poll c t).1 } (e.debouncer.poll c t).2 =
              { e with flusher := .looping }) ∧
    ∀ (env : Env) (actions : List Action) (e : Engine), run env actions {} = some e →
      e.flusher.isEnding = false →
      IsOngoing (touches (path env actions {})) e.now ∧
      e.debouncer = Debouncer.run env.config {} (touches (path env actions {})) ∧
      ∀ armed : Nat, e.flusher = .waiting (some armed) → armed ≤ e.now →
        (∀ due : Nat, e.debouncer.deadline = some due → e.now < due) →
          step env .fire e = some { e with flusher := .looping } := by
  refine ⟨fun c events now hongoing => ?_, fun env actions e h hend => ?_⟩
  · have hconsistent := @Debouncer.isConsistent_run c now events hongoing
    refine ⟨hconsistent, ?_, fun t => ⟨hconsistent.poll_eq_idle t, fun e hdebouncer hearly => ?_⟩⟩
    · rintro es fs rfl
      exact Debouncer.continues_run hongoing
    · exact firePoll_of_early (hdebouncer ▸ hconsistent) hearly
  · have hongoing := isOngoing_touches h hend
    have hdebouncer := (flushing_run h).1
    have hconsistent := @Debouncer.isConsistent_run env.config _ _ hongoing
    refine ⟨hongoing, hdebouncer, fun armed hwaiting harmed hearly => ?_⟩
    have hidle := @firePoll_of_early e env.config _ e.now _ (hdebouncer ▸ hconsistent) hearly
    rw [hwaiting] at hidle
    simp only [step, fire, hwaiting, if_pos harmed, hidle]

/-- A flush is put off from 11 to 35, and neither a change nor a poll moves that before 35. In the
run the flusher waits for 5 while a change moves the deadline to 8, and fires at 5. -/
theorem debouncer_consistent_around_early_polls :
    let c : Config := { quiet := 5, spacing := 30, discardFirst := false }
    let pod : Resource.Key := ⟨.pod, some "web", "a"⟩
    let events : List (Instant × Event) := [(0,.add pod ⟨none, some "1"⟩), (5,.poll),
      (6,.add pod ⟨none, some "2"⟩), (11,.poll), (12,.add pod ⟨none, some "3"⟩), (20,.poll)]
    let d : Debouncer := Debouncer.run c {} events
    let actions : List Action := [.change pod ⟨none, some "1"⟩, .arm, .tick 3,
      .change pod ⟨none, some "2"⟩, .tick 2]
    (IsOngoing events 34 ∧ IsConsistent c 34 (some 12) d ∧ d.deadline = some 35 ∧
      Continues c (Debouncer.run c {} (events.take 4)) (events.drop 4) ∧
      d.poll c 34 = (d,.idle)) ∧
    ∃ e, run (.calm c) actions {} = some e ∧ e.flusher.isEnding = false ∧
      e.debouncer.deadline = some 8 ∧
      step (.calm c) .fire e = some { e with flusher := .looping } := by
  intro c pod events d actions
  have hongoing : IsOngoing events 34 := ⟨by simp [events], by simp [events]⟩
  obtain ⟨hconsistent, hcontinues, hpoll⟩ := debouncer_consistent.1 c events 34 hongoing
  have hidle : d.poll c 34 = (d,.idle) := by
    refine (hpoll 34).1.mpr fun due hdue => ?_
    rw [← Option.some.inj hdue]
    decide
  obtain ⟨-, -, hfire⟩ := debouncer_consistent.2 (.calm c) actions _ rfl rfl
  refine ⟨⟨hongoing, hconsistent, rfl, hcontinues _ _ rfl, hidle⟩, _, rfl, rfl, rfl, ?_⟩
  refine hfire 5 rfl (Nat.le_refl 5) fun due hdue => ?_
  rw [← Option.some.inj hdue]
  decide

end WorkloadScan.Engine
