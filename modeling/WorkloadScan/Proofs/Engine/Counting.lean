import WorkloadScan.Proofs.Debouncer.Spacing
import WorkloadScan.Proofs.Engine.Flushing

/-! The counters of flushes against the log of the debouncer, and the distance that flushes keep in
a run of the engine, whose clock never goes back. -/
namespace WorkloadScan.Engine
open Debouncer (Event Outcome ClosesLast IsSpaced pollInstants readyInstants readyCount
  postponedCount)
variable {env : Env} {e next : Engine} {a : Action}

def flushes (e : Engine) : Metrics.Flush → Nat
  | .dispatched => e.journal.metrics.dispatched
  | .suppressed => e.journal.metrics.suppressed
  | .rateLimited => e.journal.metrics.rateLimited
  | .shutdown => e.journal.metrics.shutdown

def outcomeFlush? : Outcome → Option Metrics.Flush
  | .polled (.ready _) => some .dispatched
  | .polled (.discarded _) => some .suppressed
  | .polled (.postponed ..) => some .rateLimited
  | .ended (.ready batch) => if batch.isEmpty then none else some .shutdown
  | .added .. | .polled .idle | .ended (.discarded _) => none

def flushCount (kind : Metrics.Flush) (entries : List (Instant × Outcome)) : Nat :=
  entries.countP fun entry => outcomeFlush? entry.2 = some kind

theorem flushes_congr (h : next.journal.metrics = e.journal.metrics) :
    next.flushes = e.flushes := by
  funext kind
  cases kind <;> simp [flushes, h]

theorem flushes_ask (caller : Caller) (q : Registry.Request) (e : Engine) :
    (ask caller q e).flushes = e.flushes := flushes_congr (ask_metrics ..)

theorem flushes_record (c : Config) (key : Resource.Key) (revision : Resource.Revision)
    (e : Engine) : (e.record c key revision).flushes = e.flushes := by
  funext kind
  cases kind <;> rfl

theorem flushes_recordObject (c : Config) (kind : Kind) (object : Cluster.Object)
    (targets : List Target) (e : Engine) :
    (recordObject c kind object targets e).flushes = e.flushes := by
  unfold recordObject
  split
  · rfl
  · split
    · exact flushes_record ..
    · rfl

theorem flushes_firePoll (e : Engine) (p : Debouncer.Poll) (kind : Metrics.Flush) :
    (firePoll e p).flushes kind = e.flushes kind + flushCount kind [(e.now,.polled p)] := by
  cases p with
  | idle => simp [firePoll, flushCount, outcomeFlush?, flushes]
  | discarded | postponed | ready =>
    cases kind <;>
      simp [firePoll, flush, flushes, flushCount, outcomeFlush?, measure, note, Metrics.countFlush]

theorem flushes_flushRest (e : Engine) (r : Debouncer.Remainder) (kind : Metrics.Flush) :
    (flushRest e r).flushes kind = e.flushes kind + flushCount kind [(e.now,.ended r)] := by
  cases r with
  | discarded => cases kind <;> simp [flushRest, flushes, flushCount, outcomeFlush?, measure]
  | ready batch =>
    cases hempty : batch.isEmpty <;> cases kind <;>
      simp [flushRest, flush, flushes, flushCount, outcomeFlush?, measure, note,
        Metrics.countFlush, hempty]

theorem flushes_serve {requests : List (Caller × Registry.Request)} {registry : Registry}
    {replies : List (Caller × Registry.Reply)} {journal : Journal} {transport : Transport}
    {reg : Registry} {q : Registry.Request}
    (h : journal.metrics = Registry.measure transport reg q e.journal.metrics) :
    flushes { e with requests, registry, replies, journal } = e.flushes := by
  funext kind
  have hmeasure (m : Metrics) : (Registry.measure transport reg q m).dispatched = m.dispatched ∧
      (Registry.measure transport reg q m).suppressed = m.suppressed ∧
      (Registry.measure transport reg q m).rateLimited = m.rateLimited ∧
      (Registry.measure transport reg q m).shutdown = m.shutdown := by
    cases q with
    | add key spec =>
      simp only [Registry.measure, Metrics.countRegistration]
      split <;> simp
    | delete key =>
      simp only [Registry.measure]
      split <;> simp
    | snapshot => simp [Registry.measure]
  cases kind <;> simp [flushes, h, hmeasure]

theorem flushes_countScan {flusher : Flusher} {journal : Journal} {ok : Bool}
    (h : journal.metrics = e.journal.metrics.countScan ok) :
    flushes { e with flusher, journal } = e.flushes := by
  funext kind
  cases ok <;> cases kind <;> simp [flushes, h, Metrics.countScan]

theorem flushCount_log_of_isAdd {c : Config} {d : Debouncer} {now : Instant} {event : Event}
    (kind : Metrics.Flush) (h : event.isAdd = true) :
    flushCount kind (d.log c [(now,event)]) = 0 := by
  cases event with
  | add key revision => rfl
  | poll | takeRest => cases h

theorem flushes_transition (h : Transition env e a next) (kind : Metrics.Flush) :
    next.flushes kind = e.flushes kind +
      flushCount kind (e.debouncer.log env.config ((touch a e).map (e.now,·)).toList) := by
  cases h with
  | fire waiting due =>
    rw [flushes_firePoll]
    rfl
  | quitFlusher waiting shutdown =>
    rw [flushes_flushRest]
    rfl
  | change held =>
    rw [flushes_record]
    rfl
  | @resumeWatch id _ _ _ _ found asking got =>
    rw [flushes_recordObject]
    cases hr : resumedChange? id e with
    | none => simp only [touch, hr]; rfl
    | some event =>
      simp only [touch, hr, Option.map_some, Option.toList_some]
      rw [flushCount_log_of_isAdd kind (isAdd_resumedChange hr)]
      rfl
  | serve running waiting =>
    rw [flushes_serve rfl]
    rfl
  | finishScan scanning finished =>
    rw [flushes_countScan rfl]
    rfl
  | request | askForTargets | proceedAsk => exact congrFun (flushes_ask ..) kind
  | _ => rfl

theorem now_transition (h : Transition env e a next) : e.now ≤ next.now := by
  cases h with
  | tick nanos => exact Nat.le_add_right _ _
  | change => exact Nat.le_refl _
  | _ => simp [note]

/-! ### Whole runs -/

variable {actions : List Action} {e₀ : Engine}

theorem flushes_run (h : run env actions e₀ = some e) (kind : Metrics.Flush) :
    e.flushes kind = e₀.flushes kind +
      flushCount kind (e₀.debouncer.log env.config (touches (path env actions e₀))) := by
  have key := path_induction (P := fun stages e =>
    e.debouncer = Debouncer.run env.config e₀.debouncer (touches stages) ∧
      e.flushes kind = e₀.flushes kind +
        flushCount kind (e₀.debouncer.log env.config (touches stages)))
    ⟨rfl, rfl⟩ ?_ h
  · exact key.2
  · rintro stages e a next ⟨hrun, hcount⟩ ht
    refine ⟨?_, ?_⟩
    · rw [touches_concat, Debouncer.run_append, ← hrun]
      exact debouncer_transition ht
    · rw [flushes_transition ht, hcount, touches_concat, Debouncer.log_append, ← hrun, flushCount,
        flushCount, flushCount, List.countP_append, Nat.add_assoc]

theorem touches_until_now (h : run env actions e₀ = some e) :
    ((touches (path env actions e₀)).map Prod.fst ++ [e.now]).Pairwise (· ≤ ·) := by
  refine path_induction (P := fun stages e =>
    ((touches stages).map Prod.fst ++ [e.now]).Pairwise (· ≤ ·)) (by simp [touches]) ?_ h
  intro stages e a next hsorted ht
  have hle := now_transition ht
  have hlonger : ((touches stages).map Prod.fst ++ [e.now] ++ [next.now]).Pairwise (· ≤ ·) := by
    refine List.pairwise_append.mpr ⟨hsorted, by simp, ?_⟩
    intro t hmem u hu
    rw [List.mem_singleton.mp hu]
    rcases List.mem_append.mp hmem with hold | hnew
    · exact Nat.le_trans ((List.pairwise_append.mp hsorted).2.2 t hold e.now (by simp)) hle
    · exact List.mem_singleton.mp hnew ▸ hle
  have hone : (((touch a e).map (e.now,·)).toList.map Prod.fst).Sublist [e.now] := by
    cases touch a e <;> simp
  rw [touches_concat, List.map_append]
  exact hlonger.sublist ((hone.append_left _).append_right _)

theorem touches_sorted (h : run env actions e₀ = some e) :
    ((touches (path env actions e₀)).map Prod.fst).Pairwise (· ≤ ·) :=
  (List.pairwise_append.mp (touches_until_now h)).1

theorem pollInstants_touches_sorted (h : run env actions e₀ = some e) :
    (pollInstants (touches (path env actions e₀))).Pairwise (· ≤ ·) :=
  (touches_sorted h).sublist (List.filter_sublist.map Prod.fst)

theorem flushCount_dispatched (entries : List (Instant × Outcome)) :
    flushCount .dispatched entries = readyCount entries := by
  refine List.countP_congr fun entry _ => ?_
  rcases entry.2 with _ | (_ | _ | _ | _) | (_ | _) <;> simp [outcomeFlush?, Outcome.isReady]

theorem flushCount_rateLimited (entries : List (Instant × Outcome)) :
    flushCount .rateLimited entries = postponedCount entries := by
  refine List.countP_congr fun entry _ => ?_
  rcases entry.2 with _ | (_ | _ | _ | _) | (_ | _) <;> simp [outcomeFlush?, Outcome.isPostponed]

/-- Dispatched flushes keep the spacing, and one that comes too early is put off once. The first
part holds of polls at any instants that do not go back, and of changes at any instants; the second one
says so of a run of the engine and its counters, however long a flush keeps the flusher busy. -/
theorem flushes_spaced :
    (∀ (c : Config) (events : List (Instant × Event)),
      (pollInstants events).Pairwise (· ≤ ·) → ClosesLast events →
        IsSpaced c (Debouncer.log c {} events)) ∧
    ∀ (env : Env) (actions : List Action) (e : Engine), run env actions {} = some e →
      IsSpaced env.config (Debouncer.log env.config {} (touches (path env actions {}))) ∧
      e.journal.metrics.dispatched =
        readyCount (Debouncer.log env.config {} (touches (path env actions {}))) ∧
      e.journal.metrics.rateLimited =
        postponedCount (Debouncer.log env.config {} (touches (path env actions {}))) ∧
      e.journal.metrics.rateLimited ≤ e.journal.metrics.dispatched := by
  refine ⟨fun c events => Debouncer.isSpaced_log, fun env actions e h => ?_⟩
  have hspaced :
      IsSpaced env.config (Debouncer.log env.config {} (touches (path env actions {}))) :=
    Debouncer.isSpaced_log (pollInstants_touches_sorted h) (closesLast_run h)
  have hdispatched := flushes_run h .dispatched
  have hlimited := flushes_run h .rateLimited
  rw [flushCount_dispatched] at hdispatched
  rw [flushCount_rateLimited] at hlimited
  simp only [flushes, Nat.zero_add] at hdispatched hlimited
  refine ⟨hspaced, hdispatched, hlimited, ?_⟩
  rw [hdispatched, hlimited]
  exact hspaced.counts

/-- A flush is put off from 11 to 35, polled too early, and dispatched late, at 40. In the run the
targets of the first flush are asked for until the next one is long due. -/
theorem flushes_spaced_around_postponement :
    let c : Config := { quiet := 5, spacing := 30, discardFirst := false }
    let pod : Resource.Key := ⟨.pod, some "web", "a"⟩
    let events : List (Instant × Event) := [(0,.add pod ⟨none, some "1"⟩), (5,.poll),
      (6,.add pod ⟨none, some "2"⟩), (11,.poll), (12,.add pod ⟨none, some "3"⟩), (20,.poll),
      (40,.poll), (41,.takeRest)]
    let actions : List Action := [.change pod ⟨none, some "1"⟩, .arm, .tick 5, .fire,
      .change pod ⟨none, some "2"⟩, .tick 20, .serve, .launch, .land, .arm, .fire, .arm, .tick 12,
      .fire]
    ((pollInstants events).Pairwise (· ≤ ·) ∧ ClosesLast events ∧
      IsSpaced c (Debouncer.log c {} events) ∧
      readyInstants (Debouncer.log c {} events) = [5,40] ∧
      postponedCount (Debouncer.log c {} events) = 1) ∧
    ∃ e, run (.calm c) actions {} = some e ∧
      IsSpaced c (Debouncer.log c {} (touches (path (.calm c) actions {}))) ∧
      readyInstants (Debouncer.log c {} (touches (path (.calm c) actions {}))) = [5,37] ∧
      e.journal.metrics.rateLimited = 1 := by
  intro c pod events actions
  have hsorted : (pollInstants events).Pairwise (· ≤ ·) := by decide
  have hclose : ClosesLast events := by simp [events, ClosesLast, Event.isAdd]
  exact ⟨⟨hsorted, hclose, flushes_spaced.1 c events hsorted hclose, rfl, rfl⟩, _, rfl,
    (flushes_spaced.2 (.calm c) actions _ rfl).1, rfl, rfl⟩

end WorkloadScan.Engine
