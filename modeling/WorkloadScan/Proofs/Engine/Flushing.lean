import WorkloadScan.Proofs.Debouncer.Takes
import WorkloadScan.Proofs.Engine.Exchange

/-! What a run of the engine does to the debouncer is a run of the debouncer, and the flusher
dispatches what the takes of that run leave to be flushed, batch for batch. -/
namespace WorkloadScan.Engine
open Debouncer (Event Outcome ClosesLast sinceTake)
open Table (latest get?_ofList)
variable {env : Env} {e next : Engine} {a : Action}

def resumedChange? (id : String) (e : Engine) : Option Event :=
  match e.watches.get? id with
  | some w =>
    match w.phase, takeReply (.observer id) e.replies with
    | .asking object, some (.targets targets,_) =>
      if targets.isEmpty then none
      else (object.key? w.observer.kind).map fun key => .add key object.revision
    | _, _ => none
  | none => none

/-- What an action does to the debouncer. -/
def touch (a : Action) (e : Engine) : Option Event :=
  match a with
  | .change key revision => some (.add key revision)
  | .resumeWatch id => resumedChange? id e
  | .fire => some .poll
  | .quitFlusher => some .takeRest
  | _ => none

/-- What has been done to the debouncer, and when. -/
def touches (stages : List Stage) : List (Instant × Event) :=
  stages.filterMap fun s => (touch s.action s.before).map (s.before.now,·)

theorem touches_concat (stages : List Stage) (e : Engine) (a : Action) (next : Engine) :
    touches (stages ++ [⟨e,a,next⟩]) =
      touches stages ++ ((touch a e).map (e.now,·)).toList := filterMap_concat ..

@[simp] theorem record_flusher (c : Config) (key : Resource.Key) (revision : Resource.Revision)
    (e : Engine) : (e.record c key revision).flusher = e.flusher := rfl

theorem debouncer_transition (h : Transition env e a next) :
    next.debouncer = Debouncer.run env.config e.debouncer ((touch a e).map (e.now,·)).toList := by
  cases h with
  | change => rfl
  | fire => simp [touch, Debouncer.run, Debouncer.apply]
  | quitFlusher => simp [touch, Debouncer.run, Debouncer.apply]
  | resumeWatch found asking got =>
    simp only [touch, resumedChange?, found, asking, got, recordObject]
    split
    · rfl
    · split <;> simp_all [record, note, measure, Debouncer.run, Debouncer.apply]
  | _ => simp [touch, note]

def Stage.launched? (s : Stage) : Option Batch :=
  match s.action with
  | .launch => s.before.flusher.asked?
  | _ => none

def Flusher.isEnding : Flusher → Bool
  | .asking _ final | .scanning _ final => final
  | .stopped => true
  | .looping | .waiting _ => false

theorem asked_firePoll (e : Engine) (p : Debouncer.Poll) :
    (firePoll e p).flusher.asked? = (Outcome.polled p).flushed? := by
  cases p <;> simp [firePoll, flush, Flusher.asked?, Outcome.flushed?]

theorem asked_flushRest (e : Engine) (r : Debouncer.Remainder) :
    (flushRest e r).flusher.asked? = (Outcome.ended r).flushed? := by
  cases r with
  | discarded batch => rfl
  | ready batch =>
    simp only [flushRest, Outcome.flushed?]
    split <;> simp [flush, Flusher.asked?]

theorem isAdd_resumedChange {id : String} {event : Event} (h : resumedChange? id e = some event) :
    event.isAdd = true := by
  unfold resumedChange? at h
  split at h
  · split at h
    · split at h
      · cases h
      · obtain ⟨key, -, rfl⟩ := Option.map_eq_some_iff.mp h
        rfl
    · cases h
  · cases h

theorem flushed_log_of_isAdd {c : Config} {d : Debouncer} {now : Instant} {event : Event}
    (h : event.isAdd = true) :
    (d.log c [(now,event)]).filterMap (·.2.flushed?) = [] := by
  cases event with
  | add key revision => rfl
  | poll | takeRest => cases h

theorem asked_transition (h : Transition env e a next) :
    e.flusher.asked?.toList ++
        ((e.debouncer.log env.config ((touch a e).map (e.now,·)).toList).filterMap
          (·.2.flushed?)) =
      (Stage.launched? ⟨e,a,next⟩).toList ++ next.flusher.asked?.toList := by
  cases h with
  | fire waiting due =>
    rw [asked_firePoll]
    cases hp : (Outcome.polled (e.debouncer.poll env.config e.now).2).flushed? <;>
      simp [Stage.launched?, touch, waiting, Flusher.asked?, Debouncer.log, Debouncer.apply, hp]
  | quitFlusher waiting shutdown =>
    rw [asked_flushRest]
    cases hr : (Outcome.ended (e.debouncer.takeRest env.config e.now).2).flushed? <;>
      simp [Stage.launched?, touch, waiting, Flusher.asked?, Debouncer.log, Debouncer.apply, hr]
  | resumeWatch =>
    simp only [touch, recordObject_flusher, Stage.launched?, Option.toList_none, List.nil_append]
    cases hr : resumedChange? _ e with
    | none => simp [Debouncer.log]
    | some event => simp [flushed_log_of_isAdd (isAdd_resumedChange hr)]
  | launch asking got => simp [Stage.launched?, touch, asking, Flusher.asked?, Debouncer.log]
  | change =>
    simp [touch, Stage.launched?, Debouncer.log, Debouncer.apply, Outcome.flushed?]
  | land scanning done =>
    simp only [scanning, touch, Stage.launched?]
    split <;> rfl
  | arm looping => simp [looping, touch, Stage.launched?, Debouncer.log, Flusher.asked?]
  | wake waiting => simp [waiting, touch, Stage.launched?, Debouncer.log, Flusher.asked?]
  | beginScan scanning | finishScan scanning =>
    simp [scanning, touch, Stage.launched?, Debouncer.log, Flusher.asked?]
  | _ => simp [touch, note, Stage.launched?, Debouncer.log]

theorem isEnding_transition (h : Transition env e a next) (hend : e.flusher.isEnding = true) :
    next.flusher.isEnding = true ∧ ∀ event, touch a e = some event → event.isAdd = true := by
  cases h with
  | change => exact ⟨hend, fun event h => by cases h; rfl⟩
  | resumeWatch => exact ⟨by simpa using hend, fun event h => isAdd_resumedChange h⟩
  | arm looping => simp [looping, Flusher.isEnding] at hend
  | wake waiting | fire waiting | quitFlusher waiting =>
    simp [waiting, Flusher.isEnding] at hend
  | launch asking got =>
    simp only [asking, Flusher.isEnding] at hend
    exact ⟨hend, fun event h => by cases h⟩
  | beginScan scanning | finishScan scanning =>
    simp only [scanning, Flusher.isEnding] at hend
    exact ⟨hend, fun event h => by cases h⟩
  | land scanning done =>
    simp only [scanning, Flusher.isEnding] at hend
    exact ⟨by simp [hend, Flusher.isEnding], fun event h => by cases h⟩
  | _ => exact ⟨by simpa [note] using hend, fun event h => by cases h⟩

theorem isEnding_of_takeRest (h : Transition env e a next) (ht : touch a e = some .takeRest) :
    next.flusher.isEnding = true := by
  cases h with
  | quitFlusher waiting shutdown =>
    generalize (e.debouncer.takeRest env.config e.now).2 = r
    cases r with
    | discarded batch => rfl
    | ready batch =>
      simp only [flushRest]
      split <;> simp [flush, Flusher.isEnding]
  | resumeWatch => cases isAdd_resumedChange ht
  | _ => cases ht

/-! ### Whole runs -/

variable {actions : List Action} {e₀ : Engine}

/-- A run acts on the debouncer as its touches do, and batches are dispatched in the order in which
they were taken, each as it was taken. -/
theorem flushing_run (h : run env actions e₀ = some e) :
    e.debouncer = Debouncer.run env.config e₀.debouncer (touches (path env actions e₀)) ∧
      e₀.flusher.asked?.toList ++
          (e₀.debouncer.log env.config (touches (path env actions e₀))).filterMap (·.2.flushed?) =
        (path env actions e₀).filterMap Stage.launched? ++ e.flusher.asked?.toList := by
  refine path_induction (P := fun stages e =>
    e.debouncer = Debouncer.run env.config e₀.debouncer (touches stages) ∧
      e₀.flusher.asked?.toList ++
          (e₀.debouncer.log env.config (touches stages)).filterMap (·.2.flushed?) =
        stages.filterMap Stage.launched? ++ e.flusher.asked?.toList)
    ⟨rfl, by simp [touches, Debouncer.log]⟩ ?_ h
  rintro stages e a next ⟨hrun, hflushed⟩ ht
  refine ⟨?_, ?_⟩
  · rw [touches_concat, Debouncer.run_append, ← hrun]
    exact debouncer_transition ht
  · rw [touches_concat, Debouncer.log_append, ← hrun, List.filterMap_append, ← List.append_assoc,
      hflushed, List.append_assoc, asked_transition ht, List.filterMap_append, List.append_assoc]
    cases hl : Stage.launched? ⟨e,a,next⟩ <;> simp [hl]

theorem isEnding_run (h : run env actions e₀ = some e)
    (hrest : ∃ entry ∈ touches (path env actions e₀), entry.2 = .takeRest) :
    e.flusher.isEnding = true := by
  revert hrest
  refine path_induction (P := fun stages e =>
    (∃ entry ∈ touches stages, entry.2 = .takeRest) → e.flusher.isEnding = true)
    (by simp [touches]) ?_ h
  rintro stages e a next hend ht ⟨entry, hmem, htake⟩
  rw [touches_concat] at hmem
  rcases List.mem_append.mp hmem with hold | hnew
  · exact (isEnding_transition ht (hend ⟨entry, hold, htake⟩)).1
  · obtain ⟨event, htouch, rfl⟩ := Option.map_eq_some_iff.mp (Option.mem_toList.mp hnew)
    exact isEnding_of_takeRest ht (htake ▸ htouch)

theorem closesLast_run (h : run env actions e₀ = some e) :
    ClosesLast (touches (path env actions e₀)) := by
  refine run_induction (P := fun stages _ => ClosesLast (touches stages)) .nil ?_ h
  intro actions e a next hrun hclose ht
  rw [touches_concat]
  refine List.pairwise_append.mpr ⟨hclose, ?_, ?_⟩
  · cases touch a e <;> simp
  · intro entry hmem last hlast htake
    obtain ⟨event, htouch, rfl⟩ := Option.map_eq_some_iff.mp (Option.mem_toList.mp hlast)
    exact (isEnding_transition ht (isEnding_run hrun ⟨entry, hmem, htake⟩)).2 event htouch

theorem scanning_of_launched {s : Stage} {batch : Batch} (hs : s ∈ path env actions e₀)
    (h : s.launched? = some batch) :
    ∃ targets final, s.after.flusher = .scanning (.start targets batch) final := by
  obtain ⟨e, a, next⟩ := s
  have ht := transition_of_mem_path hs
  dsimp only at ht
  cases ht with
  | launch asking got =>
    simp only [Stage.launched?, asking, Flusher.asked?, Option.some.injEq] at h
    subst h
    exact ⟨_, _, rfl⟩
  | _ => cases h

/-- Every change is taken once, by the take after it, with the last revision of its key; what is
taken is dispatched as it was taken. The first take is discarded if it is to be, and no other. The
first two parts hold of polls at any instants, the last one ties them to the engine. -/
theorem changes_taken_once :
    (∀ (c : Config) (events : List (Instant × Event)), ClosesLast events →
      (∀ key, (Debouncer.run c {} events).pending.get? key =
        latest key (sinceTake (Debouncer.log c {} events))) ∧
      ∀ before now outcome after,
        Debouncer.log c {} events = before ++ (now,outcome) :: after →
        (∀ batch, outcome.taken? = some batch →
          ∀ key, batch.get? key = latest key (sinceTake before)) ∧
        (outcome.isDiscard = true ↔ c.discardFirst = true ∧ outcome.taken? ≠ none ∧
          ∀ entry ∈ before, entry.2.taken? = none) ∧
        (∀ batch, outcome.flushed? = some batch ↔
          outcome.taken? = some batch ∧ outcome.isDiscard = false ∧ batch.isEmpty = false)) ∧
    (∀ (c : Config) (now : Instant) (d : Debouncer),
      match (d.poll c now).2 with
      | .idle | .postponed .. => (d.poll c now).1.pending = d.pending
      | .discarded batch | .ready batch => batch = d.pending ∧ batch.isEmpty = false) ∧
    ∀ (env : Env) (actions : List Action) (e₀ e : Engine), e₀.debouncer = {} →
      e₀.flusher = .looping → run env actions e₀ = some e →
      ClosesLast (touches (path env actions e₀)) ∧
      e.debouncer = Debouncer.run env.config {} (touches (path env actions e₀)) ∧
      (Debouncer.log env.config {} (touches (path env actions e₀))).filterMap (·.2.flushed?) =
        (path env actions e₀).filterMap Stage.launched? ++ e.flusher.asked?.toList ∧
      ∀ s ∈ path env actions e₀, ∀ batch, s.launched? = some batch →
        ∃ targets final, s.after.flusher = .scanning (.start targets batch) final := by
  refine ⟨fun c events hclose => ⟨fun key => ?_, ?_⟩, fun c now d => ?_, ?_⟩
  · rw [Debouncer.pending_run, get?_ofList]
  · intro before now outcome after hlog
    refine ⟨fun batch htaken key => ?_, Debouncer.isDiscard_iff_first hclose hlog, ?_⟩
    · rw [Debouncer.taken_eq_ofList hlog htaken, get?_ofList]
    · obtain ⟨fs, event, gs, -, -, rfl⟩ := Debouncer.log_eq_append_cons hlog
      exact fun batch => Debouncer.flushed_apply
  · cases hp : (d.poll c now).2 with
    | idle | postponed => exact Debouncer.pending_poll (by rw [hp]; rfl)
    | discarded batch | ready batch =>
      have htaken : (Outcome.polled (d.poll c now).2).taken? = some batch := by rw [hp]; rfl
      exact ⟨(Debouncer.taken_poll htaken).1, Debouncer.isEmpty_taken_poll htaken⟩
  · intro env actions e₀ e hfresh hlooping h
    obtain ⟨hrun, hflushed⟩ := flushing_run h
    rw [hfresh] at hrun hflushed
    rw [hlooping] at hflushed
    exact ⟨closesLast_run h, hrun, hflushed, fun s hs batch => scanning_of_launched hs⟩

/-- A pod changes, its first flush is discarded, and it changes twice more before the next one. -/
theorem changes_taken_once_around_discard :
    let c : Config := { quiet := 5 }
    let pod : Resource.Key := ⟨.pod, some "web", "a"⟩
    let events : List (Instant × Event) := [(0,.add pod ⟨none, some "1"⟩), (5,.poll),
      (5,.add pod ⟨none, some "2"⟩), (6,.add pod ⟨none, some "3"⟩), (7,.takeRest)]
    let actions : List Action := [.change pod ⟨none, some "1"⟩, .arm, .tick 5, .fire,
      .change pod ⟨none, some "2"⟩, .signal, .arm, .wake, .change pod ⟨none, some "3"⟩, .arm,
      .tick 5, .fire, .serve, .launch]
    (ClosesLast events ∧ ∀ key, (Debouncer.run c {} events).pending.get? key =
      latest key (sinceTake (Debouncer.log c {} events))) ∧
    ∃ e, run (.calm c) actions {} = some e ∧
      e.debouncer = Debouncer.run c {} (touches (path (.calm c) actions {})) ∧
      ((path (.calm c) actions {}).filterMap Stage.launched?).map (·.get? pod) =
        [some ⟨none, some "3"⟩] := by
  intro c pod events actions
  have hclose : ClosesLast events := by simp [events, ClosesLast, Event.isAdd]
  exact ⟨⟨hclose, (changes_taken_once.1 c events hclose).1⟩, _, rfl,
    (changes_taken_once.2.2 (.calm c) actions {} _ rfl rfl rfl).2.1, rfl⟩

end WorkloadScan.Engine
