import WorkloadScan.Proofs.Engine.Flushing
import WorkloadScan.Proofs.Flight

/-! The task that flushes: what a step can do to it, and the scans that it begins. -/
namespace WorkloadScan

namespace Engine
open Debouncer (Outcome)
variable {env : Env} {e next : Engine} {a : Action} {actions : List Action} {batch : Batch}

def Stage.outcome? (env : Env) (s : Stage) : Option Outcome :=
  (touch s.action s.before).map fun event =>
    (s.before.debouncer.apply env.config s.before.now event).2

/-- The batch that a step takes out of the debouncer. -/
def Stage.taken? (env : Env) (s : Stage) : Option Batch := (s.outcome? env).bind Outcome.taken?

/-- The batch that a step takes out of the debouncer to be flushed. -/
def Stage.flushed? (env : Env) (s : Stage) : Option Batch := (s.outcome? env).bind Outcome.flushed?

theorem taken?_of_flushed {s : Stage} (h : s.flushed? env = some batch) :
    s.taken? env = some batch := by
  obtain ⟨outcome, houtcome, hout⟩ := Option.bind_eq_some_iff.mp h
  obtain ⟨event, -, rfl⟩ := Option.map_eq_some_iff.mp houtcome
  exact Option.bind_eq_some_iff.mpr ⟨_, houtcome, (Debouncer.flushed_apply.mp hout).1⟩

theorem batch_of_taken {s : Stage} (h : s.taken? env = some batch) :
    batch = s.before.debouncer.pending := by
  obtain ⟨outcome, houtcome, hout⟩ := Option.bind_eq_some_iff.mp h
  obtain ⟨event, -, rfl⟩ := Option.map_eq_some_iff.mp houtcome
  exact (Debouncer.taken_apply hout).1

theorem taken?_of_isAdd (h : ∀ event, touch a e = some event → event.isAdd = true) :
    Stage.taken? env ⟨e,a,next⟩ = none := by
  cases htouch : touch a e with
  | none => simp [Stage.taken?, Stage.outcome?, htouch]
  | some event =>
    cases event with
    | add key revision =>
      simp [Stage.taken?, Stage.outcome?, htouch, Debouncer.apply, Outcome.taken?]
    | poll | takeRest => cases h _ htouch

theorem flushed?_of_isAdd (h : ∀ event, touch a e = some event → event.isAdd = true) :
    Stage.flushed? env ⟨e,a,next⟩ = none := by
  cases hflushed : Stage.flushed? env ⟨e,a,next⟩ with
  | none => rfl
  | some batch =>
    have htaken := taken?_of_flushed hflushed
    rw [taken?_of_isAdd h] at htaken
    cases htaken

def Flusher.isIdle : Flusher → Bool
  | .looping | .waiting _ | .stopped => true
  | .asking .. | .scanning .. => false

theorem asked_of_isIdle {f : Flusher} (h : f.isIdle = true) : f.asked? = none := by
  cases f with
  | looping | waiting | stopped | scanning => rfl
  | asking => cases h

def Flusher.flight? : Flusher → Option Flight
  | .scanning flight _ => some flight
  | _ => none

theorem flight_of_isIdle {f : Flusher} (h : f.isIdle = true) : f.flight? = none := by
  cases f with
  | looping | waiting | stopped | asking => rfl
  | scanning => cases h

theorem asked_of_flight {f : Flusher} {flight : Flight} (h : f.flight? = some flight) :
    f.asked? = none := by
  cases f with
  | looping | waiting | stopped | scanning => rfl
  | asking => cases h

def Stage.begun? (s : Stage) : Option Scan :=
  match s.action with
  | .beginScan => s.before.flusher.flight?.bind (·.waiting.head?)
  | _ => none

/-- One constructor for each thing that a step can do to the flusher. -/
inductive FlusherMove (env : Env) (e : Engine) (a : Action) (next : Engine) : Prop
  | stays (other : a.caller? ≠ some .flusher) (aloft : a ≠ .land)
      (begun : Stage.begun? ⟨e,a,next⟩ = none) (flushed : Stage.flushed? env ⟨e,a,next⟩ = none)
      (same : next.flusher = e.flusher)
  | idles (idle : e.flusher.isIdle = true) (aloft : a ≠ .land)
      (call : Stage.call? ⟨e,a,next⟩ = none) (returned : Stage.return? ⟨e,a,next⟩ = none)
      (begun : Stage.begun? ⟨e,a,next⟩ = none) (flushed : Stage.flushed? env ⟨e,a,next⟩ = none)
      (left : next.flusher.isIdle = true)
  | flushes {batch : Batch} (idle : e.flusher.isIdle = true) (aloft : a ≠ .land)
      (call : Stage.call? ⟨e,a,next⟩ = some (.flusher,.snapshot))
      (returned : Stage.return? ⟨e,a,next⟩ = none) (begun : Stage.begun? ⟨e,a,next⟩ = none)
      (flushed : Stage.flushed? env ⟨e,a,next⟩ = some batch)
      (left : next.flusher.asked? = some batch)
  | launches {batch : Batch} {final : Bool} {targets : List Target}
      {replies : List (Caller × Registry.Reply)} (asking : e.flusher = .asking batch final)
      (action : a = .launch)
      (got : takeReply .flusher e.replies = some (.targets targets,replies))
      (left : next.flusher = .scanning (.start targets batch) final)
  | begins {flight flight' : Flight} {final : Bool} {scan : Scan}
      (scanning : e.flusher = .scanning flight final) (action : a = .beginScan)
      (waiting : flight.waiting = scan :: flight'.waiting)
      (left : next.flusher = .scanning flight' final)
  | finishes {flight flight' : Flight} {final : Bool} {place : Nat}
      (scanning : e.flusher = .scanning flight final) (action : a = .finishScan place)
      (waiting : flight'.waiting = flight.waiting)
      (left : next.flusher = .scanning flight' final)
  | lands {flight : Flight} {final : Bool} (scanning : e.flusher = .scanning flight final)
      (action : a = .land) (done : flight.isOver = true) (left : next.flusher.isIdle = true)

theorem flusherMove_of_take (ha : a = .fire ∨ a = .quitFlusher) (hidle : e.flusher.isIdle = true)
    (hasked : next.flusher.asked? = Stage.flushed? env ⟨e,a,next⟩)
    (hleft : next.flusher.asked? = none → next.flusher.isIdle = true) :
    FlusherMove env e a next := by
  have haloft : a ≠ .land := by rcases ha with rfl | rfl <;> simp
  have hcall : Stage.call? ⟨e,a,next⟩ =
      if next.flusher.asked?.isSome then some (.flusher,.snapshot) else none := by
    rcases ha with rfl | rfl <;> rfl
  have hreturned : Stage.return? ⟨e,a,next⟩ = none := by rcases ha with rfl | rfl <;> rfl
  have hbegun : Stage.begun? ⟨e,a,next⟩ = none := by rcases ha with rfl | rfl <;> rfl
  cases hflushed : Stage.flushed? env ⟨e,a,next⟩ with
  | none =>
    rw [hflushed] at hasked
    exact .idles hidle haloft (by rw [hcall, hasked]; rfl) hreturned hbegun hflushed (hleft hasked)
  | some batch =>
    rw [hflushed] at hasked
    exact .flushes hidle haloft (by rw [hcall, hasked]; rfl) hreturned hbegun hflushed hasked

theorem isIdle_firePoll {p : Debouncer.Poll} (h : (firePoll e p).flusher.asked? = none) :
    (firePoll e p).flusher.isIdle = true := by
  cases p with
  | ready batch => simp [firePoll, flush, Flusher.asked?] at h
  | idle | discarded | postponed => rfl

theorem isIdle_flushRest {r : Debouncer.Remainder}
    (h : (flushRest e r).flusher.asked? = none) : (flushRest e r).flusher.isIdle = true := by
  cases r with
  | discarded batch => rfl
  | ready batch =>
    by_cases hempty : batch.isEmpty = true
    · simp [flushRest, hempty, Flusher.isIdle]
    · simp [flushRest, hempty, flush, Flusher.asked?] at h

theorem flusherMove_of_transition (h : Transition env e a next) : FlusherMove env e a next := by
  cases h with
  | fire waiting =>
    exact flusherMove_of_take (.inl rfl) (by rw [waiting]; rfl) (asked_firePoll ..) isIdle_firePoll
  | quitFlusher waiting =>
    exact flusherMove_of_take (.inr rfl) (by rw [waiting]; rfl) (asked_flushRest ..)
      isIdle_flushRest
  | arm looping =>
    exact .idles (by rw [looping]; rfl) (by simp) rfl rfl rfl rfl rfl
  | wake waiting =>
    exact .idles (by rw [waiting]; rfl) (by simp) rfl rfl rfl rfl rfl
  | launch asking got => exact .launches asking rfl got rfl
  | beginScan scanning begun =>
    exact .begins scanning rfl (Flight.begin?_eq_some begun).1 rfl
  | finishScan scanning finished =>
    exact .finishes scanning rfl (Flight.finish?_eq_some finished).1 rfl
  | @land flight final scanning done =>
    exact .lands scanning rfl done (by cases final <;> rfl)
  | change =>
    exact .stays (by simp [Action.caller?]) (by simp) rfl
      (flushed?_of_isAdd fun event h => by cases h; rfl) rfl
  | resumeWatch =>
    exact .stays (by simp [Action.caller?]) (by simp) rfl
      (flushed?_of_isAdd fun event h => isAdd_resumedChange h) (by simp)
  | _ => exact .stays (by simp [Action.caller?]) (by simp) rfl rfl (by simp [note])

theorem asks_of_flushed {batch : Batch} (h : Transition env e a next)
    (hflushed : Stage.flushed? env ⟨e,a,next⟩ = some batch) :
    Stage.call? ⟨e,a,next⟩ = some (.flusher,.snapshot) ∧ next.flusher.asked? = some batch := by
  cases flusherMove_of_transition h with
  | flushes idle aloft call returned begun flushed left =>
    rw [hflushed] at flushed
    cases flushed
    exact ⟨call, left⟩
  | stays _ _ _ flushed | idles _ _ _ _ _ flushed =>
    rw [hflushed] at flushed
    cases flushed
  | launches _ action | begins _ action | finishes _ action | lands _ action =>
    subst action
    cases hflushed

/-! ### The journal of scans -/

@[simp] theorem ask_begun (caller : Caller) (q : Registry.Request) (e : Engine) :
    (ask caller q e).journal.begun = e.journal.begun := by
  unfold ask
  split <;> rfl

@[simp] theorem recordObject_begun (c : Config) (kind : Kind) (object : Cluster.Object)
    (targets : List Target) (e : Engine) :
    (recordObject c kind object targets e).journal.begun = e.journal.begun := by
  unfold recordObject
  split
  · rfl
  · split <;> rfl

@[simp] theorem firePoll_begun (e : Engine) (p : Debouncer.Poll) :
    (firePoll e p).journal.begun = e.journal.begun := by
  cases p <;> simp [firePoll, flush, note, measure]

@[simp] theorem flushRest_begun (e : Engine) (r : Debouncer.Remainder) :
    (flushRest e r).journal.begun = e.journal.begun := by
  cases r with
  | discarded batch => rfl
  | ready batch =>
    simp only [flushRest]
    split
    · rfl
    · simp [flush, note, measure]

theorem begun_transition (h : Transition env e a next) :
    next.journal.begun = e.journal.begun ++ ((Stage.begun? ⟨e,a,next⟩).map (e.now,·)).toList := by
  cases h with
  | beginScan scanning begun =>
    simp [Stage.begun?, scanning, Flusher.flight?, (Flight.begin?_eq_some begun).1]
  | _ => simp [Stage.begun?, note, record, measure]

theorem begun_run {e₀ : Engine} (h : run env actions e₀ = some e) :
    e.journal.begun = e₀.journal.begun ++ (path env actions e₀).filterMap fun s =>
      s.begun?.map (s.before.now,·) := by
  refine path_induction (P := fun stages e => e.journal.begun = e₀.journal.begun ++
    stages.filterMap fun s => s.begun?.map (s.before.now,·)) (by simp) ?_ h
  intro stages e a next hstages ht
  rw [begun_transition ht, hstages, filterMap_concat, List.append_assoc]

end Engine
end WorkloadScan
