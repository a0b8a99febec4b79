import Mathlib.Data.List.Perm.Basic
import WorkloadScan.Proofs.Engine.Dispatching

/-! The scans that are under way. A scan begins when there is room for it, with the outcome that the
transport gives it then, and is under way until it ends. -/
namespace WorkloadScan

namespace Engine
variable {env : Env} {e next : Engine} {a : Action} {actions : List Action}

def Stage.ended? (s : Stage) : Option Flight.Running :=
  match s.action with
  | .finishScan place => s.before.flusher.flight?.bind (·.running[place]?)
  | _ => none

/-- The scans that have begun and not ended. -/
def underWay (e : Engine) : List Flight.Running := (e.flusher.flight?.map (·.running)).getD []

def begun (stages : List Stage) : List Scan := stages.filterMap Stage.begun?

def ended (stages : List Stage) : List Flight.Running := stages.filterMap Stage.ended?

/-- A scan with the outcome that the transport gives it at the instant at which it begins. -/
def Env.resultOf (env : Env) (entry : Instant × Scan) : Scan × Option String :=
  (entry.2,(env.transport.respond entry.1 entry.2).error)

theorem begun_append (stages rest : List Stage) :
    begun (stages ++ rest) = begun stages ++ begun rest :=
  List.filterMap_append

theorem ended_append (stages rest : List Stage) :
    ended (stages ++ rest) = ended stages ++ ended rest :=
  List.filterMap_append

theorem underWay_of_flight_none (h : e.flusher.flight? = none) : e.underWay = [] := by
  simp [underWay, h]

theorem underWay_of_flight {flight : Flight} (h : e.flusher.flight? = some flight) :
    e.underWay = flight.running := by
  simp [underWay, h]

theorem flight_firePoll (e : Engine) (p : Debouncer.Poll) :
    (firePoll e p).flusher.flight? = none := by
  cases p <;> simp [firePoll, flush, Flusher.flight?]

theorem flight_flushRest (e : Engine) (r : Debouncer.Remainder) :
    (flushRest e r).flusher.flight? = none := by
  cases r with
  | discarded batch => rfl
  | ready batch =>
    simp only [flushRest]
    split <;> simp [flush, Flusher.flight?]

/-- One constructor for each thing that a step can do to the scans under way. -/
inductive ScanMove (env : Env) (e : Engine) (a : Action) (next : Engine) : Prop
  | begins {r : Flight.Running} (begun : Stage.begun? ⟨e,a,next⟩ = some r.scan)
      (ended : Stage.ended? ⟨e,a,next⟩ = none) (result : r.result = env.resultOf (e.now,r.scan))
      (room : env.config.limit ≠ 0 → e.underWay.length < env.config.limit)
      (left : next.underWay = e.underWay ++ [r])
  | ends {r : Flight.Running} (begun : Stage.begun? ⟨e,a,next⟩ = none)
      (ended : Stage.ended? ⟨e,a,next⟩ = some r) (left : e.underWay.Perm (r :: next.underWay))
  | stays (begun : Stage.begun? ⟨e,a,next⟩ = none) (ended : Stage.ended? ⟨e,a,next⟩ = none)
      (same : next.underWay = e.underWay)

theorem scanMove_of_begin {flight flight' : Flight} {final : Bool} {scan : Scan}
    (scanning : e.flusher = .scanning flight final)
    (hbegin : flight.begin? env.config.limit (env.transport.respond e.now) e.now =
      some (scan,flight'))
    (left : next.flusher = .scanning flight' final) : ScanMove env e .beginScan next := by
  obtain ⟨room, r, rfl, herror, hrunning⟩ := Flight.running_of_begin hbegin
  refine .begins (r := r) ?_ rfl ?_ ?_ ?_
  · simp [Stage.begun?, scanning, Flusher.flight?, (Flight.begin?_eq_some hbegin).1]
  · rw [Flight.Running.result, herror]
    rfl
  · intro hlimit
    simpa [Flight.hasRoom, hlimit, underWay, scanning, Flusher.flight?] using room
  · simp [underWay, scanning, left, Flusher.flight?, hrunning]

theorem scanMove_of_finish {flight flight' : Flight} {final : Bool} {r : Flight.Running}
    {place : Nat}
    (scanning : e.flusher = .scanning flight final)
    (hfinish : flight.finish? e.now place = some (r,flight'))
    (left : next.flusher = .scanning flight' final) :
    ScanMove env e (.finishScan place) next := by
  obtain ⟨hfound, hrunning⟩ := Flight.running_of_finish hfinish
  refine .ends rfl (r := r) ?_ ?_
  · simpa [Stage.ended?, scanning, Flusher.flight?] using hfound
  · obtain ⟨hlt, rfl⟩ := List.getElem?_eq_some_iff.mp hfound
    simpa [underWay, scanning, left, Flusher.flight?, hrunning] using
      (List.getElem_cons_eraseIdx_perm hlt).symm

theorem underWay_of_landing (h : Transition env e .land next) : e.underWay = [] := by
  cases h with
  | land scanning done =>
    rw [underWay_of_flight (by rw [scanning]; rfl)]
    exact (Flight.isOver_iff.mp done).2

theorem scanMove_of_transition (h : Transition env e a next) : ScanMove env e a next := by
  cases h with
  | beginScan scanning begun => exact scanMove_of_begin scanning begun rfl
  | finishScan scanning finished => exact scanMove_of_finish scanning finished rfl
  | launch asking =>
    exact .stays rfl rfl (by simp [underWay, asking, Flusher.flight?, Flight.start])
  | @land flight final scanning done =>
    refine .stays rfl rfl ?_
    rw [@underWay_of_landing env _ _ (.land scanning done)]
    exact underWay_of_flight_none (by cases final <;> rfl)
  | arm looping => exact .stays rfl rfl (by simp [underWay, looping, Flusher.flight?])
  | wake waiting => exact .stays rfl rfl (by simp [underWay, waiting, Flusher.flight?])
  | fire waiting =>
    refine .stays rfl rfl ?_
    rw [underWay_of_flight_none (flight_firePoll ..),
      underWay_of_flight_none (by rw [waiting]; rfl)]
  | quitFlusher waiting =>
    refine .stays rfl rfl ?_
    rw [underWay_of_flight_none (flight_flushRest ..),
      underWay_of_flight_none (by rw [waiting]; rfl)]
  | _ => exact .stays rfl rfl (by simp [underWay, note])

/-! ### Whole runs -/

theorem begun_perm (h : run env actions {} = some e) :
    (e.journal.begun.map env.resultOf).Perm
      ((ended (path env actions {}) ++ e.underWay).map Flight.Running.result) := by
  refine path_induction (P := fun stages e => (e.journal.begun.map env.resultOf).Perm
    ((ended stages ++ e.underWay).map Flight.Running.result)) .nil ?_ h
  intro stages e a next ih ht
  rw [begun_transition ht, List.map_append, ended_append]
  cases scanMove_of_transition ht with
  | @begins r begun ended' result room left =>
    have hended : ended [⟨e,a,next⟩] = [] := by simp [ended, ended']
    have hright : (ended stages ++ [] ++ (e.underWay ++ [r])).map Flight.Running.result =
        (ended stages ++ e.underWay).map Flight.Running.result ++ [r.result] := by simp
    rw [begun, Option.map_some, Option.toList_some, hended, left, hright, result]
    exact ih.append_right _
  | @ends r begun ended' left =>
    have hended : ended [⟨e,a,next⟩] = [r] := by simp [ended, ended']
    have hleft : (ended stages ++ e.underWay).Perm (ended stages ++ [r] ++ next.underWay) := by
      simpa using left.append_left (ended stages)
    rw [begun, Option.map_none, Option.toList_none, List.map_nil, List.append_nil, hended]
    exact ih.trans (hleft.map _)
  | stays begun ended' same =>
    have hended : ended [⟨e,a,next⟩] = [] := by simp [ended, ended']
    simpa [begun, hended, same] using ih

theorem begun_perm_scans (h : run env actions {} = some e) :
    (begun (path env actions {})).Perm
      ((ended (path env actions {}) ++ e.underWay).map (·.scan)) := by
  have hleft : (e.journal.begun.map env.resultOf).map Prod.fst = begun (path env actions {}) := by
    simp [begun_run h, begun, List.map_filterMap, Env.resultOf, Function.comp_def]
  have hresults := (begun_perm h).map Prod.fst
  rw [hleft, List.map_map] at hresults
  exact hresults

theorem length_underWay_le (h : run env actions {} = some e) (hlimit : env.config.limit ≠ 0) :
    e.underWay.length ≤ env.config.limit := by
  refine path_induction (P := fun _ e => e.underWay.length ≤ env.config.limit) (Nat.zero_le _) ?_ h
  intro stages e a next ih ht
  cases scanMove_of_transition ht with
  | begins _ _ _ room left =>
    have hroom := room hlimit
    rw [left, List.length_append, List.length_singleton]
    omega
  | ends _ _ left =>
    have hlength := left.length_eq
    rw [List.length_cons] at hlength
    omega
  | stays _ _ same => rwa [same]

end Engine
end WorkloadScan
