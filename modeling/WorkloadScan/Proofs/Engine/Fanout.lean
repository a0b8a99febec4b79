import WorkloadScan.Proofs.Engine.Inquiry
import WorkloadScan.Proofs.Flight

/-! The course of one flush. From its take until it lands, the flusher asks for the targets once and
begins each scan of the batch for the targets it is told of once. -/
namespace WorkloadScan.Engine
open Registry (IsKeyed isKeyed_empty isKeyed_carryOut)
variable {env : Env} {e next : Engine} {a : Action} {actions : List Action} {batch : Batch}
  {before since stages : List Stage} {s : Stage}

/-- How far a flush has come in the steps since its take. -/
inductive Course (batch : Batch) (since : List Stage) (e : Engine) : Prop
  | asking (asked : e.flusher.asked? = some batch)
      (quiet : ∀ t ∈ since, t.action.caller? ≠ some .flusher)
      (aloft : ∀ t ∈ since, t.action ≠ .land) (begun : since.filterMap Stage.begun? = [])
  | scanning {registry : Registry} {flight : Flight} (flying : e.flusher.flight? = some flight)
      (aloft : ∀ t ∈ since, t.action ≠ .land) (told : toldOf .flusher since = [registry])
      (begun : since.filterMap Stage.begun? ++ flight.waiting =
        Scan.admitted registry.values batch)
  | ended {window rest : List Stage} {landing : Stage} {registry : Registry}
      (split : since = window ++ landing :: rest) (landed : landing.action = .land)
      (aloft : ∀ t ∈ window, t.action ≠ .land) (told : toldOf .flusher window = [registry])
      (begun : window.filterMap Stage.begun? = Scan.admitted registry.values batch)

theorem requests_of_served {call : Caller × Registry.Request}
    (h : Stage.served? ⟨e,a,next⟩ = some call) : ∃ rest, e.requests = call :: rest := by
  have hhead : e.requests.head? = some call := by
    cases a with
    | serve => exact h
    | _ => cases h
  exact List.head?_eq_some_iff.mp hhead

theorem served?_ne_of_outstanding {caller : Caller} {q : Registry.Request}
    (h : outstanding caller e = 0) : Stage.served? ⟨e,a,next⟩ ≠ some (caller,q) := by
  intro hserved
  have hrequests : ofCaller caller e.requests = [] :=
    List.eq_nil_of_length_eq_zero (Nat.eq_zero_of_add_eq_zero h).1
  obtain ⟨rest, hrest⟩ := requests_of_served hserved
  simp [hrest] at hrequests

theorem course_asking (hi : Inquiry .flusher since e) (hasked : e.flusher.asked? = some batch)
    (hquiet : ∀ t ∈ since, t.action.caller? ≠ some .flusher)
    (haloft : ∀ t ∈ since, t.action ≠ .land) (hbegun : since.filterMap Stage.begun? = [])
    (ht : Transition env e a next) : Course batch (since ++ [⟨e,a,next⟩]) next := by
  cases flusherMove_of_transition ht with
  | stays other aloft begun flushed same =>
    refine .asking (same ▸ hasked) (forall_mem_concat.mpr ⟨hquiet, other⟩)
      (forall_mem_concat.mpr ⟨haloft, aloft⟩) ?_
    rw [filterMap_concat, hbegun, begun]
    rfl
  | idles idle | flushes idle =>
    rw [asked_of_isIdle idle] at hasked
    cases hasked
  | begins scanning | finishes scanning | lands scanning =>
    rw [scanning] at hasked
    cases hasked
  | launches asking action got left =>
    rw [asking] at hasked
    cases hasked
    obtain ⟨registry, htold, hreply⟩ := told_of_takeReply hi got
    cases hreply
    subst action
    refine @Course.scanning _ _ _ registry _ (by rw [left]; rfl)
      (forall_mem_concat.mpr ⟨haloft, by simp⟩) ?_ ?_
    · rw [toldOf_concat, htold]
      rfl
    · rw [filterMap_concat, hbegun]
      rfl

theorem course_scanning (hfree : outstanding .flusher e = 0) {flight : Flight}
    {registry : Registry} (hflying : e.flusher.flight? = some flight)
    (haloft : ∀ t ∈ since, t.action ≠ .land) (htold : toldOf .flusher since = [registry])
    (hbegun : since.filterMap Stage.begun? ++ flight.waiting =
      Scan.admitted registry.values batch)
    (ht : Transition env e a next) : Course batch (since ++ [⟨e,a,next⟩]) next := by
  have htold' : toldOf .flusher (since ++ [⟨e,a,next⟩]) = [registry] := by
    rw [toldOf_concat, if_neg (served?_ne_of_outstanding hfree), htold]
    rfl
  cases flusherMove_of_transition ht with
  | stays other aloft begun flushed same =>
    refine .scanning (same ▸ hflying) (forall_mem_concat.mpr ⟨haloft, aloft⟩) htold' ?_
    rw [filterMap_concat, begun, Option.toList_none, List.append_nil, hbegun]
  | idles idle | flushes idle =>
    rw [flight_of_isIdle idle] at hflying
    cases hflying
  | launches asking =>
    rw [asking] at hflying
    cases hflying
  | begins scanning action waiting left =>
    rw [scanning] at hflying
    cases hflying
    subst action
    refine .scanning (by rw [left]; rfl) (forall_mem_concat.mpr ⟨haloft, by simp⟩) htold' ?_
    rw [← hbegun, filterMap_concat, waiting]
    simp [Stage.begun?, scanning, Flusher.flight?, waiting]
  | finishes scanning action waiting left =>
    rw [scanning] at hflying
    cases hflying
    subst action
    refine .scanning (by rw [left]; rfl) (forall_mem_concat.mpr ⟨haloft, by simp⟩) htold' ?_
    rw [← hbegun, filterMap_concat, waiting]
    simp [Stage.begun?]
  | lands scanning action done left =>
    rw [scanning] at hflying
    cases hflying
    rw [(Flight.isOver_iff.mp done).1, List.append_nil] at hbegun
    exact .ended rfl action haloft htold hbegun

theorem course_run (h : run env actions {} = some e)
    (hpath : path env actions {} = before ++ s :: since) (hflushed : s.flushed? env = some batch) :
    Course batch since e := by
  revert since
  refine run_induction (P := fun stages e => ∀ {since}, stages = before ++ s :: since →
    Course batch since e) ?_ ?_ h
  · intro since hsplit
    simp at hsplit
  · intro actions e a next hrun ih ht since hsplit
    rcases concat_eq_append_cons.mp hsplit with ⟨-, rfl, rfl⟩ | ⟨since, rfl, hinit⟩
    · exact .asking (asks_of_flushed ht hflushed).2 (by simp) (by simp) rfl
    · cases ih hinit with
      | asking asked quiet aloft begun =>
        have hcall := (asks_of_flushed (transition_of_path_eq_append hinit) hflushed).1
        exact course_asking (inquiry_run .flusher hrun hinit hcall quiet) asked quiet aloft begun ht
      | scanning flying aloft told begun =>
        have hfree : outstanding .flusher e = 0 := by
          rw [outstanding_run .flusher hrun, waitsFor, asked_of_flight flying]
          rfl
        exact course_scanning hfree flying aloft told begun ht
      | ended split landed aloft told begun =>
        exact .ended (by rw [split, List.append_assoc]; rfl) landed aloft told begun

/-! ### Every flush can land -/

/-- Steps that bring a flush to its end. -/
def Action.isScanning : Action → Bool
  | .tick _ | .serve | .launch | .beginScan | .finishScan _ | .land => true
  | _ => false

theorem exists_begin {flight : Flight} {final : Bool} {scan : Scan} {rest : List Scan}
    (hscanning : e.flusher = .scanning flight final) (hwaiting : flight.waiting = scan :: rest)
    (hroom : flight.hasRoom env.config.limit = true) :
    ∃ middle later, step env .beginScan e = some middle ∧ middle.flusher = .scanning later final ∧
      flight.begin? env.config.limit (env.transport.respond e.now) e.now = some (scan,later) := by
  simp [step, beginScan, hscanning, Flight.begin?, hwaiting, hroom]

theorem exists_finish (env : Env) {flight : Flight} {final : Bool} {r : Flight.Running}
    {rest : List Flight.Running} (hscanning : e.flusher = .scanning flight final)
    (hrunning : flight.running = r :: rest) :
    ∃ middle later, run env [.tick r.finish, .finishScan 0] e = some middle ∧
      middle.flusher = .scanning later final ∧
      flight.finish? (e.now + r.finish) 0 = some (r,later) := by
  simp [run, step, finishScan, hscanning, Flight.finish?, hrunning]

/-- All that waits can begin and all that runs can end, so a flush that scans can land. -/
theorem exists_landing (env : Env) {flight : Flight} {final : Bool}
    (hscanning : e.flusher = .scanning flight final) :
    ∃ more landed, more.all Action.isScanning = true ∧
      run env (more ++ [.land]) e = some landed := by
  induction flight using Flight.progress_induction generalizing e with
  | landed flight hover =>
    exact ⟨[], _, by simp, by simp [run, step, land, hscanning, hover]; rfl⟩
  | ends flight r rest hrunning ih =>
    obtain ⟨middle, later, hrun, hlater, hfinish⟩ := exists_finish env hscanning hrunning
    obtain ⟨more, landed, hscan, hland⟩ := ih _ _ hfinish hlater
    refine ⟨[.tick r.finish, .finishScan 0] ++ more, landed, ?_, ?_⟩
    · rw [List.all_append, hscan]
      rfl
    · rw [List.append_assoc, run_append hrun, hland]
  | begins flight scan rest hrunning hwaiting ih =>
    obtain ⟨middle, later, hstep, hlater, hbegin⟩ := @exists_begin env _ _ _ _ _ hscanning hwaiting
      (Flight.hasRoom_of_running_nil _ hrunning)
    obtain ⟨more, landed, hscan, hland⟩ := ih _ _ _ _ hbegin hlater
    refine ⟨.beginScan :: more, landed, ?_, ?_⟩
    · rw [List.all_cons, hscan]
      rfl
    · simp [run, hstep, hland]

theorem step_launch {final : Bool} {targets : List Target}
    {rest : List (Caller × Registry.Reply)} (hasking : e.flusher = .asking batch final)
    (got : takeReply .flusher e.replies = some (.targets targets,rest)) :
    ∃ middle, step env .launch e = some middle ∧
      middle.flusher = .scanning (.start targets batch) final := by
  simp [step, launch, hasking, receive?, got]

theorem exists_launch (h : run env actions {} = some e)
    (hpath : path env actions {} = before ++ s :: since)
    (hcall : s.call? = some (.flusher,.snapshot)) {final : Bool}
    (hasking : e.flusher = .asking batch final)
    (hquiet : ∀ t ∈ since, t.action.caller? ≠ some .flusher) :
    ∃ more middle flight, more.all Action.isScanning = true ∧ run env more e = some middle ∧
      middle.flusher = .scanning flight final := by
  obtain ⟨served, targets, rest, hserves, got⟩ := exists_answer .flusher h hpath hcall hquiet
    (hasHandles_of_flusher (by rw [hasking]; rfl))
  have hstill : served.flusher = .asking batch final := (kept_by_serves hserves).1.trans hasking
  obtain ⟨middle, hstep, hscanning⟩ := @step_launch env _ _ _ _ _ hstill got
  refine ⟨List.replicate e.requests.length .serve ++ [.launch], middle, _, ?_, ?_, hscanning⟩
  · simp [Action.isScanning]
  · rw [run_append hserves]
    simp [run, hstep]

end WorkloadScan.Engine
