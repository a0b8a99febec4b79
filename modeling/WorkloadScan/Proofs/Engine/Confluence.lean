import WorkloadScan.Proofs.Engine.InFlight
import WorkloadScan.Proofs.Engine.Shutdown

/-! The end of the flusher when nobody interferes. At any moment it is settled which scans are still
to begin: in whatever order the flusher notices shutdown, signals and its timer, and whether it
flushes what is pending by the timer or as the rest, it begins these and no others. -/
namespace WorkloadScan

namespace Debouncer
variable {c : Config} {now : Instant} {d : Debouncer}

/-- What a debouncer has to flush: what is pending, unless that is to be discarded. -/
def toFlush (c : Config) (d : Debouncer) : Batch :=
  if d.first && c.discardFirst then .empty else d.pending

theorem toFlush_of_kept (h : d.first = true → c.discardFirst = false) :
    d.toFlush c = d.pending := by
  cases hfirst : d.first with
  | true => simp [toFlush, hfirst, h hfirst]
  | false => simp [toFlush, hfirst]

theorem toFlush_poll :
    match (d.poll c now).2 with
    | .ready batch => batch = d.toFlush c ∧ (d.poll c now).1.toFlush c = .empty
    | .idle | .discarded _ | .postponed .. => (d.poll c now).1.toFlush c = d.toFlush c := by
  have hpolled := polled_poll c now d
  generalize d.poll c now = polled at hpolled ⊢
  cases hpolled with
  | early | nothing => rfl
  | discarded _ _ first discard => simp [toFlush, emptied, first, discard]
  | postponed _ _ kept => exact (toFlush_of_kept kept).symm
  | ready _ _ kept => exact ⟨(toFlush_of_kept kept).symm, rfl⟩

theorem toFlush_takeRest :
    match (d.takeRest c now).2 with
    | .ready batch => batch = d.toFlush c
    | .discarded _ => d.toFlush c = .empty := by
  have hrest := restTaken_takeRest c now d
  generalize d.takeRest c now = taken at hrest ⊢
  cases hrest with
  | discarded first discard => simp [toFlush, first, discard]
  | ready kept => exact (toFlush_of_kept kept).symm

end Debouncer

namespace Engine
variable {env : Env} {e next : Engine} {a : Action} {actions : List Action} {batch : Batch}
  {c : Config} {since : List Stage}

/-! ### What is still to be scanned -/

/-- The targets for which the batch of the flusher is scanned: those of the answer that is there, or
else those that are registered. -/
def promised (e : Engine) : List Target :=
  match takeReply .flusher e.replies with
  | some (.targets targets,_) => targets
  | _ => e.registry.values

/-- The scans that the flush under way has still to begin. -/
def inHand (e : Engine) : List Scan :=
  match e.flusher with
  | .asking batch _ => Scan.admitted e.promised batch
  | .scanning flight _ => flight.waiting
  | .looping | .waiting _ | .stopped => []

/-- The scans still to begin, if no target and no change comes or goes: those of the flush under
way and, unless that is the last one, those of what is pending. -/
def owed (c : Config) (e : Engine) : List Scan :=
  e.inHand ++
    if e.flusher.isEnding then []
    else Scan.admitted e.registry.values (e.debouncer.toFlush c)

theorem inHand_of_isIdle (h : e.flusher.isIdle = true) : e.inHand = [] := by
  cases hflusher : e.flusher with
  | looping | waiting | stopped => simp [inHand, hflusher]
  | asking | scanning =>
    rw [hflusher] at h
    cases h

theorem owed_of_isIdle (hidle : e.flusher.isIdle = true) (hopen : e.flusher.isEnding = false) :
    e.owed c = Scan.admitted e.registry.values (e.debouncer.toFlush c) := by
  simp [owed, inHand_of_isIdle hidle, hopen]

theorem promised_of_inquiry (hi : Inquiry .flusher since e) :
    toldOf .flusher since = [] ∧ e.promised = e.registry.values ∨
      ∃ reg, toldOf .flusher since = [reg] ∧ e.promised = reg.values := by
  rcases takeReply_of_inquiry hi with ⟨htold, -, hnone⟩ | ⟨reg, rest, htold, got⟩
  · exact .inl ⟨htold, by simp [promised, hnone]⟩
  · exact .inr ⟨reg, htold, by simp [promised, got]⟩

theorem promised_transition (h : run env actions {} = some e)
    (hasked : e.flusher.asked? = some batch) (ht : Transition env e a next)
    (hother : a.caller? ≠ some .flusher) (hregistry : next.registry = e.registry) :
    next.promised = e.promised := by
  obtain ⟨since, -, hi⟩ := exists_inquiry h hasked
  have hnext := inquiry_transition (traffic_run h).closed hi ht hother
  rcases promised_of_inquiry hi with ⟨hnone, hbefore⟩ | ⟨reg, hold, hbefore⟩
  · rcases promised_of_inquiry hnext with ⟨-, hafter⟩ | ⟨reg, htold, hafter⟩
    · rw [hafter, hbefore, hregistry]
    · -- The answer has come in this step, from the registry as it is before it.
      rw [toldOf_concat, hnone, List.nil_append] at htold
      split at htold
      · cases htold
        rw [hafter, hbefore]
      · cases htold
  · rcases promised_of_inquiry hnext with ⟨htold, -⟩ | ⟨reg', htold, hafter⟩
    · rw [toldOf_concat, hold] at htold
      simp at htold
    · rw [toldOf_concat, hold] at htold
      rw [hafter, hbefore, (List.cons.inj htold).1]

theorem promised_of_call (h : run env actions {} = some e) (ht : Transition env e a next)
    (hcall : Stage.call? ⟨e,a,next⟩ = some (.flusher,.snapshot)) :
    next.promised = next.registry.values := by
  have hfree : outstanding .flusher e = 0 := by
    rw [outstanding_run .flusher h, waitsFor_of_call .flusher ht hcall]
  rcases promised_of_inquiry (inquiry_ask (traffic_run h).closed hfree ht hcall) with
    ⟨-, hnow⟩ | ⟨reg, htold, -⟩
  · exact hnow
  · cases htold

/-! ### Single steps -/

theorem debouncer_of_quiet (ht : Transition env e a next)
    (hquiet : Stage.noted? ⟨e,a,next⟩ = none)
    (honly : ∀ event, touch a e = some event → event.isAdd = true) :
    next.debouncer = e.debouncer := by
  have huntouched : touch a e = none := by
    cases htouch : touch a e with
    | none => rfl
    | some event =>
      cases event with
      | add key revision =>
        have hnoted : Stage.noted? ⟨e,a,next⟩ = some (key,revision) := noted?_eq_some.mpr htouch
        rw [hquiet] at hnoted
        cases hnoted
      | poll | takeRest => cases honly _ htouch
  rw [debouncer_transition ht, huntouched]
  rfl

theorem isAdd_of_caller_ne (hother : a.caller? ≠ some .flusher) :
    ∀ event, touch a e = some event → event.isAdd = true := by
  intro event htouch
  cases a with
  | fire | quitFlusher => exact absurd rfl hother
  | change =>
    cases htouch
    rfl
  | resumeWatch id => exact isAdd_resumedChange htouch
  | _ => cases htouch

theorem owed_of_stays (h : run env actions {} = some e) (ht : Transition env e a next)
    (hquiet : Stage.noted? ⟨e,a,next⟩ = none) (hregistry : next.registry = e.registry)
    (hother : a.caller? ≠ some .flusher) (hflusher : next.flusher = e.flusher) :
    next.owed c = e.owed c := by
  have hinHand : next.inHand = e.inHand := by
    cases hf : e.flusher with
    | asking batch final =>
      have hahead := promised_transition h (by rw [hf]; rfl) ht hother hregistry
      simp only [inHand, hflusher, hf, hahead]
    | looping | waiting | scanning | stopped => simp only [inHand, hflusher, hf]
  rw [owed, owed, hinHand, hflusher, hregistry,
    debouncer_of_quiet ht hquiet (isAdd_of_caller_ne hother)]

theorem owed_of_flush {final : Bool} (h : run env actions {} = some e)
    (ht : Transition env e a next) (hcall : Stage.call? ⟨e,a,next⟩ = some (.flusher,.snapshot))
    (hasking : next.flusher = .asking batch final)
    (hlast : final = true ∨ next.debouncer.toFlush c = .empty) :
    next.owed c = Scan.admitted next.registry.values batch := by
  rw [owed, inHand, hasking, promised_of_call h ht hcall]
  rcases hlast with rfl | hnone
  · simp [Flusher.isEnding]
  · simp [hnone]

theorem owed_of_fire {armed : Instant} (h : run env actions {} = some e)
    (waiting : e.flusher = .waiting (some armed)) (ht : Transition env e .fire next)
    (hregistry : next.registry = e.registry) : next.owed env.config = e.owed env.config := by
  have hall := ht
  have hdue := @Debouncer.toFlush_poll env.config e.now e.debouncer
  rw [owed_of_isIdle (e := e) (by rw [waiting]; rfl) (by rw [waiting]; rfl), ← hregistry]
  cases ht with
  | fire =>
    cases hp : (e.debouncer.poll env.config e.now).2 with
    | idle | discarded batch | postponed wait pending =>
      simp only [hp] at hdue ⊢
      rw [← hdue]
      exact owed_of_isIdle rfl rfl
    | ready batch =>
      simp only [hp] at hdue hall ⊢
      obtain ⟨rfl, hnone⟩ := hdue
      refine owed_of_flush h hall ?_ (ask_flusher ..) (.inr ?_)
      · simp [Stage.call?, firePoll, flush, Flusher.asked?]
      · rw [firePoll_debouncer]
        exact hnone

theorem owed_of_quitFlusher {armed : Option Instant} (h : run env actions {} = some e)
    (waiting : e.flusher = .waiting armed) (ht : Transition env e .quitFlusher next)
    (hregistry : next.registry = e.registry) : next.owed env.config = e.owed env.config := by
  have hall := ht
  have hrest := @Debouncer.toFlush_takeRest env.config e.now e.debouncer
  rw [owed_of_isIdle (e := e) (by rw [waiting]; rfl) (by rw [waiting]; rfl), ← hregistry]
  cases ht with
  | quitFlusher =>
    cases hr : (e.debouncer.takeRest env.config e.now).2 with
    | discarded batch =>
      simp only [hr] at hrest ⊢
      simp [hrest, flushRest, owed, inHand, Flusher.isEnding]
    | ready batch =>
      simp only [hr] at hrest hall ⊢
      subst hrest
      cases hempty : (e.debouncer.toFlush env.config).isEmpty with
      | true =>
        rw [Scan.admitted_of_isEmpty hempty]
        simp [flushRest, hempty, owed, inHand, Flusher.isEnding]
      | false =>
        refine owed_of_flush h hall ?_ ?_ (.inl rfl)
        · simp [Stage.call?, flushRest, hempty, flush, Flusher.asked?]
        · simp [flushRest, hempty, flush]

/-- A step begins the first of the scans that are owed, or none. -/
theorem owed_transition (h : run env actions {} = some e) (ht : Transition env e a next)
    (hquiet : Stage.noted? ⟨e,a,next⟩ = none) (hregistry : next.registry = e.registry) :
    e.owed env.config = (Stage.begun? ⟨e,a,next⟩).toList ++ next.owed env.config := by
  have hall := ht
  cases ht with
  | arm looping => simp [owed, inHand, looping, Flusher.isEnding, Stage.begun?]
  | wake waiting => simp [owed, inHand, waiting, Flusher.isEnding, Stage.begun?]
  | fire waiting => exact (owed_of_fire h waiting hall hregistry).symm
  | quitFlusher waiting => exact (owed_of_quitFlusher h waiting hall hregistry).symm
  | @launch batch final targets replies asking got =>
    cases final <;>
      simp [owed, inHand, promised, asking, got, Flusher.isEnding, Flight.start, Stage.begun?]
  | @beginScan flight flight' final scan scanning begun =>
    cases final <;>
      simp [owed, inHand, scanning, Flusher.isEnding, Stage.begun?, Flusher.flight?,
        (Flight.begin?_eq_some begun).1]
  | @finishScan place flight flight' final running scanning finished =>
    cases final <;>
      simp [owed, inHand, scanning, Flusher.isEnding, Stage.begun?,
        (Flight.finish?_eq_some finished).1]
  | @land flight final scanning done =>
    cases final <;>
      simp [owed, inHand, scanning, (Flight.isOver_iff.mp done).1, Flusher.isEnding, Stage.begun?,
        note]
  | _ =>
    exact (owed_of_stays h hall hquiet hregistry (by simp [Action.caller?]) (by simp [note])).symm

/-! ### Whole runs -/

/-- A step that notes no change, and in which no target comes or goes. -/
def Stage.IsCalm (s : Stage) : Prop := s.noted? = none ∧ s.after.registry = s.before.registry

variable {more : List Action} {landed : Engine}

theorem begun_append_owed (h : run env actions {} = some e) (hmore : run env more e = some landed)
    (hcalm : ∀ s ∈ path env more e, s.IsCalm) :
    begun (path env more e) ++ landed.owed env.config = e.owed env.config := by
  revert hcalm
  -- Each step takes the scan that it begins off the front of what is owed.
  refine run_induction (P := fun stages middle => (∀ s ∈ stages, s.IsCalm) →
    begun stages ++ middle.owed env.config = e.owed env.config) (fun _ => rfl) ?_ hmore
  intro first middle a next hfirst ih ht hcalm
  obtain ⟨hold, hquiet, hregistry⟩ := forall_mem_concat.mp hcalm
  have hstep := owed_transition ((run_append h).trans hfirst) ht hquiet hregistry
  rw [← ih hold, hstep, ← List.append_assoc]
  exact congrArg (· ++ _) (filterMap_concat ..)

theorem pending_of_isEnding (hopen : e.flusher.isEnding = false)
    (hmore : run env more e = some landed) (hcalm : ∀ s ∈ path env more e, s.IsCalm)
    (hend : landed.flusher.isEnding = true) : landed.debouncer.pending = .empty := by
  revert hcalm hend
  refine path_induction (P := fun stages middle => (∀ s ∈ stages, s.IsCalm) →
    middle.flusher.isEnding = true → middle.debouncer.pending = .empty) ?_ ?_ hmore
  · intro _ hend
    rw [hopen] at hend
    cases hend
  · intro stages middle a next ih ht hcalm hend
    obtain ⟨hold, hquiet, -⟩ := forall_mem_concat.mp hcalm
    cases hbefore : middle.flusher.isEnding with
    | true =>
      rw [debouncer_of_quiet ht hquiet (isEnding_transition ht hbefore).2]
      exact ih hold hbefore
    | false =>
      obtain rfl := quitFlusher_of_isEnding ht hbefore hend
      cases ht with
      | quitFlusher =>
        rw [flushRest_debouncer]
        exact (Debouncer.taken_takeRest (Debouncer.takeRest_taken ..)).2

/-! ### The flusher can come to its end -/

/-- Steps of the flusher, of the registry and of the clock. -/
def Action.isFlushing : Action → Bool
  | .arm | .wake | .fire | .quitFlusher => true
  | a => a.isScanning

theorem isFlushing_of_isScanning (h : more.all Action.isScanning = true) :
    more.all Action.isFlushing = true := by
  refine List.all_eq_true.mpr fun a ha => ?_
  have hscanning := List.all_eq_true.mp h a ha
  cases a <;> first | rfl | cases hscanning

theorem isCalm_of_isFlushing (ht : Transition env e a next) (hflushing : a.isFlushing = true)
    (hqueue : ∀ call ∈ e.requests, call.2 = .snapshot) :
    Stage.IsCalm ⟨e,a,next⟩ ∧ ∀ call ∈ next.requests, call.2 = .snapshot := by
  have hquiet : Stage.noted? ⟨e,a,next⟩ = none := by
    cases a <;> first | rfl | cases hflushing
  cases exchange_of_transition ht with
  | none _ _ _ registry requests | receive _ _ _ _ _ registry requests =>
    exact ⟨⟨hquiet, registry⟩, requests ▸ hqueue⟩
  | @ask caller q _ _ _ _ query _ registry requests =>
    refine ⟨⟨hquiet, registry⟩, fun call hcall => ?_⟩
    rw [requests] at hcall
    unfold ask at hcall
    split at hcall
    · exact hqueue call hcall
    · rcases List.mem_append.mp hcall with hold | hnew
      · exact hqueue call hold
      · rw [List.mem_singleton.mp hnew]
        rcases query with rfl | ⟨n, rfl⟩ | rfl
        · rfl
        · cases hflushing
        · cases hflushing
  | @serve caller q rest _ _ _ _ waiting registry requests =>
    have hsnapshot : q = .snapshot := hqueue (caller,q) (by simp [waiting])
    subst hsnapshot
    exact ⟨⟨hquiet, registry⟩, fun call hcall => hqueue call (by simp [waiting, ← requests, hcall])⟩

theorem isCalm_of_flushing (hmore : run env more e = some landed)
    (hflushing : more.all Action.isFlushing = true)
    (hqueue : ∀ call ∈ e.requests, call.2 = .snapshot) :
    ∀ s ∈ path env more e, s.IsCalm := by
  induction more generalizing e with
  | nil => simp [path]
  | cons a rest ih =>
    obtain ⟨next, hstep, hrest⟩ := Option.bind_eq_some_iff.mp hmore
    rw [List.all_cons, Bool.and_eq_true] at hflushing
    obtain ⟨hcalm, hnext⟩ := isCalm_of_isFlushing (transition_of_step hstep) hflushing.1 hqueue
    intro s hs
    simp only [path, hstep, List.mem_cons] at hs
    rcases hs with rfl | hs
    · exact hcalm
    · exact ih hrest hflushing.2 hnext s hs

/-- The flusher can come to its end by its own steps and those of the registry. -/
def CanEnd (env : Env) (e : Engine) : Prop :=
  ∃ more landed, more.all Action.isFlushing = true ∧ run env more e = some landed ∧
    landed.flusher.isAlive = false

theorem CanEnd.of_run {first : List Action} {middle : Engine}
    (hfirst : run env first e = some middle) (hflushing : first.all Action.isFlushing = true)
    (h : CanEnd env middle) : CanEnd env e := by
  obtain ⟨more, landed, hmore, hrun, hended⟩ := h
  refine ⟨first ++ more, landed, ?_, (run_append hfirst).trans hrun, hended⟩
  rw [List.all_append, hflushing, hmore]
  rfl

theorem CanEnd.of_step {middle : Engine} (hstep : step env a e = some middle)
    (hflushing : a.isFlushing = true) (h : CanEnd env middle) : CanEnd env e := by
  have hrun : run env [a] e = some middle := by simp [run, hstep]
  exact h.of_run hrun (by simp [hflushing])

theorem exists_landing_of_busy (h : run env actions {} = some e)
    (hbusy : e.flusher.isIdle = false) :
    ∃ more landed, more.all Action.isFlushing = true ∧ run env more e = some landed ∧
      landed.flusher.isIdle = true := by
  obtain ⟨f, haloft⟩ := exists_flush_of_busy h hbusy
  obtain ⟨more, landed, hmore, hland⟩ :=
    exists_landing_of_flush h f (Flush.not_isOver.mpr haloft)
  refine ⟨more ++ [.land], landed, ?_, hland, ?_⟩
  · exact isFlushing_of_isScanning (by simp [hmore, Action.isScanning])
  · obtain ⟨middle, -, hstep⟩ := run_concat.mp hland
    cases transition_of_step hstep with
    | @land flight final => cases final <;> rfl

theorem canEnd_of_isEnding (h : run env actions {} = some e) (hend : e.flusher.isEnding = true) :
    CanEnd env e := by
  have stopped {landed : Engine} (hidle : landed.flusher.isIdle = true)
      (hend : landed.flusher.isEnding = true) : landed.flusher.isAlive = false := by
    cases hf : landed.flusher <;> simp_all [Flusher.isIdle, Flusher.isEnding, Flusher.isAlive]
  cases hidle : e.flusher.isIdle with
  | true => exact ⟨[], e, rfl, rfl, stopped hidle hend⟩
  | false =>
    obtain ⟨more, landed, hflushing, hmore, hlanded⟩ := exists_landing_of_busy h hidle
    obtain ⟨t⟩ := exists_lastTake h hend
    have hstill := (t.extend (path_append h)).isEnding ((run_append h).trans hmore)
    exact ⟨more, landed, hflushing, hmore, stopped hlanded hstill⟩

theorem shutdown_transition (ht : Transition env e a next) (h : e.shutdown = true) :
    next.shutdown = true := by
  cases ht with
  | shutdown => rfl
  | fire => exact (firePoll_frame (·.shutdown) (fun _ _ _ _ _ => rfl) ..).trans h
  | quitFlusher => exact (flushRest_frame (·.shutdown) (fun _ _ _ _ _ => rfl) ..).trans h
  | resumeWatch => exact (recordObject_frame (·.shutdown) (fun _ _ _ _ => rfl) ..).trans h
  | request | askForTargets | proceedAsk =>
    exact (ask_frame (·.shutdown) (fun _ _ _ _ => rfl) ..).trans h
  | _ => exact h

theorem shutdown_run (hmore : run env more e = some landed) (h : e.shutdown = true) :
    landed.shutdown = true :=
  path_induction (P := fun _ e => e.shutdown = true) h
    (fun _ _ _ _ hbefore ht => shutdown_transition ht hbefore) hmore

theorem canEnd_of_waiting {armed : Option Instant} (h : run env actions {} = some e)
    (hshutdown : e.shutdown = true) (hwaiting : e.flusher = .waiting armed) : CanEnd env e := by
  obtain ⟨next, hstep⟩ : ∃ next, step env .quitFlusher e = some next := by
    simp [step, quitFlusher, hwaiting, hshutdown]
  have hend : next.flusher.isEnding = true :=
    isEnding_of_takeRest (transition_of_step hstep) rfl
  exact .of_step hstep rfl (canEnd_of_isEnding (run_concat.mpr ⟨e, h, hstep⟩) hend)

theorem canEnd_of_isIdle (h : run env actions {} = some e) (hshutdown : e.shutdown = true)
    (hidle : e.flusher.isIdle = true) : CanEnd env e := by
  cases hf : e.flusher with
  | looping =>
    have hstep : step env .arm e = some { e with flusher := .waiting e.debouncer.deadline } := by
      simp [step, arm, hf]
    exact .of_step hstep rfl
      (canEnd_of_waiting (run_concat.mpr ⟨e, h, hstep⟩) hshutdown rfl)
  | waiting armed => exact canEnd_of_waiting h hshutdown hf
  | stopped => exact canEnd_of_isEnding h (by rw [hf]; rfl)
  | asking | scanning =>
    rw [hf] at hidle
    cases hidle

theorem canEnd_of_shutdown (h : run env actions {} = some e) (hshutdown : e.shutdown = true) :
    CanEnd env e := by
  cases hidle : e.flusher.isIdle with
  | true => exact canEnd_of_isIdle h hshutdown hidle
  | false =>
    obtain ⟨more, landed, hflushing, hmore, hlanded⟩ := exists_landing_of_busy h hidle
    exact .of_run hmore hflushing (canEnd_of_isIdle ((run_append h).trans hmore)
      (shutdown_run hmore hshutdown) hlanded)

/-- If no target and no change comes or goes any more, the flusher begins the scans that are owed
before it ends, whatever it notices first and however often it goes round before it notices
shutdown, and nothing is pending then. Once shutdown is signalled it can come to its end, and with
no target on the way it does so undisturbed. -/
theorem shutdown_confluent (h : run env actions {} = some e)
    (hopen : e.flusher.isEnding = false) :
    (∀ more landed, run env more e = some landed → (∀ s ∈ path env more e, s.IsCalm) →
      landed.flusher.isAlive = false →
      begun (path env more e) = e.owed env.config ∧ landed.debouncer.pending.isEmpty = true) ∧
    (e.shutdown = true → (∀ call ∈ e.requests, call.2 = .snapshot) →
      ∃ more landed, run env more e = some landed ∧ (∀ s ∈ path env more e, s.IsCalm) ∧
        landed.flusher.isAlive = false) := by
  refine ⟨fun more landed hmore hcalm hended => ?_, fun hshutdown hqueue => ?_⟩
  · have hstopped : landed.flusher = .stopped := by
      cases hf : landed.flusher <;> simp_all [Flusher.isAlive]
    have hnothing : landed.owed env.config = [] := by
      simp [owed, inHand, hstopped, Flusher.isEnding]
    have hscans := begun_append_owed h hmore hcalm
    rw [hnothing, List.append_nil] at hscans
    have hempty := pending_of_isEnding hopen hmore hcalm (by rw [hstopped]; rfl)
    exact ⟨hscans, by rw [hempty]; rfl⟩
  · obtain ⟨more, landed, hflushing, hmore, hended⟩ := canEnd_of_shutdown h hshutdown
    exact ⟨more, landed, hmore, isCalm_of_flushing hmore hflushing hqueue, hended⟩

/-- A flush has been dispatched too short a time ago, the deadline has passed and a signal is stored
when shutdown is noticed: at once, or after the signal and the timer, which puts the flush off. -/
theorem shutdown_confluent_when_rate_limited :
    let env : Env := .calm { quiet := 5, spacing := 100, discardFirst := false }
    let pod (name : String) : Resource.Key := ⟨.pod, some "web", name⟩
    let actions : List Action := [.request 0 (.add "t" ⟨"url", "token", "id", [], []⟩), .serve,
      .change (pod "a") ⟨none, some "1"⟩, .arm, .tick 5, .fire, .serve, .launch, .beginScan,
      .finishScan 0, .land, .arm, .change (pod "a") ⟨none, some "2"⟩,
      .change (pod "b") ⟨none, some "1"⟩, .signal, .wake, .arm, .tick 5, .signal, .shutdown]
    let ending : List Action := [.quitFlusher, .serve, .launch, .beginScan, .beginScan,
      .finishScan 1, .finishScan 0, .land]
    let roundabout : List Action := [.wake, .arm, .fire, .arm] ++ ending
    ∃ e, run env actions {} = some e ∧ e.shutdown = true ∧ e.signal = true ∧
      begun (path env ending e) = begun (path env roundabout e) ∧
      (begun (path env ending e)).map (fun s => (s.key,s.revision)) =
        [(pod "a",⟨none, some "2"⟩), (pod "b",⟨none, some "1"⟩)] := by
  intro env pod actions ending roundabout
  obtain ⟨hsame, -⟩ := @shutdown_confluent env _ actions rfl rfl
  have hqueue {e : Engine} (h : e.requests = []) : ∀ call ∈ e.requests, call.2 = .snapshot := by
    simp [h]
  obtain ⟨hending, -⟩ := hsame ending _ rfl (isCalm_of_flushing rfl rfl (hqueue rfl)) rfl
  obtain ⟨hroundabout, -⟩ := hsame roundabout _ rfl (isCalm_of_flushing rfl rfl (hqueue rfl)) rfl
  exact ⟨_, rfl, rfl, rfl, hending.trans hroundabout.symm, by rw [hending]; rfl⟩

end Engine
end WorkloadScan
