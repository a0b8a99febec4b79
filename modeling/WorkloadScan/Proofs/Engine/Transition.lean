import WorkloadScan.Engine.Step

/-! The engine's steps as a relation: one constructor for each way in which a step can go, with all
that it needs to find and the engine that it leaves. -/
namespace WorkloadScan.Engine

inductive Transition (env : Env) (e : Engine) : Action → Engine → Prop
  | tick (nanos : Nat) : Transition env e (.tick nanos) { e with now := e.now + nanos }
  | request {n : Nat} {r : Registry.Request} (held : e.held = true) :
      Transition env e (.request n r) (ask (.user n) r e)
  | collect {n : Nat} {reply : Registry.Reply} {replies : List (Caller × Registry.Reply)}
      (got : takeReply (.user n) e.replies = some (reply,replies)) :
      Transition env e (.collect n) { e with replies }
  | change {key : Resource.Key} {revision : Resource.Revision} (held : e.held = true) :
      Transition env e (.change key revision) (e.record env.config key revision)
  | startWatch {id : String} {kind : Kind} {watched : List Kind} (held : e.held = true)
      (unknown : e.watches.contains id = false) :
      Transition env e (.startWatch id kind watched)
        { e with watches := e.watches.insert id { observer := { kind, watched } } }
  /-- The event reports no change. -/
  | passOver {id : String} {event : Cluster.Event Cluster.Object} {w : Watch}
      (found : e.watches.get? id = some w) (ready : w.phase = .ready)
      (same : w.observer.changed? event = none) :
      Transition env e (.watchEvent id event)
        { e with
          watches := e.watches.insert id { w with observer := w.observer.afterEvent event } }
  | leaveToOwner {id : String} {event : Cluster.Event Cluster.Object} {w : Watch}
      {object : Cluster.Object} (found : e.watches.get? id = some w) (ready : w.phase = .ready)
      (changed : w.observer.changed? event = some object)
      (redundant : (w.observer.afterEvent event).isRedundant object = true) :
      Transition env e (.watchEvent id event)
        (note [.ownedByWatched (w.observer.afterEvent event).kind object.nameOrStem]
          { e with
            watches := e.watches.insert id { w with observer := w.observer.afterEvent event } })
  | askForTargets {id : String} {event : Cluster.Event Cluster.Object} {w : Watch}
      {object : Cluster.Object} (found : e.watches.get? id = some w) (ready : w.phase = .ready)
      (changed : w.observer.changed? event = some object)
      (needed : (w.observer.afterEvent event).isRedundant object = false) :
      Transition env e (.watchEvent id event)
        (ask (.observer id) .snapshot
          { e with
            watches := (e.watches.insert id
              { w with observer := w.observer.afterEvent event }).insert id
                { w with observer := w.observer.afterEvent event, phase := .asking object } })
  | endWatch {id : String} {w : Watch} (found : e.watches.get? id = some w)
      (ready : w.phase = .ready) :
      Transition env e (.endWatch id)
        { e.note [.watchEnded w.observer.kind] with
          watches := e.watches.insert id { w with phase := .stopped } }
  | quitWatch {id : String} {w : Watch} (shutdown : e.shutdown = true)
      (found : e.watches.get? id = some w) (ready : w.phase = .ready) :
      Transition env e (.quitWatch id)
        { e.note [.watchStopped w.observer.kind] with
          watches := e.watches.insert id { w with phase := .stopped } }
  | resumeWatch {id : String} {w : Watch} {object : Cluster.Object} {targets : List Target}
      {replies : List (Caller × Registry.Reply)} (found : e.watches.get? id = some w)
      (asking : w.phase = .asking object)
      (got : takeReply (.observer id) e.replies = some (.targets targets,replies)) :
      Transition env e (.resumeWatch id)
        (recordObject env.config w.observer.kind object targets
          { e with replies, watches := e.watches.insert id { w with phase := .ready } })
  | startReconciler (held : e.held = true) (unstarted : e.reconciling = none) :
      Transition env e .startReconciler { e with reconciling := some (.ready {}) }
  | integrationEvent {event : Cluster.Event Integration} {r : Reconciler}
      (ready : e.reconciling = some (.ready r)) :
      Transition env e (.integrationEvent event)
        { e with reconciling := some (afterMoves (r.handle env.readToken event).1
            (r.handle env.readToken event).2) }
  | endIntegrations {r : Reconciler} (ready : e.reconciling = some (.ready r)) :
      Transition env e .endIntegrations
        { e.note [.integrationsEnded] with reconciling := some .stopped }
  | quitReconciler {r : Reconciler} (shutdown : e.shutdown = true)
      (ready : e.reconciling = some (.ready r)) :
      Transition env e .quitReconciler
        { e.note [.integrationsStopped] with reconciling := some .stopped }
  | proceedNote {r : Reconciler} {notice : Notice} {moves : List Reconciler.Move} {asked : Bool}
      (moving : e.reconciling = some (.moving r (.note notice :: moves) asked)) :
      Transition env e .proceed
        { e.note [notice] with reconciling := some (afterMoves r moves) }
  | proceedAsk {r : Reconciler} {q : Registry.Request} {moves : List Reconciler.Move}
      (moving : e.reconciling = some (.moving r (.request q :: moves) false)) :
      Transition env e .proceed
        (ask .reconciler q
          { e with reconciling := some (.moving r (.request q :: moves) true) })
  | proceedReceive {r : Reconciler} {q : Registry.Request} {moves : List Reconciler.Move}
      {reply : Registry.Reply} {replies : List (Caller × Registry.Reply)}
      (moving : e.reconciling = some (.moving r (.request q :: moves) true))
      (got : takeReply .reconciler e.replies = some (reply,replies)) :
      Transition env e .proceed { e with replies, reconciling := some (afterMoves r moves) }
  | shutdown : Transition env e .shutdown { e with shutdown := true }
  | release : Transition env e .release { e with held := false }
  | signal (noted : e.unsignalled ≠ 0) :
      Transition env e .signal { e with unsignalled := e.unsignalled - 1, signal := true }
  | serve {caller : Caller} {q : Registry.Request} {requests : List (Caller × Registry.Request)}
      (running : e.service ≠ .stopped) (waiting : e.requests = (caller,q) :: requests) :
      Transition env e .serve
        { e with
          requests
          registry := e.registry.apply env.transport q
          replies := e.replies ++ [(caller,e.registry.reply q)]
          journal := {
            metrics := Registry.measure env.transport e.registry q e.journal.metrics
            notices := e.journal.notices ++ Registry.notices env.transport e.registry q
            built := e.journal.built ++ (Registry.built env.transport q).toList
            begun := e.journal.begun } }
  | drain (serving : e.service = .serving) (shutdown : e.shutdown = true) :
      Transition env e .drain { e.note [.draining] with service := .draining }
  | stopServing (idle : e.requests = []) (released : e.hasHandles = false)
      (serving : e.service = .serving) :
      Transition env e .stopService { e with service := .stopped }
  | stopDraining (idle : e.requests = []) (released : e.hasHandles = false)
      (draining : e.service = .draining) :
      Transition env e .stopService { e.note [.handlesReleased] with service := .stopped }
  | arm (looping : e.flusher = .looping) :
      Transition env e .arm { e with flusher := .waiting e.debouncer.deadline }
  | wake {armed : Option Instant} (waiting : e.flusher = .waiting armed)
      (signalled : e.signal = true) :
      Transition env e .wake { e with signal := false, flusher := .looping }
  | fire {armed : Instant} (waiting : e.flusher = .waiting (some armed)) (due : armed ≤ e.now) :
      Transition env e .fire
        (firePoll { e with debouncer := (e.debouncer.poll env.config e.now).1 }
          (e.debouncer.poll env.config e.now).2)
  | quitFlusher {armed : Option Instant} (waiting : e.flusher = .waiting armed)
      (shutdown : e.shutdown = true) :
      Transition env e .quitFlusher
        (flushRest { e with debouncer := (e.debouncer.takeRest env.config e.now).1 }
          (e.debouncer.takeRest env.config e.now).2)
  | launch {batch : Batch} {final : Bool} {targets : List Target}
      {replies : List (Caller × Registry.Reply)} (asking : e.flusher = .asking batch final)
      (got : takeReply .flusher e.replies = some (.targets targets,replies)) :
      Transition env e .launch
        { e with
          replies
          flusher := .scanning (.start targets batch) final
          journal := { e.journal with
            notices := e.journal.notices ++ (Scan.refused targets batch).map filteredNotice
            metrics := { e.journal.metrics with
              filtered := e.journal.metrics.filtered + (Flight.start targets batch).filtered } } }
  | beginScan {flight next : Flight} {final : Bool} {scan : Scan}
      (scanning : e.flusher = .scanning flight final)
      (begun : flight.begin? env.config.limit (env.transport.respond e.now) e.now =
        some (scan,next)) :
      Transition env e .beginScan
        { e with
          flusher := .scanning next final
          journal := { e.journal with begun := e.journal.begun ++ [(e.now,scan)] } }
  | finishScan {place : Nat} {flight next : Flight} {final : Bool} {running : Flight.Running}
      (scanning : e.flusher = .scanning flight final)
      (finished : flight.finish? e.now place = some (running,next)) :
      Transition env e (.finishScan place)
        { e with
          flusher := .scanning next final
          journal := { e.journal with
            notices := e.journal.notices ++ [scanNotice running]
            metrics := e.journal.metrics.countScan running.error.isNone } }
  | land {flight : Flight} {final : Bool} (scanning : e.flusher = .scanning flight final)
      (done : flight.isOver = true) :
      Transition env e .land
        { e.note [.flushed flight.resources flight.targets flight.scanned flight.failed
            flight.filtered] with
          flusher := if final then .stopped else .looping }

theorem receive?_eq_some {caller : Caller} {e next : Engine} {reply : Registry.Reply} :
    e.receive? caller = some (reply,next) ↔
      ∃ replies, takeReply caller e.replies = some (reply,replies) ∧ next = { e with replies } := by
  simp only [receive?, Option.map_eq_some_iff, Prod.exists, Prod.mk.injEq]
  constructor
  · rintro ⟨_, replies, got, rfl, rfl⟩
    exact ⟨replies, got, rfl⟩
  · rintro ⟨replies, got, rfl⟩
    exact ⟨reply, replies, got, rfl, rfl⟩

variable {env : Env} {e next : Engine}

theorem transition_of_serve (h : serve env e = some next) : Transition env e .serve next := by
  unfold serve at h
  split at h
  · cases h
  case isFalse running =>
    cases hq : e.requests with
    | nil => simp [hq] at h
    | cons call requests =>
      simp only [hq, Option.some.injEq] at h
      subst h
      exact .serve running hq

theorem transition_of_stopService (h : stopService e = some next) :
    Transition env e .stopService next := by
  unfold stopService at h
  split at h
  case isFalse => cases h
  case isTrue idle =>
    obtain ⟨hidle, hreleased⟩ := Bool.and_eq_true_iff.mp idle
    have hnil : e.requests = [] := List.isEmpty_iff.mp hidle
    have hnone : e.hasHandles = false := by simpa using hreleased
    cases hs : e.service with
    | serving =>
      simp only [hs, Option.some.injEq] at h
      exact h ▸ .stopServing hnil hnone hs
    | draining =>
      simp only [hs, Option.some.injEq] at h
      exact h ▸ .stopDraining hnil hnone hs
    | stopped => simp [hs] at h

theorem transition_of_watchEvent {id : String} {event : Cluster.Event Cluster.Object}
    (h : watchEvent id event e = some next) : Transition env e (.watchEvent id event) next := by
  unfold watchEvent at h
  split at h
  case h_2 => cases h
  case h_1 w found =>
    split at h
    case isFalse => cases h
    case isTrue ready =>
      split at h
      case h_1 object changed =>
        cases h
        unfold observe
        split
        case isTrue redundant => exact .leaveToOwner found ready changed redundant
        case isFalse needed => exact .askForTargets found ready changed (by simpa using needed)
      case h_2 same =>
        cases h
        exact .passOver found ready same

theorem transition_of_resumeWatch {id : String} (h : resumeWatch env id e = some next) :
    Transition env e (.resumeWatch id) next := by
  unfold resumeWatch at h
  split at h
  case h_2 => cases h
  case h_1 w found =>
    split at h
    case h_2 => cases h
    case h_1 object asking =>
      split at h
      case h_1 targets received got =>
        obtain ⟨replies, hgot, rfl⟩ := receive?_eq_some.mp got
        cases h
        exact .resumeWatch found asking hgot
      case h_2 => cases h

theorem transition_of_proceed (h : proceed e = some next) : Transition env e .proceed next := by
  unfold proceed at h
  split at h
  case h_1 moving =>
    cases h
    exact .proceedNote moving
  case h_2 moving =>
    cases h
    exact .proceedAsk moving
  case h_3 moving =>
    split at h
    case h_1 received got =>
      obtain ⟨replies, hgot, rfl⟩ := receive?_eq_some.mp got
      cases h
      exact .proceedReceive moving hgot
    case h_2 => cases h
  case h_4 => cases h

theorem transition_of_launch (h : launch e = some next) : Transition env e .launch next := by
  unfold launch at h
  split at h
  case h_2 => cases h
  case h_1 batch final asking =>
    split at h
    case h_1 targets received got =>
      obtain ⟨replies, hgot, rfl⟩ := receive?_eq_some.mp got
      cases h
      exact .launch asking hgot
    case h_2 => cases h

theorem transition_of_beginScan (h : beginScan env e = some next) :
    Transition env e .beginScan next := by
  unfold beginScan at h
  split at h
  case h_2 => cases h
  case h_1 flight final scanning =>
    split at h
    case h_1 scan begun hbegun =>
      cases h
      exact .beginScan scanning hbegun
    case h_2 => cases h

theorem transition_of_finishScan {place : Nat} (h : finishScan place e = some next) :
    Transition env e (.finishScan place) next := by
  unfold finishScan at h
  split at h
  case h_2 => cases h
  case h_1 flight final scanning =>
    split at h
    case h_1 running finished hfinished =>
      cases h
      exact .finishScan scanning hfinished
    case h_2 => cases h

theorem transition_of_fire (h : fire env e = some next) : Transition env e .fire next := by
  unfold fire at h
  split at h
  case h_2 => cases h
  case h_1 armed waiting =>
    split at h
    case isTrue due =>
      cases h
      exact .fire waiting due
    case isFalse => cases h

theorem transition_of_quitFlusher (h : quitFlusher env e = some next) :
    Transition env e .quitFlusher next := by
  unfold quitFlusher at h
  split at h
  case h_2 => cases h
  case h_1 armed waiting =>
    split at h
    case isTrue shutdown =>
      cases h
      exact .quitFlusher waiting shutdown
    case isFalse => cases h

theorem stopWatch_eq_some {id : String} {notice : Kind → Notice}
    (h : stopWatch id notice e = some next) :
    ∃ w, e.watches.get? id = some w ∧ w.phase = .ready ∧
      next = { e.note [notice w.observer.kind] with
        watches := e.watches.insert id { w with phase := .stopped } } := by
  unfold stopWatch at h
  split at h
  case h_2 => cases h
  case h_1 w found =>
    split at h
    case isTrue ready => exact ⟨w, found, ready, (Option.some.inj h).symm⟩
    case isFalse => cases h

theorem stopReconciler_eq_some {notice : Notice} (h : stopReconciler notice e = some next) :
    ∃ r, e.reconciling = some (.ready r) ∧
      next = { e.note [notice] with reconciling := some .stopped } := by
  unfold stopReconciler at h
  split at h
  case h_1 r ready => exact ⟨r, ready, (Option.some.inj h).symm⟩
  case h_2 => cases h

theorem transition_of_step {a : Action} (h : step env a e = some next) :
    Transition env e a next := by
  cases a with
  | tick nanos => cases h; exact .tick nanos
  | request n r =>
    obtain ⟨held, rfl⟩ : e.held = true ∧ ask (.user n) r e = next := by
      simpa [step, request] using h
    exact .request held
  | collect n =>
    obtain ⟨reply, got⟩ : ∃ reply, e.receive? (.user n) = some (reply,next) := by
      simpa [step, collect] using h
    obtain ⟨replies, hgot, rfl⟩ := receive?_eq_some.mp got
    exact .collect hgot
  | change key revision =>
    obtain ⟨held, rfl⟩ : e.held = true ∧ e.record env.config key revision = next := by
      simpa [step, change] using h
    exact .change held
  | startWatch id kind watched =>
    simp only [step, startWatch] at h
    split at h
    case isTrue free =>
      obtain ⟨held, unknown⟩ := Bool.and_eq_true_iff.mp free
      cases h
      exact .startWatch held (by simpa using unknown)
    case isFalse => cases h
  | watchEvent id event => exact transition_of_watchEvent h
  | endWatch id =>
    obtain ⟨w, found, ready, rfl⟩ := stopWatch_eq_some h
    exact .endWatch found ready
  | startReconciler =>
    simp only [step, startReconciler] at h
    split at h
    case isTrue free =>
      obtain ⟨held, unstarted⟩ := Bool.and_eq_true_iff.mp free
      cases h
      exact .startReconciler held (Option.isNone_iff_eq_none.mp unstarted)
    case isFalse => cases h
  | integrationEvent event =>
    simp only [step, integrationEvent] at h
    split at h
    case h_1 r ready =>
      cases h
      exact .integrationEvent ready
    case h_2 => cases h
  | endIntegrations =>
    obtain ⟨r, ready, rfl⟩ := stopReconciler_eq_some h
    exact .endIntegrations ready
  | shutdown => cases h; exact .shutdown
  | release => cases h; exact .release
  | signal =>
    simp only [step, sendSignal] at h
    split at h
    case isTrue => cases h
    case isFalse noted => cases h; exact .signal noted
  | serve => exact transition_of_serve h
  | drain =>
    simp only [step, drain] at h
    split at h
    case isTrue noticed =>
      obtain ⟨serving, shutdown⟩ := Bool.and_eq_true_iff.mp noticed
      cases h
      exact .drain (of_decide_eq_true serving) shutdown
    case isFalse => cases h
  | stopService => exact transition_of_stopService h
  | arm =>
    simp only [step, arm] at h
    split at h
    case h_1 looping => cases h; exact .arm looping
    case h_2 => cases h
  | wake =>
    simp only [step, wake] at h
    split at h
    case h_1 armed waiting =>
      split at h
      case isTrue signalled => cases h; exact .wake waiting signalled
      case isFalse => cases h
    case h_2 => cases h
  | fire => exact transition_of_fire h
  | quitFlusher => exact transition_of_quitFlusher h
  | launch => exact transition_of_launch h
  | beginScan => exact transition_of_beginScan h
  | finishScan place => exact transition_of_finishScan h
  | land =>
    simp only [step, land] at h
    split at h
    case h_1 flight final scanning =>
      split at h
      case isTrue done => cases h; exact .land scanning done
      case isFalse => cases h
    case h_2 => cases h
  | resumeWatch id => exact transition_of_resumeWatch h
  | quitWatch id =>
    simp only [step, quitWatch] at h
    split at h
    case isTrue shutdown =>
      obtain ⟨w, found, ready, rfl⟩ := stopWatch_eq_some h
      exact .quitWatch shutdown found ready
    case isFalse => cases h
  | proceed => exact transition_of_proceed h
  | quitReconciler =>
    simp only [step, quitReconciler] at h
    split at h
    case isTrue shutdown =>
      obtain ⟨r, ready, rfl⟩ := stopReconciler_eq_some h
      exact .quitReconciler shutdown ready
    case isFalse => cases h

end WorkloadScan.Engine
