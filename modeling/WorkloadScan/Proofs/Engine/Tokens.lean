import WorkloadScan.Engine.Step
import WorkloadScan.Proofs.Tokens

/-! Runs without tokens. A step of the engine goes the same way when all tokens are taken out of the
engine, and so two runs that differ in tokens only stay the same but for tokens. -/
namespace WorkloadScan.Engine
open Reconciler (TokenReader)
variable {env : Env} (e : Engine)

def Env.bare (env : Env) : Env := { env with readToken := TokenReader.bare env.readToken }

def Flusher.bare : Flusher → Flusher
  | .scanning flight final => .scanning flight.bare final
  | .looping => .looping
  | .waiting armed => .waiting armed
  | .asking batch final => .asking batch final
  | .stopped => .stopped

def Reconciling.bare : Reconciling → Reconciling
  | .ready r => .ready r
  | .moving r moves asked => .moving r (moves.map Reconciler.Move.bare) asked
  | .stopped => .stopped

def Journal.bare (j : Journal) : Journal :=
  { j with
    built := j.built.map fun entry => (entry.1.bare,entry.2)
    begun := j.begun.map fun entry => (entry.1,entry.2.bare) }

def bareRequest (call : Caller × Registry.Request) : Caller × Registry.Request :=
  (call.1,call.2.bare)

def bareReply (entry : Caller × Registry.Reply) : Caller × Registry.Reply :=
  (entry.1,entry.2.bare)

/-- The engine without tokens. -/
def bare (e : Engine) : Engine :=
  { e with
    registry := Registry.bare e.registry
    requests := e.requests.map bareRequest
    replies := e.replies.map bareReply
    flusher := e.flusher.bare
    reconciling := e.reconciling.map Reconciling.bare
    journal := e.journal.bare }

def Action.bare : Action → Action
  | .request n q => .request n q.bare
  | a => a

section Fields

@[simp] theorem bare_readToken : env.bare.readToken = TokenReader.bare env.readToken := rfl

@[simp] theorem bare_config : env.bare.config = env.config := rfl

@[simp] theorem bare_transport : env.bare.transport = env.transport := rfl

@[simp] theorem bare_now : e.bare.now = e.now := rfl

@[simp] theorem bare_shutdown : e.bare.shutdown = e.shutdown := rfl

@[simp] theorem bare_held : e.bare.held = e.held := rfl

@[simp] theorem bare_service : e.bare.service = e.service := rfl

@[simp] theorem bare_registry : e.bare.registry = Registry.bare e.registry := rfl

@[simp] theorem bare_requests : e.bare.requests = e.requests.map bareRequest := rfl

@[simp] theorem bare_replies : e.bare.replies = e.replies.map bareReply := rfl

@[simp] theorem bare_debouncer : e.bare.debouncer = e.debouncer := rfl

@[simp] theorem bare_signal : e.bare.signal = e.signal := rfl

@[simp] theorem bare_unsignalled : e.bare.unsignalled = e.unsignalled := rfl

@[simp] theorem bare_flusher : e.bare.flusher = e.flusher.bare := rfl

@[simp] theorem bare_watches : e.bare.watches = e.watches := rfl

@[simp] theorem bare_reconciling : e.bare.reconciling = e.reconciling.map Reconciling.bare := rfl

end Fields

/-! ### The parts of a step -/

theorem ask_bare (caller : Caller) (q : Registry.Request) :
    ask caller q.bare e.bare = (ask caller q e).bare := by
  simp only [ask, bare_service, Registry.droppedNotices_bare, Registry.emptyReply_bare]
  split
  · simp [bare, note, bareReply, Journal.bare]
  · simp [bare, bareRequest]

theorem takeReply_bare (caller : Caller) (replies : List (Caller × Registry.Reply)) :
    takeReply caller (replies.map bareReply) =
      (takeReply caller replies).map fun found => (found.1.bare,found.2.map bareReply) := by
  induction replies with
  | nil => rfl
  | cons entry rest ih =>
    obtain ⟨c, reply⟩ := entry
    have hentry : bareReply (c,reply) = (c,reply.bare) := rfl
    rw [List.map_cons, hentry, takeReply, takeReply, ih]
    split
    · rfl
    · cases takeReply caller rest <;> rfl

theorem receive?_bare (caller : Caller) :
    e.bare.receive? caller = (e.receive? caller).map (Prod.map Registry.Reply.bare bare) := by
  simp only [receive?, bare_replies, takeReply_bare]
  cases takeReply caller e.replies <;> rfl

@[simp] theorem isAlive_bare (f : Flusher) : f.bare.isAlive = f.isAlive := by
  cases f <;> rfl

theorem hasHandles_bare : e.bare.hasHandles = e.hasHandles := by
  have hreconciling : (e.reconciling.map Reconciling.bare).any Reconciling.isAlive =
      e.reconciling.any Reconciling.isAlive := by
    cases e.reconciling with
    | none => rfl
    | some r => cases r <;> rfl
  simp [hasHandles, hreconciling]

theorem afterMoves_bare (r : Reconciler) (moves : List Reconciler.Move) :
    afterMoves r (moves.map Reconciler.Move.bare) = (afterMoves r moves).bare := by
  cases moves <;> rfl

/-! ### The steps -/

theorem serve_bare (h : env.transport.IsTokenBlind) :
    serve env.bare e.bare = (serve env e).map bare := by
  by_cases hstopped : e.service = .stopped
  · simp [serve, hstopped]
  cases hrequests : e.requests with
  | nil => simp [serve, hstopped, hrequests]
  | cons call rest =>
    obtain ⟨caller, q⟩ := call
    have hcall : bareRequest (caller,q) = (caller,q.bare) := rfl
    simp [serve, hstopped, hrequests, hcall, Registry.notices_bare _ _ h,
      Registry.measure_bare _ _ h, Registry.apply_bare _ _ h, Registry.reply_bare,
      Registry.built_bare _ h, bare, bareReply, note, measure, Journal.bare]
    cases Registry.built env.transport q <;> rfl

theorem drain_bare : drain e.bare = (drain e).map bare := by
  cases hservice : e.service <;> cases hshutdown : e.shutdown <;>
    simp [drain, hservice, hshutdown, bare, note, Journal.bare]

theorem stopService_bare : stopService e.bare = (stopService e).map bare := by
  simp only [stopService, bare_requests, bare_service, hasHandles_bare, List.isEmpty_map]
  split
  · cases e.service <;> rfl
  · rfl

theorem arm_bare : arm e.bare = (arm e).map bare := by
  simp only [arm, bare_flusher]
  cases e.flusher <;> rfl

theorem wake_bare : wake e.bare = (wake e).map bare := by
  cases hflusher : e.flusher with
  | waiting armed =>
    cases hsignal : e.signal <;> simp [wake, hflusher, Flusher.bare, hsignal, bare]
  | looping | asking | scanning | stopped => simp [wake, hflusher, Flusher.bare]

theorem flush_bare (batch : Batch) (final : Bool) :
    flush batch final e.bare = (flush batch final e).bare :=
  ask_bare { e with flusher := .asking batch final } .flusher .snapshot

theorem firePoll_bare (p : Debouncer.Poll) : firePoll e.bare p = (firePoll e p).bare := by
  cases p with
  | ready batch =>
    exact flush_bare (e.measure ({ ·.countFlush .dispatched with pending := 0 })) batch false
  | idle | discarded | postponed => rfl

theorem fire_bare : fire env.bare e.bare = (fire env e).map bare := by
  cases hflusher : e.flusher with
  | waiting armed =>
    cases armed with
    | none => simp [fire, hflusher, Flusher.bare]
    | some armed =>
      by_cases harmed : armed ≤ e.now
      · simp only [fire, bare_flusher, hflusher, Flusher.bare, bare_now, if_pos harmed]
        exact congrArg some (firePoll_bare
          { e with
            debouncer := (e.debouncer.poll env.config e.now).1
            flusher := .waiting (some armed) }
          (e.debouncer.poll env.config e.now).2)
      · simp [fire, hflusher, Flusher.bare, harmed]
  | looping | asking | scanning | stopped => simp [fire, hflusher, Flusher.bare]

theorem flushRest_bare (rest : Debouncer.Remainder) :
    flushRest e.bare rest = (flushRest e rest).bare := by
  cases rest with
  | discarded => rfl
  | ready batch =>
    by_cases hempty : batch.isEmpty
    · simp only [flushRest, if_pos hempty]
      rfl
    · simp only [flushRest, if_neg hempty]
      exact flush_bare (((e.measure ({ · with pending := 0 })).note
        [.flushBeforeShutdown batch.size]).measure (·.countFlush .shutdown)) batch true

theorem quitFlusher_bare : quitFlusher env.bare e.bare = (quitFlusher env e).map bare := by
  cases hflusher : e.flusher with
  | waiting armed =>
    by_cases hshutdown : e.shutdown = true
    · simp only [quitFlusher, bare_flusher, hflusher, Flusher.bare, bare_shutdown, if_pos hshutdown]
      exact congrArg some (flushRest_bare
        { e with
          debouncer := (e.debouncer.takeRest env.config e.now).1
          flusher := .waiting armed }
        (e.debouncer.takeRest env.config e.now).2)
    · simp [quitFlusher, hflusher, Flusher.bare, hshutdown]
  | looping | asking | scanning | stopped => simp [quitFlusher, hflusher, Flusher.bare]

theorem launch_bare : launch e.bare = (launch e).map bare := by
  cases hflusher : e.flusher with
  | asking batch final =>
    simp only [launch, bare_flusher, hflusher, Flusher.bare, receive?_bare]
    cases e.receive? .flusher with
    | none => rfl
    | some found =>
      obtain ⟨reply, next⟩ := found
      cases reply with
      | done => rfl
      | targets targets =>
        have hnotices : (Scan.refused (targets.map Target.bare) batch).map filteredNotice =
            (Scan.refused targets batch).map filteredNotice := by
          rw [Scan.refused_bare, List.map_map]
          rfl
        simp only [Option.map_some, Prod.map_apply, Registry.Reply.bare, Flight.start_bare,
          hnotices]
        rfl
  | looping | waiting | scanning | stopped => simp [launch, hflusher, Flusher.bare]

theorem beginScan_bare (h : env.transport.IsTokenBlind) :
    beginScan env.bare e.bare = (beginScan env e).map bare := by
  cases hflusher : e.flusher with
  | scanning flight final =>
    simp only [beginScan, bare_flusher, hflusher, Flusher.bare, bare_now, bare_transport,
      bare_config, Flight.begin?_bare h]
    cases flight.begin? env.config.limit (env.transport.respond e.now) e.now with
    | none => rfl
    | some found => simp [bare, Flusher.bare, Journal.bare]
  | looping | waiting | asking | stopped => simp [beginScan, hflusher, Flusher.bare]

theorem finishScan_bare (place : Nat) :
    finishScan place e.bare = (finishScan place e).map bare := by
  cases hflusher : e.flusher with
  | scanning flight final =>
    simp only [finishScan, bare_flusher, hflusher, Flusher.bare, bare_now, Flight.finish?_bare]
    cases flight.finish? e.now place <;> rfl
  | looping | waiting | asking | stopped => simp [finishScan, hflusher, Flusher.bare]

theorem land_bare : land e.bare = (land e).map bare := by
  cases hflusher : e.flusher with
  | scanning flight final =>
    simp only [land, bare_flusher, hflusher, Flusher.bare, Flight.isOver_bare]
    split
    · cases final <;> rfl
    · rfl
  | looping | waiting | asking | stopped => simp [land, hflusher, Flusher.bare]

theorem startWatch_bare (id : String) (kind : Kind) (watched : List Kind) :
    startWatch id kind watched e.bare = (startWatch id kind watched e).map bare := by
  cases hheld : e.held <;> cases hcontains : e.watches.contains id <;>
    simp [startWatch, hheld, hcontains, bare]

theorem observe_bare (id : String) (w : Watch) (object : Cluster.Object) :
    observe id w object e.bare = (observe id w object e).bare := by
  simp only [observe]
  split
  · rfl
  · exact ask_bare { e with watches := e.watches.insert id { w with phase := .asking object } }
      (.observer id) .snapshot

theorem watchEvent_bare (id : String) (event : Cluster.Event Cluster.Object) :
    watchEvent id event e.bare = (watchEvent id event e).map bare := by
  simp only [watchEvent, bare_watches]
  cases e.watches.get? id with
  | none => rfl
  | some w =>
    by_cases hready : w.phase = .ready
    · simp only [hready, if_true]
      cases w.observer.changed? event with
      | none => rfl
      | some object =>
        exact congrArg some (observe_bare { e with watches := e.watches.insert id _ } id _ object)
    · simp [hready]

theorem recordObject_bare (config : Config) (kind : Kind) (object : Cluster.Object)
    (targets : List Target) :
    recordObject config kind object (targets.map Target.bare) e.bare =
      (recordObject config kind object targets e).bare := by
  simp only [recordObject, List.isEmpty_map]
  split
  · rfl
  · cases object.key? kind <;> rfl

theorem resumeWatch_bare (id : String) :
    resumeWatch env.bare id e.bare = (resumeWatch env id e).map bare := by
  simp only [resumeWatch, bare_watches]
  cases e.watches.get? id with
  | none => rfl
  | some w =>
    cases hphase : w.phase with
    | ready | stopped => simp [hphase]
    | asking object =>
      simp only [hphase, receive?_bare]
      cases e.receive? (.observer id) with
      | none => rfl
      | some found =>
        obtain ⟨reply, next⟩ := found
        cases reply with
        | done => rfl
        | targets targets =>
          exact congrArg some (recordObject_bare
            { next with watches := next.watches.insert id { w with phase := .ready } } env.config
            w.observer.kind object targets)

theorem stopWatch_bare (id : String) (notice : Kind → Notice) :
    stopWatch id notice e.bare = (stopWatch id notice e).map bare := by
  simp only [stopWatch, bare_watches]
  cases e.watches.get? id with
  | none => rfl
  | some w =>
    by_cases hready : w.phase = .ready
    · simp only [hready, if_true]
      rfl
    · simp [hready]

theorem quitWatch_bare (id : String) : quitWatch id e.bare = (quitWatch id e).map bare := by
  by_cases hshutdown : e.shutdown = true <;> simp [quitWatch, hshutdown, stopWatch_bare]

theorem startReconciler_bare : startReconciler e.bare = (startReconciler e).map bare := by
  simp only [startReconciler, bare_held, bare_reconciling, Option.isNone_map]
  split <;> rfl

theorem integrationEvent_bare (event : Cluster.Event Integration) :
    integrationEvent env.bare event e.bare = (integrationEvent env event e).map bare := by
  cases hreconciling : e.reconciling with
  | none => simp [integrationEvent, hreconciling]
  | some reconciling =>
    cases reconciling with
    | ready r =>
      simp only [integrationEvent, hreconciling, bare_reconciling, Option.map_some,
        Reconciling.bare, bare_readToken, Reconciler.handle_bare, afterMoves_bare]
      rfl
    | moving | stopped => simp [integrationEvent, hreconciling, Reconciling.bare]

theorem proceed_bare : proceed e.bare = (proceed e).map bare := by
  cases hreconciling : e.reconciling with
  | none => simp [proceed, hreconciling]
  | some reconciling =>
    cases reconciling with
    | ready | stopped => simp [proceed, hreconciling, Reconciling.bare]
    | moving r moves asked =>
      cases moves with
      | nil => simp [proceed, hreconciling, Reconciling.bare]
      | cons move moves =>
        cases move with
        | note notice =>
          simp [proceed, hreconciling, Reconciling.bare, Reconciler.Move.bare, afterMoves_bare,
            bare, note, Journal.bare]
        | request q =>
          cases asked with
          | false =>
            simp only [proceed, hreconciling, bare_reconciling, Option.map_some, Reconciling.bare,
              List.map_cons, Reconciler.Move.bare]
            exact congrArg some (ask_bare
              { e with reconciling := some (.moving r (.request q :: moves) true) } .reconciler q)
          | true =>
            simp only [proceed, hreconciling, bare_reconciling, Option.map_some, Reconciling.bare,
              List.map_cons, Reconciler.Move.bare, receive?_bare]
            cases e.receive? .reconciler with
            | none => rfl
            | some found => simp [afterMoves_bare, bare]

theorem stopReconciler_bare (notice : Notice) :
    stopReconciler notice e.bare = (stopReconciler notice e).map bare := by
  cases hreconciling : e.reconciling with
  | none => simp [stopReconciler, hreconciling]
  | some reconciling =>
    cases reconciling <;>
      simp [stopReconciler, hreconciling, Reconciling.bare, bare, note, Journal.bare]

theorem quitReconciler_bare : quitReconciler e.bare = (quitReconciler e).map bare := by
  by_cases hshutdown : e.shutdown = true <;> simp [quitReconciler, hshutdown, stopReconciler_bare]

theorem request_bare (number : Nat) (q : Registry.Request) :
    request number q.bare e.bare = (request number q e).map bare := by
  by_cases hheld : e.held = true <;> simp [request, hheld, ask_bare]

theorem collect_bare (number : Nat) : collect number e.bare = (collect number e).map bare := by
  simp only [collect, receive?_bare]
  cases e.receive? (.user number) <;> rfl

theorem change_bare (key : Resource.Key) (revision : Resource.Revision) :
    change env.bare key revision e.bare = (change env key revision e).map bare := by
  cases hheld : e.held <;>
    simp [change, hheld, record, bare, measure, Journal.bare]

theorem sendSignal_bare : sendSignal e.bare = (sendSignal e).map bare := by
  cases hunsignalled : e.unsignalled <;> simp [sendSignal, hunsignalled, bare]

theorem step_bare (h : env.transport.IsTokenBlind) (a : Action) :
    step env.bare a.bare e.bare = (step env a e).map bare := by
  cases a with
  | tick | shutdown | release => rfl
  | request n q => exact request_bare e n q
  | collect n => exact collect_bare e n
  | change key revision => exact change_bare e key revision
  | startWatch id kind watched => exact startWatch_bare e id kind watched
  | watchEvent id event => exact watchEvent_bare e id event
  | endWatch id => exact stopWatch_bare e id .watchEnded
  | startReconciler => exact startReconciler_bare e
  | integrationEvent event => exact integrationEvent_bare e event
  | endIntegrations => exact stopReconciler_bare e .integrationsEnded
  | signal => exact sendSignal_bare e
  | serve => exact serve_bare e h
  | drain => exact drain_bare e
  | stopService => exact stopService_bare e
  | arm => exact arm_bare e
  | wake => exact wake_bare e
  | fire => exact fire_bare e
  | quitFlusher => exact quitFlusher_bare e
  | launch => exact launch_bare e
  | beginScan => exact beginScan_bare e h
  | finishScan place => exact finishScan_bare e place
  | land => exact land_bare e
  | resumeWatch id => exact resumeWatch_bare e id
  | quitWatch id => exact quitWatch_bare e id
  | proceed => exact proceed_bare e
  | quitReconciler => exact quitReconciler_bare e

end WorkloadScan.Engine
