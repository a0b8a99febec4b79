import WorkloadScan.Engine.Basic

/-! The single steps of the engine. Every order of steps is a run of the engine. A step that the
state does not allow gives nothing. -/
namespace WorkloadScan.Engine

inductive Action where
  /-- Time passes. -/
  | tick (nanos : Nat)
  | request (number : Nat) (request : Registry.Request)
  | collect (number : Nat)
  | change (key : Resource.Key) (revision : Resource.Revision)
  | startWatch (id : String) (kind : Kind) (watched : List Kind)
  | watchEvent (id : String) (event : Cluster.Event Cluster.Object)
  | endWatch (id : String)
  | startReconciler
  | integrationEvent (event : Cluster.Event Integration)
  | endIntegrations
  | shutdown
  /-- Users let go of the registry and the debouncer. -/
  | release
  /-- A change that was noted is signalled to the flusher. -/
  | signal
  | serve
  | drain
  | stopService
  | arm
  | wake
  | fire
  | quitFlusher
  | launch
  | beginScan
  | finishScan (place : Nat)
  | land
  | resumeWatch (id : String)
  | quitWatch (id : String)
  | proceed
  | quitReconciler
  deriving DecidableEq, Repr

variable (env : Env)

/-! ### The registry -/

def serve (e : Engine) : Option Engine :=
  if e.service = .stopped then none
  else
    match e.requests with
    | [] => none
    | (caller, request) :: requests =>
      let noted := (e.note (Registry.notices env.transport e.registry request)).measure
        (Registry.measure env.transport e.registry request)
      some { noted with
        requests
        registry := Registry.apply env.transport e.registry request
        replies := e.replies ++ [(caller, Registry.reply e.registry request)]
        journal := { noted.journal with
          built := e.journal.built ++ (Registry.built env.transport request).toList } }

def drain (e : Engine) : Option Engine :=
  if e.service = .serving && e.shutdown then some { e.note [.draining] with service := .draining }
  else none

/-- The registry stops when nobody is left who could have a request. -/
def stopService (e : Engine) : Option Engine :=
  if e.requests.isEmpty && !e.hasHandles then
    match e.service with
    | .serving => some { e with service := .stopped }
    | .draining => some { e.note [.handlesReleased] with service := .stopped }
    | .stopped => none
  else none

/-! ### The flusher -/

def arm (e : Engine) : Option Engine :=
  match e.flusher with
  | .looping => some { e with flusher := .waiting e.debouncer.deadline }
  | _ => none

def wake (e : Engine) : Option Engine :=
  match e.flusher with
  | .waiting _ => if e.signal then some { e with signal := false, flusher := .looping } else none
  | _ => none

/-- Asks for the targets to which a batch goes. -/
def flush (batch : Batch) (final : Bool) (e : Engine) : Engine :=
  ask .flusher .snapshot { e with flusher := .asking batch final }

def firePoll (e : Engine) : Debouncer.Poll → Engine
  | .idle => { e with flusher := .looping }
  | .discarded batch =>
    { (e.note [.initialFlushDiscarded batch.size]).measure
        ({ ·.countFlush .suppressed with pending := 0 }) with flusher := .looping }
  | .postponed wait pending =>
    { (e.note [.flushPostponed wait pending]).measure (·.countFlush .rateLimited) with
      flusher := .looping }
  | .ready batch => (e.measure ({ ·.countFlush .dispatched with pending := 0 })).flush batch false

def fire (e : Engine) : Option Engine :=
  match e.flusher with
  | .waiting (some armed) =>
    if armed ≤ e.now then
      let (debouncer, poll) := e.debouncer.poll env.config e.now
      some (firePoll { e with debouncer } poll)
    else none
  | _ => none

def flushRest (e : Engine) : Debouncer.Remainder → Engine
  | .discarded _ => { e.measure ({ · with pending := 0 }) with flusher := .stopped }
  | .ready batch =>
    let e := e.measure ({ · with pending := 0 })
    if batch.isEmpty then { e with flusher := .stopped }
    else
      ((e.note [.flushBeforeShutdown batch.size]).measure (·.countFlush .shutdown)).flush batch true

/-- The flusher has noticed shutdown and flushes what is left. -/
def quitFlusher (e : Engine) : Option Engine :=
  match e.flusher with
  | .waiting _ =>
    if e.shutdown then
      let (debouncer, rest) := e.debouncer.takeRest env.config e.now
      some (flushRest { e with debouncer } rest)
    else none
  | _ => none

def filteredNotice (s : Scan) : Notice := .filtered s.target.key s.key

def launch (e : Engine) : Option Engine :=
  match e.flusher with
  | .asking batch final =>
    match e.receive? .flusher with
    | some (.targets targets, e) =>
      let flight := Flight.start targets batch
      let noted := (e.note ((Scan.refused targets batch).map filteredNotice)).measure fun m =>
        { m with filtered := m.filtered + flight.filtered }
      some { noted with flusher := .scanning flight final }
    | _ => none
  | _ => none

def beginScan (e : Engine) : Option Engine :=
  match e.flusher with
  | .scanning flight final =>
    match flight.begin? env.config.limit (env.transport.respond e.now) e.now with
    | some (scan, flight) =>
      some { e with
        flusher := .scanning flight final
        journal := { e.journal with begun := e.journal.begun ++ [(e.now, scan)] } }
    | none => none
  | _ => none

def scanNotice (r : Flight.Running) : Notice :=
  match r.error with
  | none => .scanned r.scan.target.key r.scan.key
  | some error => .scanFailed r.scan.target.key r.scan.key error

def finishScan (place : Nat) (e : Engine) : Option Engine :=
  match e.flusher with
  | .scanning flight final =>
    match flight.finish? e.now place with
    | some (running, flight) =>
      some { (e.note [scanNotice running]).measure (·.countScan running.error.isNone) with
        flusher := .scanning flight final }
    | none => none
  | _ => none

def land (e : Engine) : Option Engine :=
  match e.flusher with
  | .scanning flight final =>
    if flight.isOver then
      let notice :=
        .flushed flight.resources flight.targets flight.scanned flight.failed flight.filtered
      some { e.note [notice] with flusher := if final then .stopped else .looping }
    else none
  | _ => none

/-! ### Watches -/

def startWatch (id : String) (kind : Kind) (watched : List Kind) (e : Engine) : Option Engine :=
  if e.held && !e.watches.contains id then
    some { e with watches := e.watches.insert id { observer := { kind, watched } } }
  else none

/-- The object of a watch has changed: unless its owner stands for it, the targets are asked for,
since without any there is nothing to scan for. -/
def observe (id : String) (w : Watch) (object : Cluster.Object) (e : Engine) : Engine :=
  if w.observer.isRedundant object then
    e.note [.ownedByWatched w.observer.kind object.nameOrStem]
  else
    ask (.observer id) .snapshot
      { e with watches := e.watches.insert id { w with phase := .asking object } }

def watchEvent (id : String) (event : Cluster.Event Cluster.Object) (e : Engine) : Option Engine :=
  match e.watches.get? id with
  | some w =>
    if w.phase = .ready then
      let next := { w with observer := w.observer.afterEvent event }
      let e := { e with watches := e.watches.insert id next }
      match w.observer.changed? event with
      | some object => some (observe id next object e)
      | none => some e
    else none
  | none => none

/-- The change of an object is noted, if there is a target and the object has a key. -/
def recordObject (config : Config) (kind : Kind) (object : Cluster.Object)
    (targets : List Target) (e : Engine) : Engine :=
  if targets.isEmpty then e
  else
    match object.key? kind with
    | some key => (e.note [.changed key]).record config key object.revision
    | none => e

def resumeWatch (id : String) (e : Engine) : Option Engine :=
  match e.watches.get? id with
  | some w =>
    match w.phase with
    | .asking object =>
      match e.receive? (.observer id) with
      | some (.targets targets, e) =>
        let e := { e with watches := e.watches.insert id { w with phase := .ready } }
        some (recordObject env.config w.observer.kind object targets e)
      | _ => none
    | _ => none
  | none => none

def stopWatch (id : String) (notice : Kind → Notice) (e : Engine) : Option Engine :=
  match e.watches.get? id with
  | some w =>
    if w.phase = .ready then
      some { e.note [notice w.observer.kind] with
        watches := e.watches.insert id { w with phase := .stopped } }
    else none
  | none => none

def quitWatch (id : String) (e : Engine) : Option Engine :=
  if e.shutdown then stopWatch id .watchStopped e else none

/-! ### The reconciler -/

def startReconciler (e : Engine) : Option Engine :=
  if e.held && e.reconciling.isNone then some { e with reconciling := some (.ready {}) } else none

def afterMoves (r : Reconciler) (moves : List Reconciler.Move) : Reconciling :=
  if moves.isEmpty then .ready r else .moving r moves false

def integrationEvent (event : Cluster.Event Integration) (e : Engine) : Option Engine :=
  match e.reconciling with
  | some (.ready r) =>
    let (r, moves) := r.handle env.readToken event
    some { e with reconciling := some (afterMoves r moves) }
  | _ => none

def proceed (e : Engine) : Option Engine :=
  match e.reconciling with
  | some (.moving r (.note notice :: moves) _) =>
    some { e.note [notice] with reconciling := some (afterMoves r moves) }
  | some (.moving r (.request request :: moves) false) =>
    some (ask .reconciler request
      { e with reconciling := some (.moving r (.request request :: moves) true) })
  | some (.moving r (.request _ :: moves) true) =>
    match e.receive? .reconciler with
    | some (_, e) => some { e with reconciling := some (afterMoves r moves) }
    | none => none
  | _ => none

def stopReconciler (notice : Notice) (e : Engine) : Option Engine :=
  match e.reconciling with
  | some (.ready _) => some { e.note [notice] with reconciling := some .stopped }
  | _ => none

def quitReconciler (e : Engine) : Option Engine :=
  if e.shutdown then stopReconciler .integrationsStopped e else none

/-! ### Users -/

def request (number : Nat) (request : Registry.Request) (e : Engine) : Option Engine :=
  if e.held then some (ask (.user number) request e) else none

def collect (number : Nat) (e : Engine) : Option Engine :=
  (e.receive? (.user number)).map Prod.snd

def change (key : Resource.Key) (revision : Resource.Revision) (e : Engine) : Option Engine :=
  if e.held then some (e.record env.config key revision) else none

def sendSignal (e : Engine) : Option Engine :=
  if e.unsignalled = 0 then none
  else some { e with unsignalled := e.unsignalled - 1, signal := true }

def step : Action → Engine → Option Engine
  | .tick nanos, e => some { e with now := e.now + nanos }
  | .request n r, e => request n r e
  | .collect n, e => collect n e
  | .change key revision, e => change env key revision e
  | .startWatch id kind watched, e => startWatch id kind watched e
  | .watchEvent id event, e => watchEvent id event e
  | .endWatch id, e => stopWatch id .watchEnded e
  | .startReconciler, e => startReconciler e
  | .integrationEvent event, e => integrationEvent env event e
  | .endIntegrations, e => stopReconciler .integrationsEnded e
  | .shutdown, e => some { e with shutdown := true }
  | .release, e => some { e with held := false }
  | .signal, e => sendSignal e
  | .serve, e => serve env e
  | .drain, e => drain e
  | .stopService, e => stopService e
  | .arm, e => arm e
  | .wake, e => wake e
  | .fire, e => fire env e
  | .quitFlusher, e => quitFlusher env e
  | .launch, e => launch e
  | .beginScan, e => beginScan env e
  | .finishScan place, e => finishScan place e
  | .land, e => land e
  | .resumeWatch id, e => resumeWatch env id e
  | .quitWatch id, e => quitWatch id e
  | .proceed, e => proceed e
  | .quitReconciler, e => quitReconciler e

def run : List Action → Engine → Option Engine
  | [], e => some e
  | a :: rest, e => (step env a e).bind (run rest)

end WorkloadScan.Engine
