import WorkloadScan.Engine.Settle

/-! Sessions: an engine that is driven step by step and reports after each step what has happened.
Between two steps it settles, and its clock moves only in steps that say so. -/
namespace WorkloadScan

structure Session.Setup where
  env : Engine.Env
  /-- Without a registry every request is dropped. -/
  hasRegistry : Bool := true
  /-- Without a flusher changes stay pending. -/
  hasFlusher : Bool := true

inductive Session.Step where
  | advance (nanos : Nat)
  | requests (requests : List Registry.Request)
  | changes (changes : List (Resource.Key × Resource.Revision))
  | startWatch (id : String) (kind : Kind) (watched : List Kind)
  | watchEvents (id : String) (events : List (Cluster.Event Cluster.Object))
  | endWatch (id : String)
  | startReconciler
  /-- An event with an integration that could not be decoded is not passed on. -/
  | integrationEvents (events : List (Except Json.DecodeError (Cluster.Event Integration)))
  | endIntegrations
  | shutdown
  | release
  | look

inductive Session.Acceptance where
  | accepted
  | refused
  | malformed (error : Json.DecodeError)

inductive Session.Answer where
  | none
  | replies (replies : List Registry.Reply)
  | acceptances (acceptances : List Acceptance)
  /-- Whether a task has ended. -/
  | ended (ended : Bool)

structure Session.Status where
  drain : Option Bool
  registry : Option Bool
  flusher : Option Bool
  reconciler : Option Bool
  watches : List (String × Bool)

structure Session where
  setup : Session.Setup
  engine : Engine
  /-- The number of the next request. -/
  next : Nat := 0

namespace Session

def start (setup : Setup) : Session :=
  let engine : Engine :=
    { service := if setup.hasRegistry then .serving else .stopped,
      flusher := if setup.hasFlusher then .looping else .stopped }
  { setup, engine := engine.settle setup.env }

def attempt (s : Session) (a : Engine.Action) : Option Session :=
  (Engine.step s.setup.env a s.engine).map fun engine => { s with engine }

def perform (s : Session) (a : Engine.Action) : Session := (s.attempt a).getD s

def settle (s : Session) : Session := { s with engine := s.engine.settle s.setup.env }

/-- All requests are made at once and served in order. -/
def makeRequests (requests : List Registry.Request) (s : Session) : Session :=
  (requests.foldl
    (fun s r => { s.perform (.request s.next r) with next := s.next + 1 }) s).settle

def collect (s : Session) : Nat → List Registry.Request → List Registry.Reply × Session
  | _, [] => ([], s)
  | n, request :: rest =>
    match s.engine.receive? (.user n) with
    | some (reply, engine) =>
      let (replies, s) := collect { s with engine } (n + 1) rest
      (reply :: replies, s)
    | none =>
      let (replies, s) := collect s (n + 1) rest
      (Registry.emptyReply request :: replies, s)

/-- Each event is worked off before the next one comes. -/
def offer (s : Session) (a : Engine.Action) : Acceptance × Session :=
  match s.attempt a with
  | some s => (.accepted, s.settle)
  | none => (.refused, s)

def offerAll (s : Session) : List (Except Json.DecodeError Engine.Action) →
    List Acceptance × Session
  | [] => ([], s)
  | .error e :: rest =>
    let (acceptances, s) := offerAll s rest
    (.malformed e :: acceptances, s)
  | .ok a :: rest =>
    let (acceptance, s) := offer s a
    let (acceptances, s) := offerAll s rest
    (acceptance :: acceptances, s)

def watchEnded (s : Session) (id : String) : Bool :=
  !(s.engine.watches.get? id).any Engine.Watch.isAlive

def reconcilerEnded (s : Session) : Bool :=
  !s.engine.reconciling.any Engine.Reconciling.isAlive

/-- A watch that starts under the name of another one ends that one. -/
def startWatch (id : String) (kind : Kind) (watched : List Kind) (s : Session) : Session :=
  let s := (s.perform (.endWatch id)).settle
  let engine := { s.engine with watches := s.engine.watches.erase id }
  ({ s with engine }.perform (.startWatch id kind watched)).settle

/-- A reconciler that starts ends the one before it, and knows nothing of what that one has
registered. -/
def startReconciler (s : Session) : Session :=
  let s := (s.perform .endIntegrations).settle
  let engine := { s.engine with reconciling := none }
  ({ s with engine }.perform .startReconciler).settle

/-- The clock moves on by thirty years of 365 days at most in one step. -/
def longestAdvance : Nat := 30 * 365 * 86400 * 1000000000

def step (s : Session) : Step → Answer × Session
  | .advance nanos =>
    (.none, { s with engine := s.engine.advance s.setup.env (min nanos longestAdvance) })
  | .requests requests =>
    let (replies, after) := collect (s.makeRequests requests) s.next requests
    (.replies replies, after)
  | .changes changes =>
    (.none, (changes.foldl (fun s (key, revision) => s.perform (.change key revision)) s).settle)
  | .startWatch id kind watched => (.none, s.startWatch id kind watched)
  | .watchEvents id events =>
    let (acceptances, s) := s.offerAll (events.map fun event => .ok (.watchEvent id event))
    (.acceptances acceptances, s)
  | .endWatch id =>
    let s := (s.perform (.endWatch id)).settle
    (.ended (s.watchEnded id), s)
  | .startReconciler => (.none, s.startReconciler)
  | .integrationEvents events =>
    let (acceptances, s) := s.offerAll (events.map (·.map .integrationEvent))
    (.acceptances acceptances, s)
  | .endIntegrations =>
    let s := (s.perform .endIntegrations).settle
    (.ended s.reconcilerEnded, s)
  | .shutdown => (.none, (s.perform .shutdown).settle)
  | .release => (.none, (s.perform .release).settle)
  | .look => (.none, s)

def status (s : Session) : Status :=
  let e := s.engine
  { drain := if e.shutdown then some e.isDrained else none
    registry := if s.setup.hasRegistry then some (e.service = .stopped) else none
    flusher := if s.setup.hasFlusher then some !e.flusher.isAlive else none
    reconciler := e.reconciling.map (!·.isAlive)
    watches := e.watches.entries.map fun (id, w) => (id, !w.isAlive) }

/-- What has happened since the journal was last taken, and the session with an empty one. The
metrics go on. -/
def takeJournal (s : Session) : Engine.Journal × Session :=
  let journal := s.engine.journal
  (journal, { s with engine := { s.engine with journal := { metrics := journal.metrics } } })

end Session
end WorkloadScan
