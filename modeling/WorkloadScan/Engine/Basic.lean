import WorkloadScan.Flight
import WorkloadScan.Integration.Reconciler
import WorkloadScan.Observer

/-! The engine's state: the registry with its queue of requests, the debouncer with the task that
flushes it, the watches, and a journal of what has happened. -/
namespace WorkloadScan

structure Engine.Env where
  config : Config
  transport : Transport
  readToken : Reconciler.TokenReader

inductive Engine.Caller where
  | user (number : Nat)
  | flusher
  | observer (id : String)
  | reconciler
  deriving DecidableEq, Repr

/-- The task that serves the registry's requests. Once shutdown has been noticed it drains: it
serves those that may still have requests until none is left. -/
inductive Engine.Service where
  | serving | draining | stopped
  deriving DecidableEq, Repr, Inhabited

inductive Engine.Flusher where
  /-- About to read the deadline. -/
  | looping
  /-- Waiting for a signal, for shutdown, or for an instant. -/
  | waiting (armed : Option Instant)
  /-- Waiting for the targets to which a batch goes. -/
  | asking (batch : Batch) (final : Bool)
  | scanning (flight : Flight) (final : Bool)
  | stopped
  deriving Inhabited

inductive Engine.Watch.Phase where
  | ready
  /-- Waiting for the targets, with an object that has changed. -/
  | asking (object : Cluster.Object)
  | stopped
  deriving DecidableEq, Repr

structure Engine.Watch where
  observer : Observer
  phase : Watch.Phase := .ready
  deriving DecidableEq, Repr

inductive Engine.Reconciling where
  | ready (reconciler : Reconciler)
  /-- Some moves are left; `asked` is whether the first one's request has been made. -/
  | moving (reconciler : Reconciler) (moves : List Reconciler.Move) (asked : Bool)
  | stopped
  deriving DecidableEq, Repr, Inhabited

structure Engine.Journal where
  metrics : Metrics := {}
  notices : List Notice := []
  built : List (Client × Bool) := []
  begun : List (Instant × Scan) := []
  deriving Inhabited

structure Engine where
  now : Instant := 0
  shutdown : Bool := false
  /-- Whether users still have the registry and the debouncer. -/
  held : Bool := true
  service : Engine.Service := .serving
  registry : Registry := .empty
  requests : List (Engine.Caller × Registry.Request) := []
  replies : List (Engine.Caller × Registry.Reply) := []
  debouncer : Debouncer := {}
  /-- Whether a signal to the flusher is stored. -/
  signal : Bool := false
  /-- How many changes have been noted but not signalled yet. -/
  unsignalled : Nat := 0
  flusher : Engine.Flusher := .looping
  watches : Table String Engine.Watch := .empty
  reconciling : Option Engine.Reconciling := none
  journal : Engine.Journal := {}
  deriving Inhabited

namespace Engine

def Flusher.isAlive : Flusher → Bool
  | .stopped => false
  | _ => true

def Watch.isAlive (w : Watch) : Bool := w.phase ≠ .stopped

def Reconciling.isAlive : Reconciling → Bool
  | .stopped => false
  | _ => true

/-- Somebody may still have requests to the registry. -/
def hasHandles (e : Engine) : Bool :=
  e.held || e.flusher.isAlive || e.watches.values.any Watch.isAlive
    || e.reconciling.any Reconciling.isAlive

def isDrained (e : Engine) : Bool :=
  e.service = .stopped && !e.flusher.isAlive && !e.watches.values.any Watch.isAlive
    && !e.reconciling.any Reconciling.isAlive

def note (notices : List Notice) (e : Engine) : Engine :=
  { e with journal := { e.journal with notices := e.journal.notices ++ notices } }

def measure (f : Metrics → Metrics) (e : Engine) : Engine :=
  { e with journal := { e.journal with metrics := f e.journal.metrics } }

/-- Sends a request. If there is no registry any more, the reply is there at once. -/
def ask (caller : Caller) (request : Registry.Request) (e : Engine) : Engine :=
  if e.service = .stopped then
    { e.note (Registry.droppedNotices request) with
      replies := e.replies ++ [(caller, Registry.emptyReply request)] }
  else { e with requests := e.requests ++ [(caller, request)] }

def takeReply (caller : Caller) :
    List (Caller × Registry.Reply) → Option (Registry.Reply × List (Caller × Registry.Reply))
  | [] => none
  | (c, reply) :: rest =>
    if c = caller then some (reply, rest)
    else (takeReply caller rest).map fun (found, rest) => (found, (c, reply) :: rest)

def receive? (caller : Caller) (e : Engine) : Option (Registry.Reply × Engine) :=
  (takeReply caller e.replies).map fun (reply, replies) => (reply, { e with replies })

/-- Notes a change. The signal to the flusher comes later. -/
def record (config : Config) (key : Resource.Key) (revision : Resource.Revision) (e : Engine) :
    Engine :=
  let debouncer := e.debouncer.add config e.now key revision
  { e.measure ({ · with pending := debouncer.pending.size }) with
    debouncer, unsignalled := e.unsignalled + 1 }

end Engine
end WorkloadScan
