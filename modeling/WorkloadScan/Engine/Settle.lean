import WorkloadScan.Engine.Step

/-! One orderly run of the engine: all steps that need no more time are made before the clock
moves on. -/
namespace WorkloadScan.Engine

variable (env : Env)

def overdue (e : Engine) : List Action :=
  match e.flusher with
  | .scanning flight _ =>
    ((flight.running.findIdx? (·.finish ≤ e.now)).map Action.finishScan).toList
  | _ => []

def watchActions (id : String) : List Action := [.resumeWatch id, .quitWatch id]

/-- The steps that the tasks may make on their own, the more urgent first. -/
def urgent (e : Engine) : List Action :=
  [.signal, .serve, .launch] ++ overdue e ++ [.beginScan, .land, .wake, .fire, .arm, .quitFlusher]
    ++ e.watches.keys.flatMap watchActions ++ [.proceed, .quitReconciler, .drain, .stopService]

def settleStep (e : Engine) : Option Engine := (urgent e).findSome? fun a => step env a e

def settleIn : Nat → Engine → Engine
  | 0, e => e
  | n + 1, e =>
    match settleStep env e with
    | some next => settleIn n next
    | none => e

def movesAhead (e : Engine) : Nat :=
  match e.reconciling with
  | some (.moving _ moves _) => moves.length
  | _ => 0

def repliedTargets (e : Engine) : Nat :=
  e.replies.foldl
    (fun n (_, reply) => match reply with | .targets ts => n + ts.length | .done => n) 0

def targetsAhead (e : Engine) : Nat :=
  e.registry.size + e.requests.length + movesAhead e + repliedTargets e

def changesAhead (e : Engine) : Nat :=
  let asked := match e.flusher with | .asking batch _ => batch.size | _ => 0
  asked + e.debouncer.pending.size + e.watches.size

def scansUnderWay (e : Engine) : Nat :=
  match e.flusher with
  | .scanning flight _ => flight.waiting.length + flight.running.length
  | _ => 0

/-- A bound on the number of steps that need no more time. -/
def stepsAhead (e : Engine) : Nat :=
  64 + 4 * (scansUnderWay e + targetsAhead e * changesAhead e)
    + 16 * (targetsAhead e + changesAhead e + e.unsignalled)

/-- Makes steps until each of them would need more time. -/
def settle (e : Engine) : Engine := settleIn env (stepsAhead e) e

def nextTimer (e : Engine) : Option Instant :=
  match e.flusher with
  | .waiting armed => armed
  | .scanning flight _ => (flight.running.map (·.finish)).min?
  | _ => none

def arrive (instant : Nat) (e : Engine) : Engine := settle env { e with now := instant }

/-- Moves the clock on from a time at which the engine has settled. Every timer fires at its own
time. -/
def advanceFrom (clock goal : Nat) (e : Engine) : Engine :=
  match nextTimer e with
  | none => arrive env goal e
  | some (timer : Nat) =>
    if _h : clock < timer ∧ timer ≤ goal then advanceFrom timer goal (arrive env timer e)
    else arrive env goal e
termination_by goal - clock
decreasing_by omega

def advance (nanos : Nat) (e : Engine) : Engine := advanceFrom env e.now (e.now + nanos) e

end WorkloadScan.Engine
