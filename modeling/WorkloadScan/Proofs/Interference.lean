import WorkloadScan.Session
import WorkloadScan.Proofs.Engine.Mirroring
import WorkloadScan.Proofs.Engine.Tokens

/-! Tokens do not interfere with anything that can be seen: with other tokens a run goes through the
same steps, and a session settles in the same way. -/
namespace WorkloadScan

/-! ### Orderly runs -/

namespace Engine
open Reconciler (TokenReader)
variable {env : Env} (e : Engine)

/-- A step of a run without tokens, which tells only which tokens can be read. -/
def bareStep (x : TokenReader × Action) : TokenReader × Action := (TokenReader.bare x.1,x.2.bare)

theorem runReading_bare (h : env.transport.IsTokenBlind) (actions : List (TokenReader × Action)) :
    runReading env (actions.map bareStep) e.bare = (runReading env actions e).map bare := by
  induction actions generalizing e with
  | nil => rfl
  | cons x rest ih =>
    obtain ⟨read, a⟩ := x
    have hstep : step (env.reading (TokenReader.bare read)) a.bare e.bare =
        (step (env.reading read) a e).map bare := @step_bare (env.reading read) e h a
    simp only [List.map_cons, bareStep, runReading, hstep]
    cases step (env.reading read) a e with
    | none => rfl
    | some next => exact ih next

theorem overdue_bare : overdue e.bare = overdue e := by
  cases hflusher : e.flusher with
  | scanning flight final =>
    simp only [overdue, bare_flusher, hflusher, Flusher.bare, Flight.bare, List.findIdx?_map]
    rfl
  | looping | waiting | asking | stopped => simp [overdue, hflusher, Flusher.bare]

theorem urgent_bare : (urgent e).map Action.bare = urgent e.bare := by
  have hoverdue : (overdue e).map Action.bare = overdue e := by
    unfold overdue
    split
    · rename_i flight _ _
      cases flight.running.findIdx? (·.finish ≤ e.now) <;> rfl
    · rfl
  have hwatch (id : String) : (watchActions id).map Action.bare = watchActions id := rfl
  simp [urgent, overdue_bare, hoverdue, hwatch, Action.bare, List.map_flatMap]

theorem settleStep_bare (h : env.transport.IsTokenBlind) :
    settleStep env.bare e.bare = (settleStep env e).map bare := by
  -- The same steps are tried in the same order, and so the first one that can be made is the same.
  have hsteps : (fun a => step env.bare (Action.bare a) e.bare) =
      Option.map bare ∘ fun a => step env a e := funext fun a => step_bare e h a
  rw [settleStep, ← urgent_bare, List.findSome?_map, Function.comp_def, hsteps, settleStep,
    List.map_findSome?]

theorem settleIn_bare (h : env.transport.IsTokenBlind) (n : Nat) :
    settleIn env.bare n e.bare = (settleIn env n e).bare := by
  induction n generalizing e with
  | zero => rfl
  | succ n ih =>
    simp only [settleIn, settleStep_bare e h]
    cases settleStep env e with
    | none => rfl
    | some next => exact ih next

theorem repliedTargets_bare : repliedTargets e.bare = repliedTargets e := by
  simp only [repliedTargets, bare_replies, List.foldl_map]
  congr 1
  funext n entry
  obtain ⟨caller, reply⟩ := entry
  cases reply <;> simp [bareReply, Registry.Reply.bare]

theorem stepsAhead_bare : stepsAhead e.bare = stepsAhead e := by
  have hmoves : movesAhead e.bare = movesAhead e := by
    cases hreconciling : e.reconciling with
    | none => simp [movesAhead, hreconciling]
    | some r => cases r <;> simp [movesAhead, hreconciling, Reconciling.bare]
  have htargets : targetsAhead e.bare = targetsAhead e := by
    simp [targetsAhead, hmoves, repliedTargets_bare, Registry.bare]
  have hchanges : changesAhead e.bare = changesAhead e := by
    cases hflusher : e.flusher <;> simp [changesAhead, hflusher, Flusher.bare]
  have hscans : scansUnderWay e.bare = scansUnderWay e := by
    cases hflusher : e.flusher <;> simp [scansUnderWay, hflusher, Flusher.bare, Flight.bare]
  simp [stepsAhead, htargets, hchanges, hscans]

theorem settle_bare (h : env.transport.IsTokenBlind) :
    settle env.bare e.bare = (settle env e).bare := by
  rw [settle, stepsAhead_bare, settleIn_bare e h, settle]

theorem nextTimer_bare : nextTimer e.bare = nextTimer e := by
  cases hflusher : e.flusher <;>
    simp [nextTimer, hflusher, Flusher.bare, Flight.bare, Function.comp_def, Flight.Running.bare]

theorem arrive_bare (h : env.transport.IsTokenBlind) (instant : Nat) :
    arrive env.bare instant e.bare = (arrive env instant e).bare :=
  settle_bare { e with now := instant } h

theorem advanceFrom_bare (h : env.transport.IsTokenBlind) (clock goal : Nat) :
    advanceFrom env.bare clock goal e.bare = (advanceFrom env clock goal e).bare := by
  fun_induction advanceFrom env clock goal e with
  | case1 clock e hnone =>
    rw [advanceFrom, nextTimer_bare, hnone]
    exact arrive_bare e h goal
  | case2 clock e timer hsome hdue ih =>
    rw [advanceFrom, nextTimer_bare, hsome]
    simp only [hdue, and_self, dite_true, arrive_bare e h, ih]
  | case3 clock e timer hsome hdue =>
    rw [advanceFrom, nextTimer_bare, hsome]
    simp only [hdue, dite_false, arrive_bare e h]

theorem advance_bare (h : env.transport.IsTokenBlind) (nanos : Nat) :
    advance env.bare nanos e.bare = (advance env nanos e).bare :=
  advanceFrom_bare e h e.now (e.now + nanos)

end Engine

/-! ### Sessions -/

namespace Session
open Engine (Action)

def Setup.bare (setup : Setup) : Setup := { setup with env := setup.env.bare }

def Step.bare : Step → Step
  | .requests qs => .requests (qs.map Registry.Request.bare)
  | x => x

def Answer.bare : Answer → Answer
  | .replies rs => .replies (rs.map Registry.Reply.bare)
  | x => x

def bare (s : Session) : Session := { s with setup := s.setup.bare, engine := s.engine.bare }

/-- The session goes on in the same way whatever the tokens are. -/
def IsTokenBlind (s : Session) : Prop := s.setup.env.transport.IsTokenBlind

/-! What a session is set up with stays as it was. -/

@[simp] theorem setup_perform (s : Session) (a : Action) : (s.perform a).setup = s.setup := by
  unfold perform attempt
  cases Engine.step s.setup.env a s.engine <;> rfl

@[simp] theorem setup_settle (s : Session) : s.settle.setup = s.setup := rfl

theorem setup_makeRequests (s : Session) (requests : List Registry.Request) :
    (s.makeRequests requests).setup = s.setup := by
  simp only [makeRequests, setup_settle]
  induction requests generalizing s with
  | nil => rfl
  | cons q rest ih => rw [List.foldl_cons, ih, setup_perform]

theorem setup_collect (s : Session) (n : Nat) (requests : List Registry.Request) :
    (collect s n requests).2.setup = s.setup := by
  induction requests generalizing s n with
  | nil => rfl
  | cons q rest ih =>
    simp only [collect]
    split <;> simp [ih]

theorem setup_changes (s : Session) (changes : List (Resource.Key × Resource.Revision)) :
    (changes.foldl (fun s (key, revision) => s.perform (.change key revision)) s).setup =
      s.setup := by
  induction changes generalizing s with
  | nil => rfl
  | cons c rest ih => rw [List.foldl_cons, ih, setup_perform]

theorem setup_offer (s : Session) (a : Action) : (s.offer a).2.setup = s.setup := by
  unfold offer attempt
  cases Engine.step s.setup.env a s.engine <;> rfl

theorem setup_offerAll (s : Session) (events : List (Except Json.DecodeError Action)) :
    (s.offerAll events).2.setup = s.setup := by
  induction events generalizing s with
  | nil => rfl
  | cons event rest ih =>
    cases event with
    | error error => simp [offerAll, ih]
    | ok a => simp [offerAll, ih, setup_offer]

theorem setup_step (s : Session) (x : Step) : (s.step x).2.setup = s.setup := by
  cases x with
  | requests qs => simp [step, setup_collect, setup_makeRequests]
  | changes changes => simp [step, setup_changes]
  | startWatch id kind watched => simp [step, startWatch]
  | startReconciler => simp [step, startReconciler]
  | watchEvents id events => simp [step, setup_offerAll]
  | integrationEvents events => simp [step, setup_offerAll]
  | advance | endWatch | endIntegrations | shutdown | release | look => simp [step]

section Blind
variable {s : Session} (h : s.IsTokenBlind)
include h

theorem IsTokenBlind.of_setup {next : Session} (hsetup : next.setup = s.setup) :
    next.IsTokenBlind := by
  rwa [IsTokenBlind, hsetup]

theorem attempt_bare (a : Action) : s.bare.attempt a.bare = (s.attempt a).map bare := by
  have hstep : Engine.step s.bare.setup.env a.bare s.bare.engine = _ :=
    Engine.step_bare s.engine h a
  simp only [attempt, hstep, Option.map_map]
  rfl

theorem perform_bare (a : Action) : s.bare.perform a.bare = (s.perform a).bare := by
  simp only [perform, attempt_bare h]
  cases s.attempt a <;> rfl

theorem settle_bare : s.bare.settle = s.settle.bare := by
  have hsettle : s.bare.engine.settle s.bare.setup.env = (s.engine.settle s.setup.env).bare :=
    Engine.settle_bare s.engine h
  simp only [settle, hsettle]
  rfl

theorem settle_perform_bare (a : Action) :
    (s.bare.perform a.bare).settle = (s.perform a).settle.bare := by
  rw [perform_bare h, settle_bare (h.of_setup (setup_perform s a))]

theorem makeRequests_bare (requests : List Registry.Request) :
    s.bare.makeRequests (requests.map Registry.Request.bare) = (s.makeRequests requests).bare := by
  unfold makeRequests
  induction requests generalizing s with
  | nil => exact settle_bare h
  | cons q rest ih =>
    have hperform : s.bare.perform (.request s.bare.next q.bare) =
        (s.perform (.request s.next q)).bare := perform_bare h (.request s.next q)
    have hnext :
        ({ s.perform (.request s.next q) with next := s.next + 1 } : Session).IsTokenBlind :=
      h.of_setup (setup_perform s _)
    rw [List.map_cons, List.foldl_cons, List.foldl_cons, hperform]
    exact ih hnext

theorem changes_bare (changes : List (Resource.Key × Resource.Revision)) :
    changes.foldl (fun s (key, revision) => s.perform (.change key revision)) s.bare =
      (changes.foldl (fun s (key, revision) => s.perform (.change key revision)) s).bare := by
  induction changes generalizing s with
  | nil => rfl
  | cons c rest ih =>
    obtain ⟨key, revision⟩ := c
    have hperform : s.bare.perform (.change key revision) =
        (s.perform (.change key revision)).bare :=
      perform_bare h (.change key revision)
    simp only [List.foldl_cons, hperform]
    exact ih (h.of_setup (setup_perform s _))

theorem offer_bare (a : Action) : s.bare.offer a.bare = Prod.map id bare (s.offer a) := by
  have hsetup := setup_offer s a
  simp only [offer, attempt_bare h] at hsetup ⊢
  cases hattempt : s.attempt a with
  | none => rfl
  | some next =>
    rw [hattempt] at hsetup
    exact congrArg (Prod.mk _) (settle_bare (h.of_setup hsetup))

theorem offerAll_bare (events : List (Except Json.DecodeError Action))
    (hbare : ∀ a, Except.ok a ∈ events → a.bare = a) :
    s.bare.offerAll events = Prod.map id bare (s.offerAll events) := by
  induction events generalizing s with
  | nil => rfl
  | cons event rest ih =>
    have hrest : ∀ a, Except.ok a ∈ rest → a.bare = a := fun a ha => hbare a (.tail _ ha)
    cases event with
    | error error => simp [offerAll, ih h hrest]
    | ok a =>
      have hoffer := offer_bare h a
      rw [hbare a (.head _)] at hoffer
      simp [offerAll, hoffer, ih (h.of_setup (setup_offer s a)) hrest]

end Blind

theorem collect_bare (s : Session) (n : Nat) (requests : List Registry.Request) :
    collect s.bare n (requests.map Registry.Request.bare) =
      Prod.map (List.map Registry.Reply.bare) bare (collect s n requests) := by
  induction requests generalizing s n with
  | nil => rfl
  | cons q rest ih =>
    have hreceive : s.bare.engine.receive? (.user n) = _ := Engine.receive?_bare s.engine (.user n)
    simp only [List.map_cons, collect, hreceive]
    cases s.engine.receive? (.user n) with
    | none => simp [ih, Registry.emptyReply_bare]
    | some found =>
      obtain ⟨reply, engine⟩ := found
      have hnext := ih { s with engine } (n + 1)
      simp only [bare] at hnext
      simp [bare, hnext]

theorem reconcilerEnded_bare (s : Session) : s.bare.reconcilerEnded = s.reconcilerEnded := by
  cases hreconciling : s.engine.reconciling with
  | none => simp [reconcilerEnded, bare, hreconciling]
  | some r => cases r <;> simp [reconcilerEnded, bare, hreconciling] <;> rfl

section Blind
variable {s : Session} (h : s.IsTokenBlind)
include h

theorem startWatch_bare (id : String) (kind : Kind) (watched : List Kind) :
    s.bare.startWatch id kind watched = (s.startWatch id kind watched).bare := by
  have hend : (s.bare.perform (.endWatch id)).settle = (s.perform (.endWatch id)).settle.bare :=
    settle_perform_bare h (.endWatch id)
  simp only [startWatch, hend]
  exact settle_perform_bare
    (s := { (s.perform (.endWatch id)).settle with
      engine := { (s.perform (.endWatch id)).settle.engine with
        watches := (s.perform (.endWatch id)).settle.engine.watches.erase id } })
    (h.of_setup (setup_perform s _)) (.startWatch id kind watched)

theorem startReconciler_bare : s.bare.startReconciler = s.startReconciler.bare := by
  have hend : (s.bare.perform .endIntegrations).settle = (s.perform .endIntegrations).settle.bare :=
    settle_perform_bare h .endIntegrations
  simp only [startReconciler, hend]
  exact settle_perform_bare
    (s := { (s.perform .endIntegrations).settle with
      engine := { (s.perform .endIntegrations).settle.engine with reconciling := none } })
    (h.of_setup (setup_perform s _)) .startReconciler

theorem step_bare (x : Step) : s.bare.step x.bare = Prod.map Answer.bare bare (s.step x) := by
  have hends (a : Action) (ha : a.bare = a) :
      (s.bare.perform a).settle = (s.perform a).settle.bare := by
    have hperform := settle_perform_bare h a
    rwa [ha] at hperform
  cases x with
  | advance nanos =>
    exact congrArg (fun engine => (Answer.none,({ s.bare with engine } : Session)))
      (Engine.advance_bare s.engine h _)
  | requests qs =>
    have hnext : s.bare.next = s.next := rfl
    simp [step, Step.bare, makeRequests_bare h, hnext, collect_bare, Answer.bare]
  | changes changes =>
    simp only [step, Step.bare, changes_bare h, settle_bare (h.of_setup (setup_changes s changes))]
    rfl
  | startWatch id kind watched =>
    simp only [step, Step.bare, startWatch_bare h]
    rfl
  | watchEvents id events =>
    have hoffer := offerAll_bare h (events.map fun event => .ok (.watchEvent id event)) (by
      intro a ha
      obtain ⟨event, -, rfl⟩ : ∃ event, event ∈ events ∧ _ = a := by simpa using ha
      rfl)
    simp only [step, Step.bare, hoffer]
    rfl
  | endWatch id =>
    simp only [step, Step.bare, hends (.endWatch id) rfl]
    rfl
  | startReconciler =>
    simp only [step, Step.bare, startReconciler_bare h]
    rfl
  | integrationEvents events =>
    have hoffer := offerAll_bare h (events.map (·.map .integrationEvent)) (by
      intro a ha
      obtain ⟨event, -, hevent⟩ := List.mem_map.mp ha
      cases event with
      | error => cases hevent
      | ok event =>
        cases hevent
        rfl)
    simp only [step, Step.bare, hoffer]
    rfl
  | endIntegrations =>
    simp only [step, Step.bare, hends .endIntegrations rfl, reconcilerEnded_bare]
    rfl
  | shutdown => exact congrArg (Prod.mk Answer.none) (hends .shutdown rfl)
  | release => exact congrArg (Prod.mk Answer.none) (hends .release rfl)
  | look => rfl

end Blind

theorem start_bare {setup : Setup} (h : setup.env.transport.IsTokenBlind) :
    start setup.bare = (start setup).bare := by
  have hsettle (service : Engine.Service) (flusher : Engine.Flusher)
      (hbare : flusher.bare = flusher) :
      Engine.settle setup.env.bare { service, flusher } =
        (Engine.settle setup.env { service, flusher }).bare := by
    have hfresh : Engine.bare { service, flusher } = { service, flusher } := by
      unfold Engine.bare
      rw [hbare]
      rfl
    rw [← Engine.settle_bare _ h, hfresh]
  have hflusher : (if setup.hasFlusher then Engine.Flusher.looping else .stopped).bare =
      if setup.hasFlusher then .looping else .stopped := by
    cases setup.hasFlusher <;> rfl
  exact congrArg (fun engine => (⟨setup.bare, engine, 0⟩ : Session)) (hsettle _ _ hflusher)

def after (s : Session) (steps : List Step) : Session := steps.foldl (fun s x => (s.step x).2) s

theorem after_bare {s : Session} (h : s.IsTokenBlind) (steps : List Step) :
    s.bare.after (steps.map Step.bare) = (s.after steps).bare := by
  induction steps generalizing s with
  | nil => rfl
  | cons x rest ih =>
    have hnext := ih (h.of_setup (setup_step s x))
    simp only [after, List.map_cons, List.foldl_cons, step_bare h] at hnext ⊢
    exact hnext

end Session

/-! ### Two runs -/

namespace Engine
open Reconciler (TokenReader)
variable {env : Env} {e e' : Engine}

/-- The same targets are registered but for their tokens, the same changes are pending, the same
scans have begun at the same times, and the same has been counted and noticed. -/
structure Agrees (e e' : Engine) : Prop where
  registry : Registry.bare e.registry = Registry.bare e'.registry
  pending : e.debouncer.pending = e'.debouncer.pending
  begun : e.journal.begun.map (fun entry => (entry.1,entry.2.bare)) =
    e'.journal.begun.map (fun entry => (entry.1,entry.2.bare))
  metrics : e.journal.metrics = e'.journal.metrics
  notices : e.journal.notices = e'.journal.notices

theorem agrees_of_bare (h : e.bare = e'.bare) : Agrees e e' where
  registry := congrArg registry h
  pending := congrArg (·.debouncer.pending) h
  begun := congrArg (·.journal.begun) h
  metrics := congrArg (·.journal.metrics) h
  notices := congrArg (·.journal.notices) h

theorem rel_agrees {run run' : Option Engine} (h : run.map bare = run'.map bare) :
    Option.Rel Agrees run run' := by
  cases run <;> cases run'
  · exact .none
  · cases h
  · cases h
  · exact .some (agrees_of_bare (Option.some.inj h))

end Engine

/-- Two sessions whose tokens differ agree after each step, and so do two runs of the engine whose
steps are taken in any one order and in which the tokens that are read change with time. The texts
of two specs that differ only in tokens that are not empty are the same. -/
theorem tokens_do_not_interfere {setup setup' : Session.Setup} (hsetup : setup.bare = setup'.bare)
    (h : setup.env.transport.IsTokenBlind) :
    (∀ steps steps' : List Session.Step,
      steps.map Session.Step.bare = steps'.map Session.Step.bare → ∀ n,
      Engine.Agrees ((Session.start setup).after (steps.take n)).engine
        ((Session.start setup').after (steps'.take n)).engine) ∧
    (∀ actions actions' : List (Reconciler.TokenReader × Engine.Action),
      actions.map Engine.bareStep = actions'.map Engine.bareStep → ∀ n, ∀ e e' : Engine,
      e.bare = e'.bare → Option.Rel Engine.Agrees
        (Engine.runReading setup.env (actions.take n) e)
        (Engine.runReading setup.env (actions'.take n) e')) ∧
    ∀ spec spec' : Target.Spec, spec.bare = spec'.bare → spec.token ≠ "" → spec'.token ≠ "" →
      spec.debug = spec'.debug ∧ spec.debugLines = spec'.debugLines := by
  have htransport : setup.env.transport = setup'.env.transport :=
    congrArg (·.env.transport) hsetup
  have h' : setup'.env.transport.IsTokenBlind := htransport ▸ h
  refine ⟨fun steps steps' hsteps n => ?_, fun actions actions' hactions n e e' he => ?_,
    fun _ _ => Target.Spec.debug_of_bare⟩
  · have htaken : (steps.take n).map Session.Step.bare = (steps'.take n).map Session.Step.bare := by
      rw [List.map_take, List.map_take, hsteps]
    have hstart (setup : Session.Setup) (h : setup.env.transport.IsTokenBlind)
        (steps : List Session.Step) :
        (Session.start setup.bare).after (steps.map Session.Step.bare) =
          ((Session.start setup).after steps).bare := by
      rw [Session.start_bare h, Session.after_bare (s := Session.start setup) h]
    have hsessions := hstart setup h (steps.take n)
    rw [hsetup, htaken, hstart setup' h'] at hsessions
    exact Engine.agrees_of_bare (congrArg Session.engine hsessions).symm
  · have htaken : (actions.take n).map Engine.bareStep = (actions'.take n).map Engine.bareStep := by
      rw [List.map_take, List.map_take, hactions]
    have hruns := Engine.runReading_bare e h (actions.take n)
    rw [htaken, he, Engine.runReading_bare e' h] at hruns
    exact Engine.rel_agrees hruns.symm

/-- The secret of an integration and the token of a tenant are replaced by others. Both targets are
scanned, with either pair of tokens. -/
theorem tokens_do_not_interfere_when_replaced :
    let integration : Integration :=
      ⟨{ name := "acme", ns := "tenants" }, true, "http://scan", "acme", some ⟨"scan", "token"⟩, [],
        []⟩
    let reading (token : String) : Reconciler.TokenReader := fun _ ref =>
      if ref.name = "scan" then .ok token else .error .unavailable
    let setup (token : String) : Session.Setup :=
      { env := { Engine.Env.calm { quiet := 5, discardFirst := false } with
          readToken := reading token } }
    let spec (token : String) : Target.Spec := ⟨"http://scan", token, "initech", [], []⟩
    let pod : Resource.Key := ⟨.pod, some "web", "a"⟩
    let steps (token : String) : List Session.Step := [.startReconciler,
      .integrationEvents [.ok (.applied integration)], .requests [.add "initech" (spec token)],
      .changes [(pod,⟨none, some "1"⟩)]]
    let actions (token : String) : List (Reconciler.TokenReader × Engine.Action) :=
      [.startReconciler, .integrationEvent (.applied integration), .proceed, .proceed, .serve,
        .proceed, .request 0 (.add "initech" (spec token)), .serve, .change pod ⟨none, some "1"⟩,
        .arm, .tick 5, .fire, .serve, .launch, .beginScan, .beginScan, .finishScan 0].map
          fun a => (reading token,a)
    let session (token : String) := (Session.start (setup token)).after (steps token)
    let sent (e : Engine) := e.journal.begun.map (·.2.target.client.token)
    Engine.Agrees (session "s3cr3t").engine (session "hunter2").engine ∧
    (session "s3cr3t").engine.registry.values.map (·.client.token) = ["s3cr3t", "s3cr3t"] ∧
    (session "hunter2").engine.registry.values.map (·.client.token) = ["hunter2", "hunter2"] ∧
    (∃ e e', Engine.runReading (setup "s3cr3t").env (actions "s3cr3t") {} = some e ∧
      Engine.runReading (setup "s3cr3t").env (actions "hunter2") {} = some e' ∧
      Engine.Agrees e e' ∧ sent e = ["s3cr3t", "s3cr3t"] ∧ sent e' = ["hunter2", "hunter2"]) ∧
    (spec "s3cr3t").debug = (spec "hunter2").debug := by
  intro integration reading setup spec pod steps actions session sent
  have hreading (token : String) : Reconciler.TokenReader.bare (reading token) =
      Reconciler.TokenReader.bare (reading "") := by
    funext ns ref
    simp only [Reconciler.TokenReader.bare, reading]
    split <;> rfl
  have hsetup (token : String) : (setup token).bare = (setup "").bare := by
    simp only [Session.Setup.bare, Engine.Env.bare, setup, hreading]
  have hblind (token : String) : (setup token).env.transport.IsTokenBlind :=
    ⟨fun _ _ _ => rfl, fun _ _ _ _ => rfl⟩
  have hactions : (actions "s3cr3t").map Engine.bareStep =
      (actions "hunter2").map Engine.bareStep := by
    simp only [actions, List.map_map, List.map_cons, Function.comp_def, Engine.bareStep, hreading]
    rfl
  obtain ⟨hsessions, hruns, hdebug⟩ := tokens_do_not_interfere
    ((hsetup "s3cr3t").trans (hsetup "hunter2").symm) (hblind "s3cr3t")
  refine ⟨hsessions (steps "s3cr3t") (steps "hunter2") rfl 4, by decide +kernel,
    by decide +kernel, ?_, (hdebug (spec "s3cr3t") (spec "hunter2") rfl (by decide) (by decide)).1⟩
  have hruns_sent : ∀ token ∈ ["s3cr3t", "hunter2"],
      (Engine.runReading (setup "s3cr3t").env (actions token) {}).map sent =
        some [token, token] := by
    decide +kernel
  obtain ⟨e, hrun, hsent⟩ := Option.map_eq_some_iff.mp (hruns_sent "s3cr3t" (by decide))
  obtain ⟨e', hrun', hsent'⟩ := Option.map_eq_some_iff.mp (hruns_sent "hunter2" (by decide))
  have hagree : Option.Rel Engine.Agrees
      (Engine.runReading (setup "s3cr3t").env (actions "s3cr3t") {})
      (Engine.runReading (setup "s3cr3t").env (actions "hunter2") {}) :=
    hruns (actions "s3cr3t") (actions "hunter2") hactions 17 {} {} rfl
  rw [hrun, hrun'] at hagree
  cases hagree with
  | some hagree => exact ⟨e, e', hrun, hrun', hagree, hsent, hsent'⟩

end WorkloadScan
