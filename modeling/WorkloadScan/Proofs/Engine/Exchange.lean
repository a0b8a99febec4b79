import WorkloadScan.Proofs.Engine.Frame
import WorkloadScan.Proofs.Engine.Path
import WorkloadScan.Proofs.Table

/-! What a step of the engine can do to the registry, its requests and its replies. -/
namespace WorkloadScan.Engine
variable {env : Env} {e next : Engine} {a : Action}

/-- The caller for whom an action asks the registry or takes a reply. -/
def Action.caller? : Action → Option Caller
  | .request n _ | .collect n => some (.user n)
  | .watchEvent id _ | .resumeWatch id => some (.observer id)
  | .fire | .quitFlusher | .launch => some .flusher
  | .proceed => some .reconciler
  | _ => none

def Flusher.asked? : Flusher → Option Batch
  | .asking batch _ => some batch
  | _ => none

def Watch.isAsking (w : Watch) : Bool :=
  match w.phase with
  | .asking _ => true
  | .ready | .stopped => false

/-- The call of the registry that a step makes. -/
def Stage.call? (s : Stage) : Option (Caller × Registry.Request) :=
  match s.action with
  | .request n q => some (.user n,q)
  | .watchEvent id _ =>
    if (s.after.watches.get? id).any Watch.isAsking then some (.observer id,.snapshot) else none
  | .fire | .quitFlusher =>
    if s.after.flusher.asked?.isSome then some (.flusher,.snapshot) else none
  | .proceed =>
    match s.before.reconciling with
    | some (.moving _ (.request q::_) false) => some (.reconciler,q)
    | _ => none
  | _ => none

def firstReply? (caller : Caller) (e : Engine) : Option (Caller × Registry.Reply) :=
  (takeReply caller e.replies).map fun found => (caller,found.1)

/-- The reply with which a call of the registry returns in a step. -/
def Stage.return? (s : Stage) : Option (Caller × Registry.Reply) :=
  match s.action with
  | .collect n => firstReply? (.user n) s.before
  | .resumeWatch id => firstReply? (.observer id) s.before
  | .launch => firstReply? .flusher s.before
  | .proceed =>
    match s.before.reconciling with
    | some (.moving _ (.request _::_) true) => firstReply? .reconciler s.before
    | _ => none
  | _ => none

/-- The call that the registry serves in a step. -/
def Stage.served? (s : Stage) : Option (Caller × Registry.Request) :=
  match s.action with
  | .serve => s.before.requests.head?
  | _ => none

/-- One constructor for each thing that a step can do to the registry and the calls of it. -/
inductive Exchange (transport : Transport) (e : Engine) (a : Action) (next : Engine) : Prop
  | none (call : Stage.call? ⟨e,a,next⟩ = .none) (served : Stage.served? ⟨e,a,next⟩ = .none)
      (returned : Stage.return? ⟨e,a,next⟩ = .none) (registry : next.registry = e.registry)
      (requests : next.requests = e.requests) (replies : next.replies = e.replies)
  | ask {caller : Caller} {q : Registry.Request} (call : Stage.call? ⟨e,a,next⟩ = some (caller,q))
      (served : Stage.served? ⟨e,a,next⟩ = .none) (returned : Stage.return? ⟨e,a,next⟩ = .none)
      (own : a.caller? = some caller)
      (query : q = .snapshot ∨ (∃ n, a = .request n q) ∨ a = .proceed) (handle : e.hasHandles = true)
      (registry : next.registry = e.registry) (requests : next.requests = (ask caller q e).requests)
      (replies : next.replies = (ask caller q e).replies)
  | serve {caller : Caller} {q : Registry.Request} {rest : List (Caller × Registry.Request)}
      (call : Stage.call? ⟨e,a,next⟩ = .none) (served : Stage.served? ⟨e,a,next⟩ = some (caller,q))
      (returned : Stage.return? ⟨e,a,next⟩ = .none) (running : e.service ≠ .stopped)
      (waiting : e.requests = (caller,q) :: rest)
      (registry : next.registry = e.registry.apply transport q) (requests : next.requests = rest)
      (replies : next.replies = e.replies ++ [(caller,e.registry.reply q)])
  | receive {caller : Caller} {reply : Registry.Reply} {rest : List (Caller × Registry.Reply)}
      (call : Stage.call? ⟨e,a,next⟩ = .none) (served : Stage.served? ⟨e,a,next⟩ = .none)
      (returned : Stage.return? ⟨e,a,next⟩ = some (caller,reply)) (own : a.caller? = some caller)
      (got : takeReply caller e.replies = some (reply,rest))
      (registry : next.registry = e.registry) (requests : next.requests = e.requests)
      (replies : next.replies = rest)

theorem takeReply_eq_some {caller : Caller} {reply : Registry.Reply}
    {replies rest : List (Caller × Registry.Reply)}
    (h : takeReply caller replies = some (reply,rest)) :
    ∃ before after, replies = before ++ (caller,reply) :: after ∧ rest = before ++ after ∧
      ∀ entry ∈ before, entry.1 ≠ caller := by
  induction replies generalizing reply rest with
  | nil => cases h
  | cons entry others ih =>
    obtain ⟨c, x⟩ := entry
    rw [takeReply] at h
    split at h
    case isTrue hc =>
      cases h
      subst hc
      exact ⟨[], others, rfl, rfl, by simp⟩
    case isFalse hc =>
      obtain ⟨⟨y, others'⟩, hrest, heq⟩ := Option.map_eq_some_iff.mp h
      cases heq
      obtain ⟨before, after, rfl, rfl, hbefore⟩ := ih hrest
      refine ⟨(c,x)::before, after, rfl, rfl, ?_⟩
      intro entry hentry
      rcases List.mem_cons.mp hentry with rfl | hentry
      · exact hc
      · exact hbefore entry hentry

theorem exists_takeReply {caller : Caller} {reply : Registry.Reply}
    {replies : List (Caller × Registry.Reply)} (h : (caller,reply) ∈ replies) :
    ∃ first rest, takeReply caller replies = some (first,rest) := by
  induction replies with
  | nil => cases h
  | cons entry others ih =>
    obtain ⟨c, x⟩ := entry
    by_cases hc : c = caller
    · exact ⟨x, others, by rw [takeReply, if_pos hc]⟩
    · have hmem : (caller,reply) ∈ others := by
        rcases List.mem_cons.mp h with heq | hmem
        · exact absurd (congrArg Prod.fst heq).symm hc
        · exact hmem
      obtain ⟨first, rest, hrest⟩ := ih hmem
      exact ⟨first, (c,x)::rest, by rw [takeReply, if_neg hc, hrest]; rfl⟩

def ofCaller {α : Type} (caller : Caller) (entries : List (Caller × α)) : List (Caller × α) :=
  entries.filter (·.1 = caller)

section OfCaller
variable {α : Type} {caller other : Caller}

@[simp] theorem ofCaller_nil : ofCaller caller ([] : List (Caller × α)) = [] := rfl

@[simp] theorem ofCaller_append (entries rest : List (Caller × α)) :
    ofCaller caller (entries ++ rest) = ofCaller caller entries ++ ofCaller caller rest :=
  List.filter_append ..

@[simp] theorem ofCaller_cons_self (x : α) (rest : List (Caller × α)) :
    ofCaller caller ((caller,x) :: rest) = (caller,x) :: ofCaller caller rest := by
  simp [ofCaller]

theorem ofCaller_cons_of_ne (h : other ≠ caller) (x : α) (rest : List (Caller × α)) :
    ofCaller caller ((other,x) :: rest) = ofCaller caller rest := by
  simp [ofCaller, h]

theorem ofCaller_eq_nil {entries : List (Caller × α)} (h : ∀ entry ∈ entries, entry.1 ≠ caller) :
    ofCaller caller entries = [] := by
  rw [ofCaller, List.filter_eq_nil_iff]
  intro entry hentry
  simpa using h entry hentry

theorem ofCaller_takeReply {reply : Registry.Reply} {replies rest : List (Caller × Registry.Reply)}
    (got : takeReply caller replies = some (reply,rest)) :
    ofCaller other replies = ofCaller other [(caller,reply)] ++ ofCaller other rest := by
  obtain ⟨before, after, rfl, rfl, hbefore⟩ := takeReply_eq_some got
  by_cases hc : caller = other
  · subst hc
    simp [ofCaller_eq_nil hbefore]
  · simp [ofCaller_cons_of_ne hc]

end OfCaller

/-! ### Those who may still have requests -/

theorem hasHandles_of_held (h : e.held = true) : e.hasHandles = true := by
  simp [hasHandles, h]

theorem hasHandles_of_flusher (h : e.flusher.isAlive = true) : e.hasHandles = true := by
  simp [hasHandles, h]

theorem hasHandles_of_reconciling {r : Reconciling} (h : e.reconciling = some r)
    (halive : r.isAlive = true) : e.hasHandles = true := by
  simp [hasHandles, h, halive]

theorem hasHandles_of_watch {id : String} {w : Watch} (h : e.watches.get? id = some w)
    (halive : w.isAlive = true) : e.hasHandles = true := by
  have hany : e.watches.values.any Watch.isAlive = true :=
    List.any_eq_true.mpr ⟨w, Table.mem_values_of_get? h, halive⟩
  simp [hasHandles, hany]

theorem hasHandles_transition (h : Transition env e a next) (hnone : e.hasHandles = false) :
    next.hasHandles = false := by
  have absurdly {P : Prop} (halive : e.hasHandles = true) : P := by
    rw [hnone] at halive
    cases halive
  cases h with
  | tick | collect | shutdown | signal | serve | drain | stopServing | stopDraining => exact hnone
  | release =>
    simp only [hasHandles, Bool.or_eq_false_iff] at hnone ⊢
    exact ⟨⟨⟨trivial, hnone.1.1.2⟩, hnone.1.2⟩, hnone.2⟩
  | request held | change held | startWatch held | startReconciler held =>
    exact absurdly (hasHandles_of_held held)
  | passOver found ready | leaveToOwner found ready | askForTargets found ready
  | endWatch found ready | quitWatch _ found ready =>
    exact absurdly (hasHandles_of_watch found (by simp [Watch.isAlive, ready]))
  | resumeWatch found asking =>
    exact absurdly (hasHandles_of_watch found (by simp [Watch.isAlive, asking]))
  | integrationEvent ready | endIntegrations ready | quitReconciler _ ready =>
    exact absurdly (hasHandles_of_reconciling ready rfl)
  | proceedNote moving | proceedAsk moving | proceedReceive moving =>
    exact absurdly (hasHandles_of_reconciling moving rfl)
  | arm looping => exact absurdly (hasHandles_of_flusher (by rw [looping]; rfl))
  | wake waiting | fire waiting | quitFlusher waiting =>
    exact absurdly (hasHandles_of_flusher (by rw [waiting]; rfl))
  | launch asking => exact absurdly (hasHandles_of_flusher (by rw [asking]; rfl))
  | beginScan scanning | finishScan scanning | land scanning =>
    exact absurdly (hasHandles_of_flusher (by rw [scanning]; rfl))

/-! ### Every step is one of these exchanges -/

theorem ask_requests_congr {e e' : Engine} (caller : Caller) (q : Registry.Request)
    (hservice : e.service = e'.service) (hrequests : e.requests = e'.requests) :
    (ask caller q e).requests = (ask caller q e').requests := by
  unfold ask
  rw [hservice]
  split
  · exact hrequests
  · simp [hrequests]

theorem ask_replies_congr {e e' : Engine} (caller : Caller) (q : Registry.Request)
    (hservice : e.service = e'.service) (hreplies : e.replies = e'.replies) :
    (ask caller q e).replies = (ask caller q e').replies := by
  unfold ask
  rw [hservice]
  split
  · simp [hreplies]
  · exact hreplies

theorem exchange_of_transition (h : Transition env e a next) :
    Exchange env.transport e a next := by
  cases h with
  | request held =>
    exact .ask rfl rfl rfl rfl (.inr (.inl ⟨_, rfl⟩)) (hasHandles_of_held held) (ask_registry ..)
      rfl rfl
  | passOver found ready =>
    exact .none (by simp [Stage.call?, Watch.isAsking, ready]) rfl rfl rfl rfl rfl
  | leaveToOwner found ready =>
    exact .none (by simp [Stage.call?, Watch.isAsking, ready, note]) rfl rfl rfl rfl rfl
  | askForTargets found ready =>
    exact .ask (by simp [Stage.call?, Watch.isAsking]) rfl rfl rfl (.inl rfl)
      (hasHandles_of_watch found (by simp [Watch.isAlive, ready])) (ask_registry ..)
      (ask_requests_congr _ _ rfl rfl) (ask_replies_congr _ _ rfl rfl)
  | proceedNote moving =>
    exact .none (by simp [Stage.call?, moving]) rfl (by simp [Stage.return?, moving])
      rfl rfl rfl
  | proceedAsk moving =>
    exact .ask (by simp [Stage.call?, moving]) rfl (by simp [Stage.return?, moving]) rfl
      (.inr (.inr rfl)) (hasHandles_of_reconciling moving rfl) (ask_registry ..)
      (ask_requests_congr _ _ rfl rfl) (ask_replies_congr _ _ rfl rfl)
  | proceedReceive moving got =>
    exact .receive (by simp [Stage.call?, moving]) rfl
      (by simp [Stage.return?, moving, firstReply?, got]) rfl got rfl rfl rfl
  | fire waiting due =>
    have hhandle : e.hasHandles = true := hasHandles_of_flusher (by rw [waiting]; rfl)
    cases hp : (e.debouncer.poll env.config e.now).2 with
    | ready batch =>
      exact .ask (by simp [Stage.call?, firePoll, flush, Flusher.asked?]) rfl rfl rfl (.inl rfl)
        hhandle (ask_registry ..) (ask_requests_congr _ _ rfl rfl) (ask_replies_congr _ _ rfl rfl)
    | idle | discarded | postponed =>
      exact .none (by simp [Stage.call?, firePoll, Flusher.asked?]) rfl rfl rfl rfl rfl
  | quitFlusher waiting shutdown =>
    have hhandle : e.hasHandles = true := hasHandles_of_flusher (by rw [waiting]; rfl)
    cases hr : (e.debouncer.takeRest env.config e.now).2 with
    | discarded batch =>
      exact .none (by simp [Stage.call?, flushRest, Flusher.asked?]) rfl rfl rfl rfl rfl
    | ready batch =>
      by_cases hempty : batch.isEmpty = true
      · simp only [flushRest, hempty, if_true]
        exact .none (by simp [Stage.call?, Flusher.asked?]) rfl rfl rfl rfl rfl
      · simp only [flushRest, hempty]
        exact .ask (by simp [Stage.call?, flush, Flusher.asked?]) rfl rfl rfl (.inl rfl)
          hhandle (ask_registry ..) (ask_requests_congr _ _ rfl rfl)
          (ask_replies_congr _ _ rfl rfl)
  | collect got =>
    exact .receive rfl rfl (by simp [Stage.return?, firstReply?, got]) rfl got rfl rfl rfl
  | resumeWatch found asking got =>
    exact .receive rfl rfl (by simp [Stage.return?, firstReply?, got]) rfl got (by simp) (by simp)
      (by simp)
  | launch asking got =>
    exact .receive rfl rfl (by simp [Stage.return?, firstReply?, got]) rfl got rfl rfl rfl
  | serve running waiting =>
    exact .serve rfl (by simp [Stage.served?, waiting]) rfl running waiting rfl rfl rfl
  | _ => exact .none rfl rfl rfl rfl rfl rfl

/-- The registry has stopped only if nobody can have a request and none is left. -/
def IsClosed (e : Engine) : Prop :=
  e.service = .stopped → e.hasHandles = false ∧ e.requests = []

theorem isClosed_transition (h : Transition env e a next) (hclosed : e.IsClosed) :
    next.IsClosed := by
  intro hstopped
  by_cases he : e.service = .stopped
  · obtain ⟨hnone, hempty⟩ := hclosed he
    refine ⟨hasHandles_transition h hnone, ?_⟩
    cases exchange_of_transition h with
    | none _ _ _ _ requests => rw [requests, hempty]
    | ask _ _ _ _ _ handle =>
      rw [hnone] at handle
      cases handle
    | serve _ _ _ running => exact absurd he running
    | receive _ _ _ _ _ _ requests => rw [requests, hempty]
  · cases h with
    | stopServing idle released | stopDraining idle released => exact ⟨released, idle⟩
    | fire => exact absurd (by simpa using hstopped) he
    | quitFlusher => exact absurd (by simpa using hstopped) he
    | change => exact absurd hstopped he
    | drain => cases hstopped
    | _ => exact absurd (by simpa [note] using hstopped) he

theorem running_of_handle (hclosed : e.IsClosed) (handle : e.hasHandles = true) :
    e.service ≠ .stopped := by
  intro hstopped
  rw [(hclosed hstopped).1] at handle
  cases handle

theorem exists_serve (env : Env) {call : Caller × Registry.Request}
    {rest : List (Caller × Registry.Request)} (hrunning : e.service ≠ .stopped)
    (hqueue : e.requests = call :: rest) :
    ∃ middle, step env .serve e = some middle ∧ middle.requests = rest ∧
      middle.service = e.service ∧ middle.reconciling = e.reconciling := by
  simp [step, serve, hrunning, hqueue, note, measure]

theorem ask_of_running (hrunning : e.service ≠ .stopped) (caller : Caller) (q : Registry.Request) :
    ask caller q e = { e with requests := e.requests ++ [(caller,q)] } := by
  rw [ask, if_neg hrunning]

end WorkloadScan.Engine
