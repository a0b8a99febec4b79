import WorkloadScan.Proofs.Engine.Exchange
import WorkloadScan.Proofs.Registry

/-! The calls of the registry in one order: that in which they are made, which the queue keeps and
in which they are served. -/
namespace WorkloadScan.Engine
open Registry (carryOut get?_carryOut isKeyed_carryOut isKeyed_empty isAnswer_reply reference
  referenceStep IsAnswer)
variable {env : Env} {e next : Engine} {a : Action} {stages : List Stage} {caller : Caller}

def calls (stages : List Stage) : List (Caller × Registry.Request) :=
  stages.filterMap Stage.call?

def returns (stages : List Stage) : List (Caller × Registry.Reply) :=
  stages.filterMap Stage.return?

def served (stages : List Stage) : List (Caller × Registry.Request) :=
  stages.filterMap Stage.served?

def answersFrom (transport : Transport) :
    Registry → List (Caller × Registry.Request) → List (Caller × Registry.Reply)
  | _, [] => []
  | reg, (caller,q)::rest =>
    (caller,reg.reply q) :: answersFrom transport (reg.apply transport q) rest

def answers (transport : Transport) (done : List (Caller × Registry.Request)) :
    List (Caller × Registry.Reply) := answersFrom transport .empty done

/-- The registry when calls have been served. -/
def registryAfter (transport : Transport) (done : List (Caller × Registry.Request)) : Registry :=
  carryOut transport (done.map Prod.snd) .empty

theorem registryAfter_concat (transport : Transport) (done : List (Caller × Registry.Request))
    (caller : Caller) (q : Registry.Request) :
    registryAfter transport (done ++ [(caller,q)]) =
      (registryAfter transport done).apply transport q := by
  simp [registryAfter, carryOut]

theorem answersFrom_append (transport : Transport) (reg : Registry)
    (done rest : List (Caller × Registry.Request)) :
    answersFrom transport reg (done ++ rest) = answersFrom transport reg done ++
      answersFrom transport (carryOut transport (done.map Prod.snd) reg) rest := by
  induction done generalizing reg with
  | nil => rfl
  | cons call tail ih => simp [answersFrom, ih]

theorem answers_append (transport : Transport) (done rest : List (Caller × Registry.Request)) :
    answers transport (done ++ rest) =
      answers transport done ++ answersFrom transport (registryAfter transport done) rest :=
  answersFrom_append transport .empty done rest

theorem answersFrom_callers (transport : Transport) (reg : Registry)
    (done : List (Caller × Registry.Request)) :
    (answersFrom transport reg done).map Prod.fst = done.map Prod.fst := by
  induction done generalizing reg with
  | nil => rfl
  | cons call tail ih => simp [answersFrom, ih]

theorem length_answers (transport : Transport) (done : List (Caller × Registry.Request)) :
    (answers transport done).length = done.length := by
  have hcallers := congrArg List.length (answersFrom_callers transport .empty done)
  rwa [List.length_map, List.length_map] at hcallers

/-! ### What a run does with the calls -/

theorem calls_concat (stages : List Stage) (s : Stage) :
    calls (stages ++ [s]) = calls stages ++ s.call?.toList := filterMap_concat ..

theorem returns_concat (stages : List Stage) (s : Stage) :
    returns (stages ++ [s]) = returns stages ++ s.return?.toList := filterMap_concat ..

theorem served_concat (stages : List Stage) (s : Stage) :
    served (stages ++ [s]) = served stages ++ s.served?.toList := filterMap_concat ..

/-- What holds of the calls at any moment of a run. -/
structure Traffic (env : Env) (stages : List Stage) (e : Engine) : Prop where
  closed : e.IsClosed
  queue : calls stages = served stages ++ e.requests
  registry : e.registry = registryAfter env.transport (served stages)
  replies : ∀ caller, ofCaller caller (returns stages) ++ ofCaller caller e.replies =
    ofCaller caller (answers env.transport (served stages))

theorem traffic_of_unserved (h : Traffic env stages e) (hclosed : next.IsClosed)
    (hserved : Stage.served? ⟨e,a,next⟩ = none) (hregistry : next.registry = e.registry)
    (hrequests : next.requests = e.requests ++ (Stage.call? ⟨e,a,next⟩).toList)
    (hreplies : ∀ caller, ofCaller caller e.replies =
      ofCaller caller (Stage.return? ⟨e,a,next⟩).toList ++ ofCaller caller next.replies) :
    Traffic env (stages ++ [⟨e,a,next⟩]) next := by
  have hsame : served (stages ++ [⟨e,a,next⟩]) = served stages := by
    simp [served_concat, hserved]
  refine ⟨hclosed, ?_, ?_, ?_⟩
  · rw [calls_concat, hsame, h.queue, hrequests, List.append_assoc]
  · rw [hsame, hregistry]
    exact h.registry
  · intro caller
    rw [returns_concat, ofCaller_append, List.append_assoc, ← hreplies, hsame]
    exact h.replies caller

theorem traffic_transition (h : Traffic env stages e) (ht : Transition env e a next) :
    Traffic env (stages ++ [⟨e,a,next⟩]) next := by
  have hclosed := isClosed_transition ht h.closed
  cases exchange_of_transition ht with
  | none call served returned registry requests replies =>
    refine traffic_of_unserved h hclosed served registry ?_ ?_
    · simp [call, requests]
    · intro caller
      simp [returned, replies]
  | ask call served returned own query handle registry requests replies =>
    rw [ask_of_running (running_of_handle h.closed handle)] at requests replies
    refine traffic_of_unserved h hclosed served registry ?_ ?_
    · simp [call, requests]
    · intro caller
      simp [returned, replies]
  | @serve caller q rest call hserve returned running waiting registry requests replies =>
    have hserved : served (stages ++ [⟨e,a,next⟩]) = served stages ++ [(caller,q)] := by
      simp [served_concat, hserve]
    refine ⟨hclosed, ?_, ?_, ?_⟩
    · simp [calls_concat, call, hserved, requests, h.queue, waiting]
    · rw [hserved, registryAfter_concat, ← h.registry]
      exact registry
    · intro c
      have hnext : answersFrom env.transport (registryAfter env.transport (served stages))
          [(caller,q)] = [(caller,e.registry.reply q)] := by
        rw [h.registry]
        rfl
      rw [returns_concat, returned, Option.toList_none, List.append_nil, hserved, replies,
        answers_append, hnext, ofCaller_append, ofCaller_append, ← h.replies c, List.append_assoc]
  | receive call served returned own got registry requests replies =>
    refine traffic_of_unserved h hclosed served registry ?_ ?_
    · simp [call, requests]
    · intro c
      rw [returned, replies]
      exact ofCaller_takeReply got

theorem traffic_run {actions : List Action} (h : run env actions {} = some e) :
    Traffic env (path env actions {}) e := by
  refine path_induction (P := Traffic env) ?_ ?_ h
  · exact ⟨(fun hstopped => by cases hstopped), rfl, rfl, fun _ => rfl⟩
  · intro stages e a next hstages ht
    exact traffic_transition hstages ht

theorem get?_registryAfter (transport : Transport) (done : List (Caller × Registry.Request)) :
    (registryAfter transport done).get? = reference transport (done.map Prod.snd) :=
  get?_carryOut _ _

/-- The calls of a run in the order in which they are made. Each of them is served in one step, and
that step has the effect that the reference semantics gives it at its place in the order. -/
structure IsLinearized (env : Env) (stages : List Stage) (e : Engine) : Prop where
  /-- The calls that still wait come last, and none is missing. -/
  order : calls stages = served stages ++ e.requests
  registry : e.registry.get? = reference env.transport ((served stages).map Prod.snd)
  effect : ∀ before caller q after, served stages = before ++ (caller,q) :: after →
    ∃ l₁ s l₂, stages = l₁ ++ s :: l₂ ∧ served l₁ = before ∧
      s.before.registry.get? = reference env.transport (before.map Prod.snd) ∧
      s.after.registry.get? =
        referenceStep env.transport (reference env.transport (before.map Prod.snd)) q
  answer : ∀ before caller q after, served stages = before ++ (caller,q) :: after →
    ∃ reply, (answers env.transport (served stages))[before.length]? = some (caller,reply) ∧
      IsAnswer (reference env.transport (before.map Prod.snd)) q reply
  /-- Callers have received or are going to receive their answers, in order. -/
  replies : ∀ caller, ofCaller caller (returns stages) ++ ofCaller caller e.replies =
    ofCaller caller (answers env.transport (served stages))
  /-- A call that returns before another one is made has its place before it. -/
  realTime : ∀ l₁ s l₂ s' l₃ caller reply other q, stages = l₁ ++ s :: (l₂ ++ s' :: l₃) →
    s.return? = some (caller,reply) → s'.call? = some (other,q) →
    ∃ i j, i < j ∧ (answers env.transport (served stages))[i]? = some (caller,reply) ∧
      ofCaller caller ((answers env.transport (served stages)).take i) =
        ofCaller caller (returns l₁) ∧
      (calls stages).take j = calls (l₁ ++ s :: l₂) ∧ (calls stages)[j]? = some (other,q)

variable {actions : List Action}

theorem traffic_of_path_eq_append {l₁ l₂ : List Stage} {s : Stage}
    (h : path env actions {} = l₁ ++ s :: l₂) : Traffic env l₁ s.before := by
  obtain ⟨first, rest, -, hrun, rfl⟩ := run_of_path_eq_append h
  exact traffic_run hrun

theorem transition_of_path_eq_append {l₁ l₂ : List Stage} {s : Stage}
    (h : path env actions {} = l₁ ++ s :: l₂) : Transition env s.before s.action s.after := by
  have hmem : s ∈ path env actions {} := by simp [h]
  exact transition_of_mem_path hmem

theorem registry_of_served {s : Stage} {q : Registry.Request}
    (ht : Transition env s.before s.action s.after) (hs : s.served? = some (caller,q)) :
    s.after.registry = s.before.registry.apply env.transport q := by
  cases exchange_of_transition ht with
  | none _ served | ask _ served | receive _ served =>
    rw [hs] at served
    cases served
  | serve _ served _ _ _ registry =>
    rw [hs] at served
    cases served
    exact registry

theorem reply_of_return {s : Stage} {reply : Registry.Reply}
    (ht : Transition env s.before s.action s.after) (hs : s.return? = some (caller,reply)) :
    ∃ rest, takeReply caller s.before.replies = some (reply,rest) := by
  cases exchange_of_transition ht with
  | none _ _ returned | ask _ _ returned | serve _ _ returned =>
    rw [hs] at returned
    cases returned
  | @receive _ _ rest _ _ returned _ got =>
    rw [hs] at returned
    cases returned
    exact ⟨rest, got⟩

theorem effect_of_served {before after : List (Caller × Registry.Request)} {q : Registry.Request}
    (h : served (path env actions {}) = before ++ (caller,q) :: after) :
    ∃ l₁ s l₂, path env actions {} = l₁ ++ s :: l₂ ∧ served l₁ = before ∧
      s.before.registry.get? = reference env.transport (before.map Prod.snd) ∧
      s.after.registry.get? =
        referenceStep env.transport (reference env.transport (before.map Prod.snd)) q := by
  obtain ⟨l₁, rest, hpath, rfl, hrest⟩ := List.filterMap_eq_append_iff.mp h
  obtain ⟨skipped, s, l₂, rfl, hskipped, hs, -⟩ := List.filterMap_eq_cons_iff.mp hrest
  rw [← List.append_assoc] at hpath
  have hbefore : served (l₁ ++ skipped) = served l₁ := by
    have hnone : skipped.filterMap Stage.served? = [] := List.filterMap_eq_nil_iff.mpr hskipped
    rw [served, List.filterMap_append, hnone, List.append_nil]
    rfl
  have hregistry : s.before.registry.get? =
      reference env.transport ((served l₁).map Prod.snd) := by
    rw [(traffic_of_path_eq_append hpath).registry, hbefore, get?_registryAfter]
  refine ⟨l₁ ++ skipped, s, l₂, hpath, hbefore, hregistry, ?_⟩
  rw [registry_of_served (transition_of_path_eq_append hpath) hs, Registry.get?_apply, hregistry]
  rfl

theorem answer_of_served (transport : Transport) {before after : List (Caller × Registry.Request)}
    {q : Registry.Request} :
    ∃ reply,
      (answers transport (before ++ (caller,q) :: after))[before.length]? = some (caller,reply) ∧
        IsAnswer (reference transport (before.map Prod.snd)) q reply := by
  refine ⟨(registryAfter transport before).reply q, ?_, ?_⟩
  · have hlength := length_answers transport before
    rw [answers_append, List.getElem?_append_right (Nat.le_of_eq hlength), hlength, Nat.sub_self]
    rfl
  · rw [← get?_registryAfter]
    exact isAnswer_reply (isKeyed_carryOut isKeyed_empty _) q

theorem place_of_return {l₁ l₂ : List Stage} {s : Stage} {reply : Registry.Reply}
    (hpath : path env actions {} = l₁ ++ s :: l₂) (hs : s.return? = some (caller,reply)) :
    ∃ before after, answers env.transport (served l₁) = before ++ (caller,reply) :: after ∧
      ofCaller caller before = ofCaller caller (returns l₁) := by
  obtain ⟨rest, got⟩ := reply_of_return (transition_of_path_eq_append hpath) hs
  have hreplies := (traffic_of_path_eq_append hpath).replies caller
  rw [ofCaller_takeReply got, ofCaller_cons_self] at hreplies
  obtain ⟨front, back, hsplit, hfront, hback⟩ := List.filter_eq_append_iff.mp hreplies.symm
  obtain ⟨others, after, rfl, hothers, -, -⟩ := List.filter_eq_cons_iff.mp hback
  refine ⟨front ++ others, after, by rw [hsplit, List.append_assoc], ?_⟩
  have hnone : ofCaller caller others = [] := List.filter_eq_nil_iff.mpr hothers
  rw [ofCaller_append, hnone, List.append_nil]
  exact hfront

theorem served_append (l₁ l₂ : List Stage) : served (l₁ ++ l₂) = served l₁ ++ served l₂ :=
  List.filterMap_append

theorem calls_append (l₁ l₂ : List Stage) : calls (l₁ ++ l₂) = calls l₁ ++ calls l₂ :=
  List.filterMap_append

theorem realTime_of_path {l₁ l₂ l₃ : List Stage} {s s' : Stage} {reply : Registry.Reply}
    {other : Caller} {q : Registry.Request}
    (hpath : path env actions {} = l₁ ++ s :: (l₂ ++ s' :: l₃))
    (hs : s.return? = some (caller,reply)) (hs' : s'.call? = some (other,q)) :
    ∃ i j, i < j ∧
      (answers env.transport (served (path env actions {})))[i]? = some (caller,reply) ∧
      ofCaller caller ((answers env.transport (served (path env actions {}))).take i) =
        ofCaller caller (returns l₁) ∧
      (calls (path env actions {})).take j = calls (l₁ ++ s :: l₂) ∧
      (calls (path env actions {}))[j]? = some (other,q) := by
  obtain ⟨before, after, hanswers, hbefore⟩ := place_of_return hpath hs
  have hcalls : calls (path env actions {}) = calls (l₁ ++ s :: l₂) ++ (other,q) :: calls l₃ := by
    have hassoc : l₁ ++ s :: (l₂ ++ s' :: l₃) = (l₁ ++ s :: l₂) ++ s' :: l₃ := by simp
    rw [hpath, hassoc, calls_append, calls, calls, List.filterMap_cons_some hs']
    rfl
  have hall : answers env.transport (served (path env actions {})) =
      before ++ (caller,reply) :: (after ++ answersFrom env.transport
        (registryAfter env.transport (served l₁)) (served (s :: (l₂ ++ s' :: l₃)))) := by
    rw [hpath, served_append, answers_append, hanswers]
    simp
  have hlt : before.length < (calls (l₁ ++ s :: l₂)).length := by
    have hserved : before.length < (served l₁).length := by
      rw [← length_answers env.transport, hanswers]
      simp
    have hqueue := congrArg List.length (traffic_of_path_eq_append hpath).queue
    rw [List.length_append] at hqueue
    rw [calls_append, List.length_append]
    omega
  refine ⟨before.length, _, hlt, ?_, ?_, ?_, ?_⟩
  · rw [hall, List.getElem?_append_right (Nat.le_refl _), Nat.sub_self]
    rfl
  · rw [hall, List.take_left]
    exact hbefore
  · rw [hcalls, List.take_left]
  · rw [hcalls, List.getElem?_append_right (Nat.le_refl _), Nat.sub_self]
    rfl

theorem isLinearized_run (h : run env actions {} = some e) :
    IsLinearized env (path env actions {}) e := by
  have htraffic := traffic_run h
  refine ⟨htraffic.queue, ?_, ?_, ?_, htraffic.replies, ?_⟩
  · rw [htraffic.registry, get?_registryAfter]
  · exact fun before caller q after => effect_of_served
  · intro before caller q after hserved
    rw [hserved]
    exact answer_of_served env.transport
  · exact fun l₁ s l₂ s' l₃ caller reply other q => realTime_of_path

theorem run_serves (env : Env) (hrunning : e.service ≠ .stopped) :
    ∃ next, run env (List.replicate e.requests.length .serve) e = some next ∧
      next.requests = [] := by
  induction hq : e.requests generalizing e with
  | nil => exact ⟨e, rfl, hq⟩
  | cons call rest ih =>
    obtain ⟨middle, hstep, hrequests, hservice, -⟩ := exists_serve env hrunning hq
    obtain ⟨next, hrun, hnil⟩ := ih (by rwa [hservice]) hrequests
    refine ⟨next, ?_, hnil⟩
    simpa [List.replicate_succ, run, hstep] using hrun

theorem calls_of_serves (env : Env) (n : Nat) (e : Engine) :
    calls (path env (List.replicate n .serve) e) = [] := by
  induction n generalizing e with
  | zero => rfl
  | succ n ih =>
    rw [List.replicate_succ, path]
    cases step env .serve e with
    | none => rfl
    | some next => exact ih next

/-- In whatever order clients call the registry and shutdown comes, the calls have one order that
agrees with real time and in which each has the effect and the answer of the reference semantics.
What is answered stays so; all that waits can be served; and the targets and the answers depend on
the calls alone, not on when shutdown comes. -/
theorem registry_linearizable (h : run env actions {} = some e) :
    IsLinearized env (path env actions {}) e ∧
    (∀ more next, run env (actions ++ more) {} = some next →
      answers env.transport (served (path env actions {})) <+:
        answers env.transport (served (path env (actions ++ more) {}))) ∧
    (∃ next, run env (actions ++ List.replicate e.requests.length .serve) {} = some next ∧
      served (path env (actions ++ List.replicate e.requests.length .serve) {}) =
        calls (path env actions {})) ∧
    ∀ actions' e', run env actions' {} = some e' →
      calls (path env actions' {}) = calls (path env actions {}) →
      e'.requests.length = e.requests.length →
      e'.registry = e.registry ∧ ∀ caller,
        ofCaller caller (returns (path env actions' {})) ++ ofCaller caller e'.replies =
          ofCaller caller (returns (path env actions {})) ++ ofCaller caller e.replies := by
  have htraffic := traffic_run h
  refine ⟨isLinearized_run h, ?_, ?_, ?_⟩
  · intro more next _
    rw [path_append h, served_append, answers_append]
    exact List.prefix_append _ _
  · obtain ⟨next, hserves, hnil⟩ : ∃ next,
        run env (List.replicate e.requests.length .serve) e = some next ∧ next.requests = [] := by
      by_cases hstopped : e.service = .stopped
      · have hempty := (htraffic.closed hstopped).2
        exact ⟨e, by rw [hempty]; rfl, hempty⟩
      · exact run_serves env hstopped
    have hrun := (run_append h).trans hserves
    refine ⟨next, hrun, ?_⟩
    have hqueue := (traffic_run hrun).queue
    rw [hnil, List.append_nil] at hqueue
    rw [← hqueue, path_append h, calls_append, calls_of_serves, List.append_nil]
  · intro actions' e' h' hcalls hwaiting
    have htraffic' := traffic_run h'
    have hserved : served (path env actions' {}) = served (path env actions {}) := by
      have hqueue : served (path env actions' {}) ++ e'.requests =
          served (path env actions {}) ++ e.requests := by
        rw [← htraffic'.queue, ← htraffic.queue, hcalls]
      exact (List.append_inj' hqueue hwaiting).1
    refine ⟨?_, ?_⟩
    · rw [htraffic'.registry, htraffic.registry, hserved]
    · intro caller
      rw [htraffic'.replies, htraffic.replies, hserved]

/-- A target is added, listed for another client, and gone after its client could not be made
again. Shutdown comes in between. -/
theorem registry_linearizable_around_shutdown :
    let env : Env :=
      { Env.calm {} with
        transport := ⟨fun c => if c.endpoint = "bad" then some "refused" else none, fun _ _ => {}⟩ }
    let target : Target := ⟨"a", "good", "id", .ofTexts [] [], ⟨"good", "t"⟩⟩
    let actions : List Action := [.request 0 (.add "a" ⟨"good", "t", "id", [], []⟩), .serve,
      .request 1 .snapshot, .collect 0, .shutdown, .request 0 (.add "a" ⟨"bad", "t", "id", [], []⟩),
      .serve, .drain, .request 1 .snapshot, .serve, .collect 1, .serve, .collect 1]
    ∃ e, run env actions {} = some e ∧ IsLinearized env (path env actions {}) e ∧
      returns (path env actions {}) =
        [(.user 0,.done), (.user 1,.targets [target]), (.user 1,.targets [])] := by
  intro env target actions
  exact ⟨_, rfl, (registry_linearizable rfl).1, rfl⟩

end WorkloadScan.Engine
