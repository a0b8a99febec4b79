import WorkloadScan.Proofs.Engine.Dispatching
import WorkloadScan.Proofs.Engine.Linearization
import WorkloadScan.Proofs.Engine.Watching

/-! Questions for the targets. The flusher and the watches ask only once they have the last answer,
and so they are told of the targets registered when the question that they have asked is served. -/
namespace WorkloadScan.Engine
variable {env : Env} {e next : Engine} {a : Action} {caller : Caller} {since : List Stage}
  {actions : List Action}

/-- How many calls of a caller have not returned. -/
def outstanding (caller : Caller) (e : Engine) : Nat :=
  (ofCaller caller e.requests).length + (ofCaller caller e.replies).length

/-- Callers that ask for the targets and then wait for them. -/
inductive IsAsker : Caller → Prop
  | flusher : IsAsker .flusher
  | observer (id : String) : IsAsker (.observer id)

def waitsFor (e : Engine) : Caller → Nat
  | .flusher => if e.flusher.asked?.isSome then 1 else 0
  | .observer id => if (e.watches.get? id).any Watch.isAsking then 1 else 0
  | .user _ | .reconciler => 0

theorem outstanding_transition (hclosed : e.IsClosed) (h : Transition env e a next) :
    outstanding caller next + (ofCaller caller (Stage.return? ⟨e,a,next⟩).toList).length =
      outstanding caller e + (ofCaller caller (Stage.call? ⟨e,a,next⟩).toList).length := by
  cases exchange_of_transition h with
  | none call served returned registry requests replies =>
    simp [outstanding, call, returned, requests, replies]
  | ask call served returned own query handle registry requests replies =>
    rw [ask_of_running (running_of_handle hclosed handle)] at requests replies
    simp only [outstanding, call, returned, requests, replies, ofCaller_append,
      List.length_append, Option.toList_none, Option.toList_some, ofCaller_nil, List.length_nil]
    omega
  | @serve asker q rest call served returned running waiting registry requests replies =>
    by_cases hc : asker = caller
    · subst hc
      simp [outstanding, call, returned, waiting, requests, replies]
      omega
    · simp [outstanding, call, returned, waiting, requests, replies, ofCaller_cons_of_ne hc]
  | receive call served returned own got registry requests replies =>
    have hreplies := congrArg List.length (@ofCaller_takeReply _ caller _ _ _ got)
    rw [List.length_append] at hreplies
    simp only [outstanding, call, returned, requests, replies, Option.toList_none,
      Option.toList_some, ofCaller_nil, List.length_nil, hreplies]
    omega

theorem silent_of_caller_ne (h : Transition env e a next) (hother : a.caller? ≠ some caller) :
    ofCaller caller (Stage.call? ⟨e,a,next⟩).toList = [] ∧
      ofCaller caller (Stage.return? ⟨e,a,next⟩).toList = [] := by
  cases exchange_of_transition h with
  | none call served returned | serve call served returned => simp [call, returned]
  | @ask asker q call served returned own =>
    have hne : asker ≠ caller := fun heq => hother (heq ▸ own)
    simp [call, returned, ofCaller_cons_of_ne hne]
  | @receive asker reply rest call served returned own =>
    have hne : asker ≠ caller := fun heq => hother (heq ▸ own)
    simp [call, returned, ofCaller_cons_of_ne hne]

theorem waitsFor_flusher_transition (h : Transition env e a next) :
    waitsFor next .flusher + (ofCaller .flusher (Stage.return? ⟨e,a,next⟩).toList).length =
      waitsFor e .flusher + (ofCaller .flusher (Stage.call? ⟨e,a,next⟩).toList).length := by
  cases flusherMove_of_transition h with
  | stays other _ _ _ same =>
    obtain ⟨hcall, hreturn⟩ := silent_of_caller_ne h other
    simp [waitsFor, same, hcall, hreturn]
  | idles idle _ call returned _ _ left =>
    simp [waitsFor, asked_of_isIdle idle, asked_of_isIdle left, call, returned]
  | flushes idle _ call returned _ _ left =>
    simp [waitsFor, asked_of_isIdle idle, left, call, returned]
  | launches asking action got left =>
    simp [waitsFor, asking, left, Flusher.asked?, action, Stage.call?, Stage.return?, firstReply?,
      got]
  | begins scanning action _ left | finishes scanning action _ left =>
    simp [waitsFor, scanning, left, Flusher.asked?, action, Stage.call?, Stage.return?]
  | lands scanning action _ left =>
    have hbefore : e.flusher.asked? = none := by rw [scanning]; rfl
    simp [waitsFor, hbefore, asked_of_isIdle left, action, Stage.call?, Stage.return?]

theorem waitsFor_observer_transition (id : String) (h : Transition env e a next) :
    waitsFor next (.observer id) +
        (ofCaller (.observer id) (Stage.return? ⟨e,a,next⟩).toList).length =
      waitsFor e (.observer id) +
        (ofCaller (.observer id) (Stage.call? ⟨e,a,next⟩).toList).length := by
  cases watchMove_of_transition id h with
  | stays other same =>
    obtain ⟨hcall, hreturn⟩ := silent_of_caller_ne h other
    simp [waitsFor, same, hcall, hreturn]
  | starts other unknown left =>
    obtain ⟨hcall, hreturn⟩ := silent_of_caller_ne h other
    simp [waitsFor, unknown, left, Watch.isAsking, hcall, hreturn]
  | stops other found ready left =>
    obtain ⟨hcall, hreturn⟩ := silent_of_caller_ne h other
    simp [waitsFor, found, left, ready, Watch.isAsking, hcall, hreturn]
  | passes action found ready spared left =>
    simp [waitsFor, found, left, ready, Watch.isAsking, action, Stage.call?, Stage.return?]
  | asks action found ready changed needed left =>
    simp [waitsFor, found, left, ready, Watch.isAsking, action, Stage.call?, Stage.return?]
  | resumes action found asking got left =>
    simp [waitsFor, found, left, asking, Watch.isAsking, action, Stage.call?, Stage.return?,
      firstReply?, got]

theorem waitsFor_transition (hasker : IsAsker caller) (h : Transition env e a next) :
    waitsFor next caller + (ofCaller caller (Stage.return? ⟨e,a,next⟩).toList).length =
      waitsFor e caller + (ofCaller caller (Stage.call? ⟨e,a,next⟩).toList).length := by
  cases hasker with
  | flusher => exact waitsFor_flusher_transition h
  | observer id => exact waitsFor_observer_transition id h

theorem waitsFor_of_call {q : Registry.Request} (hasker : IsAsker caller)
    (h : Transition env e a next) (hcall : Stage.call? ⟨e,a,next⟩ = some (caller,q)) :
    waitsFor e caller = 0 := by
  have hwaits := waitsFor_transition hasker h
  have hreturn : Stage.return? ⟨e,a,next⟩ = none := by
    cases exchange_of_transition h with
    | none call | serve call | receive call =>
      rw [hcall] at call
      cases call
    | ask _ _ returned => exact returned
  have hone : waitsFor next caller ≤ 1 := by
    cases hasker <;> simp only [waitsFor] <;> split <;> omega
  simp only [hcall, hreturn, Option.toList_none, Option.toList_some, ofCaller_nil,
    ofCaller_cons_self, List.length_nil, List.length_cons] at hwaits
  omega

theorem outstanding_run (hasker : IsAsker caller) (h : run env actions {} = some e) :
    outstanding caller e = waitsFor e caller := by
  refine run_induction (P := fun _ e => outstanding caller e = waitsFor e caller) ?_ ?_ h
  · cases hasker <;> rfl
  · intro actions e a next hrun ih ht
    have hcalls := @outstanding_transition _ _ _ _ caller (traffic_run hrun).closed ht
    have hwaits := waitsFor_transition hasker ht
    omega

/-! ### What becomes of a question -/

/-- The registries of whose targets a caller is told in some steps. -/
def toldOf (caller : Caller) (stages : List Stage) : List Registry :=
  stages.filterMap fun s =>
    if s.served? = some (caller,.snapshot) then some s.before.registry else none

theorem toldOf_concat (caller : Caller) (stages : List Stage) (s : Stage) :
    toldOf caller (stages ++ [s]) = toldOf caller stages ++
      if s.served? = some (caller,.snapshot) then [s.before.registry] else [] := by
  rw [toldOf, filterMap_concat]
  split <;> rfl

/-- A question for the targets, with the steps made since it was asked. -/
inductive Inquiry (caller : Caller) (since : List Stage) (e : Engine) : Prop
  | unanswered (told : toldOf caller since = [])
      (requests : ofCaller caller e.requests = [(caller,.snapshot)])
      (replies : ofCaller caller e.replies = [])
  | answered {registry : Registry} (told : toldOf caller since = [registry])
      (requests : ofCaller caller e.requests = [])
      (replies : ofCaller caller e.replies = [(caller,.targets registry.values)])

theorem inquiry_ask (hclosed : e.IsClosed) (hfree : outstanding caller e = 0)
    (h : Transition env e a next) (hcall : Stage.call? ⟨e,a,next⟩ = some (caller,.snapshot)) :
    Inquiry caller [] next := by
  have hrequests : ofCaller caller e.requests = [] :=
    List.eq_nil_of_length_eq_zero (Nat.eq_zero_of_add_eq_zero hfree).1
  have hreplies : ofCaller caller e.replies = [] :=
    List.eq_nil_of_length_eq_zero (Nat.eq_zero_of_add_eq_zero hfree).2
  cases exchange_of_transition h with
  | none call | serve call | receive call =>
    rw [hcall] at call
    cases call
  | ask call served returned own query handle registry requests replies =>
    rw [hcall] at call
    cases call
    rw [ask_of_running (running_of_handle hclosed handle)] at requests replies
    exact .unanswered rfl (by simp [requests, hrequests]) (by simp [replies, hreplies])

theorem inquiry_transition (hclosed : e.IsClosed) (hi : Inquiry caller since e)
    (h : Transition env e a next) (hother : a.caller? ≠ some caller) :
    Inquiry caller (since ++ [⟨e,a,next⟩]) next := by
  have keep (hserved : Stage.served? ⟨e,a,next⟩ ≠ some (caller,.snapshot))
      (hrequests : ofCaller caller next.requests = ofCaller caller e.requests)
      (hreplies : ofCaller caller next.replies = ofCaller caller e.replies) :
      Inquiry caller (since ++ [⟨e,a,next⟩]) next := by
    have htold : toldOf caller (since ++ [⟨e,a,next⟩]) = toldOf caller since := by
      rw [toldOf_concat, if_neg hserved, List.append_nil]
    cases hi with
    | unanswered told requests replies =>
      exact .unanswered (htold.trans told) (hrequests.trans requests) (hreplies.trans replies)
    | answered told requests replies =>
      exact .answered (htold.trans told) (hrequests.trans requests) (hreplies.trans replies)
  cases exchange_of_transition h with
  | none call served returned registry requests replies =>
    exact keep (by simp [served]) (by rw [requests]) (by rw [replies])
  | @ask asker q call served returned own query handle registry requests replies =>
    have hne : asker ≠ caller := fun heq => hother (heq ▸ own)
    rw [ask_of_running (running_of_handle hclosed handle)] at requests replies
    exact keep (by simp [served]) (by simp [requests, ofCaller_cons_of_ne hne]) (by rw [replies])
  | @receive asker reply rest call served returned own got registry requests replies =>
    have hne : asker ≠ caller := fun heq => hother (heq ▸ own)
    refine keep (by simp [served]) (by rw [requests]) ?_
    rw [replies, ofCaller_takeReply got, ofCaller_cons_of_ne hne]
    rfl
  | @serve asker q rest call served returned running waiting registry requests replies =>
    by_cases hc : asker = caller
    · subst hc
      cases hi with
      | answered _ hrequests => simp [waiting] at hrequests
      | unanswered told hrequests hreplies =>
        simp only [waiting, ofCaller_cons_self, List.cons.injEq, Prod.mk.injEq, true_and]
          at hrequests
        obtain ⟨rfl, hrest⟩ := hrequests
        refine @Inquiry.answered _ _ _ e.registry ?_ (requests ▸ hrest) ?_
        · rw [toldOf_concat, told, if_pos served]
          rfl
        · simp [replies, hreplies, Registry.reply]
    · refine keep (by simp [served, hc]) ?_ ?_
      · rw [requests, waiting, ofCaller_cons_of_ne hc]
      · simp [replies, ofCaller_cons_of_ne hc]

/-- What has become of the question that a caller has asked in a step of a run, if it has done
nothing since. -/
theorem inquiry_run (hasker : IsAsker caller) (h : run env actions {} = some e)
    {earlier : List Stage} {s : Stage} (hpath : path env actions {} = earlier ++ s :: since)
    (hcall : s.call? = some (caller,.snapshot))
    (hquiet : ∀ t ∈ since, t.action.caller? ≠ some caller) : Inquiry caller since e := by
  revert since
  refine run_induction (P := fun stages e => ∀ {since}, stages = earlier ++ s :: since →
    (∀ t ∈ since, t.action.caller? ≠ some caller) → Inquiry caller since e) ?_ ?_ h
  · intro since hsplit
    simp at hsplit
  · intro actions e a next hrun ih ht since hsplit hquiet
    have hclosed := (traffic_run hrun).closed
    rcases concat_eq_append_cons.mp hsplit with ⟨-, rfl, rfl⟩ | ⟨since, rfl, hinit⟩
    · refine inquiry_ask hclosed ?_ ht hcall
      rw [outstanding_run hasker hrun, waitsFor_of_call hasker ht hcall]
    · obtain ⟨hold, hlast⟩ := forall_mem_concat.mp hquiet
      exact inquiry_transition hclosed (ih hinit hold) ht hlast

theorem told_of_takeReply (hi : Inquiry caller since e) {reply : Registry.Reply}
    {rest : List (Caller × Registry.Reply)} (got : takeReply caller e.replies = some (reply,rest)) :
    ∃ registry, toldOf caller since = [registry] ∧ reply = .targets registry.values := by
  have hsplit := @ofCaller_takeReply _ caller _ _ _ got
  rw [ofCaller_cons_self] at hsplit
  cases hi with
  | unanswered told requests replies =>
    rw [replies] at hsplit
    cases hsplit
  | @answered registry told requests replies =>
    rw [replies] at hsplit
    simp only [ofCaller_nil, List.cons_append, List.cons.injEq, Prod.mk.injEq, true_and] at hsplit
    exact ⟨registry, told, hsplit.1.symm⟩

theorem takeReply_of_inquiry (hi : Inquiry caller since e) :
    toldOf caller since = [] ∧ ofCaller caller e.requests = [(caller,.snapshot)] ∧
        takeReply caller e.replies = none ∨
      ∃ registry rest, toldOf caller since = [registry] ∧
        takeReply caller e.replies = some (.targets registry.values,rest) := by
  cases hgot : takeReply caller e.replies with
  | some found =>
    obtain ⟨reply, rest⟩ := found
    obtain ⟨registry, htold, rfl⟩ := told_of_takeReply hi hgot
    exact .inr ⟨registry, rest, htold, rfl⟩
  | none =>
    cases hi with
    | unanswered told requests => exact .inl ⟨told, requests, rfl⟩
    | @answered registry _ _ replies =>
      have hmem : (caller,.targets registry.values) ∈ e.replies :=
        (List.mem_filter.mp (replies ▸ List.mem_singleton_self _)).1
      obtain ⟨first, rest, got⟩ := exists_takeReply hmem
      rw [hgot] at got
      cases got

/-! ### Every question can be answered -/

theorem kept_by_serves {n : Nat} (h : run env (List.replicate n .serve) e = some next) :
    next.flusher = e.flusher ∧ next.watches = e.watches := by
  induction n generalizing e with
  | zero =>
    cases h
    exact ⟨rfl, rfl⟩
  | succ n ih =>
    obtain ⟨middle, hstep, hrest⟩ := Option.bind_eq_some_iff.mp h
    have hserve : middle.flusher = e.flusher ∧ middle.watches = e.watches := by
      cases transition_of_step hstep with
      | serve => exact ⟨rfl, rfl⟩
    obtain ⟨hflusher, hwatches⟩ := ih hrest
    exact ⟨hflusher.trans hserve.1, hwatches.trans hserve.2⟩

theorem exists_answer (hasker : IsAsker caller) (h : run env actions {} = some e)
    {earlier : List Stage} {s : Stage} (hpath : path env actions {} = earlier ++ s :: since)
    (hcall : s.call? = some (caller,.snapshot))
    (hquiet : ∀ t ∈ since, t.action.caller? ≠ some caller) (handle : e.hasHandles = true) :
    ∃ served targets rest, run env (List.replicate e.requests.length .serve) e = some served ∧
      takeReply caller served.replies = some (.targets targets,rest) := by
  obtain ⟨served, hserves, hnone⟩ :=
    run_serves env (running_of_handle (traffic_run h).closed handle)
  have hwhole : path env (actions ++ List.replicate e.requests.length .serve) {} =
      earlier ++ s :: (since ++ path env (List.replicate e.requests.length .serve) e) := by
    rw [path_append h, hpath, List.append_assoc, List.cons_append]
  have hi := inquiry_run hasker ((run_append h).trans hserves) hwhole hcall fun t ht => by
    rcases List.mem_append.mp ht with hold | hnew
    · exact hquiet t hold
    · rw [List.eq_of_mem_replicate (action_of_mem_path hnew)]
      simp [Action.caller?]
  obtain ⟨registry, rest, -, got⟩ := (takeReply_of_inquiry hi).resolve_left (by simp [hnone])
  exact ⟨served, registry.values, rest, hserves, got⟩

end WorkloadScan.Engine
