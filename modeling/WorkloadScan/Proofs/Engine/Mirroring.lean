import WorkloadScan.Proofs.Engine.Exchange
import WorkloadScan.Proofs.Integration.Mirror

/-! The reconciler within the engine. Whatever the other tasks do, the calls it has made and those
it still has to make lead the registry to where its events, handled one after another, lead it. -/
namespace WorkloadScan.Engine
open Cluster (Event)
open Reconciler (TokenReader IsPlain keyOf View IsWatch target? handleAll)
open Registry (carryOut get?_carryOut_congr)
variable {env : Env} {e next : Engine} {a : Action}

def Env.reading (env : Env) (read : TokenReader) : Env := { env with readToken := read }

/-- A run in which tokens may change: each action comes with the tokens of its time. -/
def runReading (env : Env) : List (TokenReader × Action) → Engine → Option Engine
  | [], e => some e
  | (read,a)::rest, e => (step (env.reading read) a e).bind (runReading env rest)

def delivered? : TokenReader × Action → Option (TokenReader × Event Integration)
  | (read,.integrationEvent event) => some (read,event)
  | _ => none

/-- The events handled in a run, with the tokens of their time. -/
def delivered (actions : List (TokenReader × Action)) : List (TokenReader × Event Integration) :=
  actions.filterMap delivered?

/-- A request that has nothing to do with integrations. -/
def Spares : Registry.Request → Prop
  | .add key _ | .delete key => ∀ n, IsPlain n → key ≠ keyOf n
  | .snapshot => True

/-! ### The reconciler's calls -/

def unasked : Option Reconciling → List Registry.Request
  | some (.moving _ moves false) => Reconciler.requests moves
  | some (.moving _ (_::moves) true) => Reconciler.requests moves
  | _ => []

def awaited : Option Reconciling → Nat
  | some (.moving _ (.request _::_) true) => 1
  | _ => 0

def current : Option Reconciling → Option Reconciler
  | none => some {}
  | some (.ready r) | some (.moving r _ _) => some r
  | some .stopped => none

/-- A reconciler that is busy has moves left. -/
def IsProper : Option Reconciling → Prop
  | some (.moving _ [] _) => False
  | _ => True

def queued (requests : List (Caller × Registry.Request)) : List Registry.Request :=
  (ofCaller .reconciler requests).map Prod.snd

/-- The requests of the reconciler that are still to be carried out. -/
def ahead (e : Engine) : List Registry.Request := queued e.requests ++ unasked e.reconciling

def inFlight (e : Engine) : Nat :=
  (ofCaller .reconciler e.requests).length + (ofCaller .reconciler e.replies).length

theorem unasked_afterMoves (r : Reconciler) (moves : List Reconciler.Move) :
    unasked (some (afterMoves r moves)) = Reconciler.requests moves := by
  cases moves <;> rfl

theorem awaited_afterMoves (r : Reconciler) (moves : List Reconciler.Move) :
    awaited (some (afterMoves r moves)) = 0 := by
  cases moves with
  | nil => rfl
  | cons move moves => cases move <;> rfl

theorem current_afterMoves (r : Reconciler) (moves : List Reconciler.Move) :
    current (some (afterMoves r moves)) = some r := by
  cases moves <;> rfl

theorem isProper_afterMoves (r : Reconciler) (moves : List Reconciler.Move) :
    IsProper (some (afterMoves r moves)) := by
  cases moves <;> trivial

/-- The reconciler's calls lead from the engine's state to a given one. -/
structure Follows (transport : Transport) (s : Reconciler × Registry) (e : Engine) : Prop where
  closed : e.IsClosed
  proper : IsProper e.reconciling
  reconciler : ∀ r ∈ current e.reconciling, r = s.1
  single : inFlight e = awaited e.reconciling
  agrees : ∀ n, IsPlain n →
    (carryOut transport (ahead e) e.registry).get? (keyOf n) = s.2.get? (keyOf n)
  others : ∀ call ∈ e.requests, call.1 ≠ .reconciler → Spares call.2

theorem get?_apply_of_spares {transport : Transport} {q : Registry.Request} {reg : Registry}
    {n : String × String} (hspares : Spares q) (hn : IsPlain n) :
    (reg.apply transport q).get? (keyOf n) = reg.get? (keyOf n) := by
  rw [Registry.get?_apply]
  cases q with
  | add key spec | delete key => exact Function.update_of_ne (hspares n hn).symm _ _
  | snapshot => rfl

variable {transport : Transport} {s : Reconciler × Registry}

theorem queued_concat_of_ne {caller : Caller} (h : caller ≠ .reconciler)
    (requests : List (Caller × Registry.Request)) (q : Registry.Request) :
    queued (requests ++ [(caller,q)]) = queued requests := by
  simp [queued, ofCaller_cons_of_ne h]

theorem agrees_of_serve (h : Follows transport s e) {caller : Caller} {q : Registry.Request}
    {rest : List (Caller × Registry.Request)} (hrequests : e.requests = (caller,q) :: rest)
    (hrest : next.requests = rest) (hreconciling : next.reconciling = e.reconciling)
    (hregistry : next.registry = e.registry.apply transport q) {n : String × String}
    (hn : IsPlain n) :
    (carryOut transport (ahead next) next.registry).get? (keyOf n) = s.2.get? (keyOf n) := by
  rw [← h.agrees n hn, hregistry]
  by_cases hcaller : caller = .reconciler
  · have hahead : ahead e = q :: ahead next := by
      simp [ahead, queued, hrequests, hrest, hreconciling, hcaller]
    rw [hahead]
    rfl
  · have hahead : ahead e = ahead next := by
      simp [ahead, queued, hrequests, hrest, hreconciling, ofCaller_cons_of_ne hcaller]
    have hspares : Spares q := h.others (caller,q) (by simp [hrequests]) hcaller
    rw [hahead]
    exact get?_carryOut_congr _ (get?_apply_of_spares hspares hn)

theorem follows_of_ahead (h : Follows transport s e) (hclosed : next.IsClosed)
    (hproper : IsProper next.reconciling)
    (hcurrent : ∀ r ∈ current next.reconciling, r ∈ current e.reconciling)
    (hsingle : inFlight next = awaited next.reconciling) (hahead : ahead next = ahead e)
    (hregistry : next.registry = e.registry)
    (hothers : ∀ call ∈ next.requests, call ∈ e.requests ∨ call.1 = .reconciler ∨ Spares call.2) :
    Follows transport s next where
  closed := hclosed
  proper := hproper
  reconciler r hr := h.reconciler r (hcurrent r hr)
  single := hsingle
  agrees := by
    rw [hahead, hregistry]
    exact h.agrees
  others call hcall hne := by
    rcases hothers call hcall with hold | hself | hspares
    · exact h.others call hold hne
    · exact absurd hself hne
    · exact hspares

theorem follows_of_others (h : Follows transport s e) (hclosed : next.IsClosed)
    (hx : Exchange transport e a next) (hreconciling : next.reconciling = e.reconciling)
    (hother : a.caller? ≠ some .reconciler) (hspares : ∀ n q, a = .request n q → Spares q) :
    Follows transport s next := by
  have hcurrent : ∀ r ∈ current next.reconciling, r ∈ current e.reconciling := by
    rw [hreconciling]
    exact fun r => id
  have hproper : IsProper next.reconciling := hreconciling ▸ h.proper
  have hsingle (hflight : inFlight next = inFlight e) :
      inFlight next = awaited next.reconciling := by
    rw [hflight, hreconciling]
    exact h.single
  cases hx with
  | none _ _ _ registry requests replies =>
    refine follows_of_ahead h hclosed hproper hcurrent (hsingle ?_) ?_ registry ?_
    · simp only [inFlight, requests, replies]
    · simp only [ahead, requests, hreconciling]
    · rw [requests]
      exact fun call => .inl
  | @ask caller q _ _ _ own query handle registry requests replies =>
    have hcaller : caller ≠ .reconciler := by
      rintro rfl
      exact hother own
    rw [ask_of_running (running_of_handle h.closed handle)] at requests replies
    refine follows_of_ahead h hclosed hproper hcurrent (hsingle ?_) ?_ registry ?_
    · simp [inFlight, requests, replies, ofCaller_cons_of_ne hcaller]
    · simp only [ahead, requests, hreconciling, queued_concat_of_ne hcaller]
    · intro call hcall
      rw [requests] at hcall
      rcases List.mem_append.mp hcall with hold | hnew
      · exact .inl hold
      · rw [List.mem_singleton.mp hnew]
        rcases query with rfl | ⟨n, ha⟩ | ha
        · exact .inr (.inr trivial)
        · exact .inr (.inr (hspares n q ha))
        · rw [ha] at hother
          exact absurd rfl hother
  | @serve caller q rest _ _ _ running waiting registry requests replies =>
    refine ⟨hclosed, hproper, fun r hr => h.reconciler r (hcurrent r hr), hsingle ?_, ?_, ?_⟩
    · by_cases hcaller : caller = .reconciler
      · simp [inFlight, waiting, requests, replies, hcaller]
        omega
      · simp [inFlight, waiting, requests, replies, ofCaller_cons_of_ne hcaller]
    · intro n hn
      exact agrees_of_serve h waiting requests hreconciling registry hn
    · intro call hcall hne
      rw [requests] at hcall
      exact h.others call (by rw [waiting]; exact List.mem_cons_of_mem _ hcall) hne
  | @receive caller reply rest _ _ _ own got registry requests replies =>
    have hcaller : caller ≠ .reconciler := by
      rintro rfl
      exact hother own
    refine follows_of_ahead h hclosed hproper hcurrent (hsingle ?_) ?_ registry ?_
    · simp [inFlight, requests, replies, ofCaller_takeReply got, ofCaller_cons_of_ne hcaller]
    · simp only [ahead, requests, hreconciling]
    · rw [requests]
      exact fun call => .inl

/-- Where an event has led the reconciler once its requests are carried out. -/
def ledTo (transport : Transport) (read : TokenReader) (s : Reconciler × Registry)
    (a : Action) : Reconciler × Registry :=
  handleAll transport s (delivered? (read,a)).toList

theorem ahead_of_ready (h : Follows transport s e) (hawaited : awaited e.reconciling = 0)
    (hunasked : unasked e.reconciling = []) : ahead e = [] := by
  have hflight : inFlight e = 0 := h.single.trans hawaited
  have hnone : ofCaller .reconciler e.requests = [] :=
    List.length_eq_zero_iff.mp (Nat.eq_zero_of_add_eq_zero hflight).1
  simp [ahead, queued, hnone, hunasked]

theorem follows_integrationEvent {r : Reconciler} {event : Event Integration}
    (h : Follows env.transport s e) (hclosed : next.IsClosed)
    (hready : e.reconciling = some (.ready r))
    (hnext : next = { e with reconciling := some (afterMoves (r.handle env.readToken event).1
      (r.handle env.readToken event).2) }) :
    Follows env.transport (handleAll env.transport s [(env.readToken,event)]) next := by
  have hr : r = s.1 := h.reconciler r (by rw [hready]; rfl)
  have hahead : ahead e = [] := by
    refine ahead_of_ready h ?_ ?_ <;> rw [hready] <;> rfl
  have hqueued : queued e.requests = [] := (List.append_eq_nil_iff.mp hahead).1
  subst hr hnext
  refine ⟨hclosed, isProper_afterMoves _ _, ?_, ?_, ?_, h.others⟩
  · rw [current_afterMoves]
    rintro r ⟨⟩
    rfl
  · rw [awaited_afterMoves]
    exact h.single.trans (by rw [hready]; rfl)
  · intro n hn
    have hnow := h.agrees n hn
    rw [hahead] at hnow
    simp only [ahead, hqueued, List.nil_append, unasked_afterMoves]
    exact get?_carryOut_congr _ hnow

theorem follows_proceedAsk {r : Reconciler} {q : Registry.Request} {moves : List Reconciler.Move}
    (h : Follows transport s e) (hclosed : next.IsClosed)
    (moving : e.reconciling = some (.moving r (.request q :: moves) false))
    (hasked : next.reconciling = some (.moving r (.request q :: moves) true))
    (hregistry : next.registry = e.registry)
    (hrequests : next.requests = e.requests ++ [(.reconciler,q)])
    (hreplies : next.replies = e.replies) : Follows transport s next := by
  have hnone : inFlight e = 0 := h.single.trans (by rw [moving]; rfl)
  refine follows_of_ahead h hclosed (by rw [hasked]; trivial) ?_ ?_ ?_ hregistry ?_
  · rw [hasked, moving]
    exact fun r => id
  · have hone : awaited next.reconciling = 1 := by rw [hasked]; rfl
    rw [hone]
    simp only [inFlight, hrequests, hreplies, ofCaller_append, ofCaller_cons_self, ofCaller_nil,
      List.length_append, List.length_cons, List.length_nil] at hnone ⊢
    omega
  · rw [ahead, hrequests, hasked, ahead, moving]
    simp [queued, unasked]
  · intro call hcall
    rw [hrequests] at hcall
    rcases List.mem_append.mp hcall with hold | hnew
    · exact .inl hold
    · rw [List.mem_singleton.mp hnew]
      exact .inr (.inl rfl)

/-- A step keeps the reconciler on the way to the state to which its events lead. -/
theorem follows_transition (h : Follows env.transport s e) (ht : Transition env e a next)
    (hspares : ∀ n q, a = .request n q → Spares q) :
    Follows env.transport (ledTo env.transport env.readToken s a) next := by
  have hclosed : next.IsClosed := isClosed_transition ht h.closed
  have hold : ∀ call ∈ e.requests, call ∈ e.requests ∨ call.1 = .reconciler ∨ Spares call.2 :=
    fun call => .inl
  have hx : Exchange env.transport e a next := exchange_of_transition ht
  cases ht with
  | integrationEvent ready => exact follows_integrationEvent h hclosed ready rfl
  | startReconciler held unstarted =>
    refine follows_of_ahead h hclosed trivial ?_ ?_ ?_ rfl hold
    · rw [unstarted]
      exact fun r => id
    · exact h.single.trans (by rw [unstarted]; rfl)
    · simp only [ahead, unstarted, unasked]
  | endIntegrations ready =>
    refine follows_of_ahead h hclosed trivial (fun r hr => by cases hr) ?_ ?_ rfl hold
    · exact h.single.trans (by rw [ready]; rfl)
    · simp [ahead, note, ready, unasked]
  | quitReconciler shutdown ready =>
    refine follows_of_ahead h hclosed trivial (fun r hr => by cases hr) ?_ ?_ rfl hold
    · exact h.single.trans (by rw [ready]; rfl)
    · simp [ahead, note, ready, unasked]
  | @proceedNote r notice moves asked moving =>
    refine follows_of_ahead h hclosed (isProper_afterMoves _ _) ?_ ?_ ?_ rfl hold
    · rw [current_afterMoves, moving]
      exact fun r => id
    · rw [awaited_afterMoves]
      exact h.single.trans (by rw [moving]; rfl)
    · change queued e.requests ++ unasked (some (afterMoves r moves)) = ahead e
      rw [unasked_afterMoves, ahead, moving]
      cases asked <;> rfl
  | @proceedAsk r q moves moving =>
    have hrunning := running_of_handle h.closed (hasHandles_of_reconciling moving rfl)
    rw [ask_of_running] at hclosed ⊢
    · exact follows_proceedAsk h hclosed moving rfl rfl rfl rfl
    all_goals exact hrunning
  | @proceedReceive r q moves reply rest moving got =>
    refine follows_of_ahead h hclosed (isProper_afterMoves _ _) ?_ ?_ ?_ rfl hold
    · rw [current_afterMoves, moving]
      exact fun r => id
    · have hsingle : inFlight e = 1 := h.single.trans (by rw [moving]; rfl)
      rw [awaited_afterMoves]
      simp only [inFlight, ofCaller_takeReply got, ofCaller_cons_self, ofCaller_nil,
        List.length_append, List.length_cons, List.length_nil] at hsingle ⊢
      omega
    · change queued e.requests ++ unasked (some (afterMoves r moves)) = ahead e
      rw [unasked_afterMoves, ahead, moving]
      rfl
  | _ =>
    refine follows_of_others h hclosed hx ?_ ?_ hspares
    · simp [note, record, measure]
    · simp [Action.caller?]

/-! ### Whole runs -/

theorem follows_fresh (reg : Registry) :
    Follows transport ({},reg) { registry := reg } where
  closed hstopped := by cases hstopped
  proper := trivial
  reconciler r hr := by cases hr; rfl
  single := rfl
  agrees _ _ := rfl
  others _ hcall := by cases hcall

theorem follows_run {actions : List (TokenReader × Action)} {e₀ : Engine}
    (h : Follows env.transport s e₀) (hrun : runReading env actions e₀ = some e)
    (hspares : ∀ read n q, (read,.request n q) ∈ actions → Spares q) :
    Follows env.transport (handleAll env.transport s (delivered actions)) e := by
  induction actions generalizing e₀ s with
  | nil =>
    cases hrun
    exact h
  | cons entry rest ih =>
    obtain ⟨read, a⟩ := entry
    obtain ⟨next, hstep, hrest⟩ := Option.bind_eq_some_iff.mp hrun
    have hbefore : Follows (env.reading read).transport s e₀ := h
    have hnext : Follows env.transport (ledTo env.transport read s a) next :=
      follows_transition hbefore (transition_of_step hstep)
        fun n q ha => hspares read n q (ha ▸ List.mem_cons_self)
    have hall := ih hnext hrest fun read n q hmem => hspares read n q (List.mem_cons_of_mem _ hmem)
    cases hd : delivered? (read,a) with
    | none =>
      rw [ledTo, hd] at hall
      rw [delivered, List.filterMap_cons_none hd]
      exact hall
    | some event =>
      rw [ledTo, hd] at hall
      rw [delivered, List.filterMap_cons_some hd]
      exact hall

/-! ### The handling of an event comes to its end -/

def IsBusy (e : Engine) : Prop := ∃ r moves asked, e.reconciling = some (.moving r moves asked)

theorem ahead_of_not_busy (h : Follows transport s e) (hidle : ¬e.IsBusy) : ahead e = [] := by
  cases hr : e.reconciling with
  | none => exact ahead_of_ready h (by rw [hr]; rfl) (by rw [hr]; rfl)
  | some r =>
    cases r with
    | ready | stopped => exact ahead_of_ready h (by rw [hr]; rfl) (by rw [hr]; rfl)
    | moving r moves asked => exact absurd ⟨r, moves, asked, hr⟩ hidle

/-- The registry and the reconciler go on, and nobody else. -/
def GoesOn (env : Env) (e next : Engine) : Prop :=
  ∃ actions, (∀ entry ∈ actions, entry.2 = .serve ∨ entry.2 = .proceed) ∧
    runReading env actions e = some next

theorem GoesOn.refl (env : Env) (e : Engine) : GoesOn env e e := ⟨[], by simp, rfl⟩

theorem GoesOn.step {middle : Engine} (ha : a = .serve ∨ a = .proceed)
    (hstep : Engine.step env a e = some middle) (h : GoesOn env middle next) :
    GoesOn env e next := by
  obtain ⟨actions, honly, hrun⟩ := h
  refine ⟨(env.readToken,a)::actions, ?_, ?_⟩
  · intro entry hentry
    rcases List.mem_cons.mp hentry with rfl | hentry
    · exact ha
    · exact honly entry hentry
  · exact Option.bind_eq_some_iff.mpr ⟨middle, hstep, hrun⟩

theorem goesOn_of_served (hrunning : e.service ≠ .stopped) (h : Follows env.transport s e)
    (hserved : ∀ served, Follows env.transport s served → served.requests = [] →
      served.reconciling = e.reconciling → ∃ next, GoesOn env served next ∧ ¬next.IsBusy) :
    ∃ next, GoesOn env e next ∧ ¬next.IsBusy := by
  induction hq : e.requests generalizing e with
  | nil => exact hserved e h hq rfl
  | cons call rest ih =>
    obtain ⟨middle, hstep, hrequests, hservice, hreconciling⟩ :=
      exists_serve env hrunning hq
    have hmiddle : Follows env.transport s middle :=
      follows_transition h (transition_of_step hstep) (fun n q ha => by cases ha)
    obtain ⟨next, hgoes, hidle⟩ := ih (by rwa [hservice]) hmiddle
      (fun served hs hnil hsame => hserved served hs hnil (hsame.trans hreconciling)) hrequests
    exact ⟨next, .step (.inl rfl) hstep hgoes, hidle⟩

theorem exists_reply_of_served (h : Follows transport s e) (hserved : e.requests = [])
    (hawaited : awaited e.reconciling = 1) :
    ∃ reply rest, takeReply .reconciler e.replies = some (reply,rest) := by
  have hflight : inFlight e = 1 := h.single.trans hawaited
  rw [inFlight, hserved] at hflight
  have hone : (ofCaller .reconciler e.replies).length = 1 := by simpa using hflight
  obtain ⟨⟨caller, reply⟩, hentry⟩ := List.length_eq_one_iff.mp hone
  have hmem : (caller,reply) ∈ ofCaller .reconciler e.replies := by simp [hentry]
  obtain ⟨hmem, hcaller⟩ := List.mem_filter.mp hmem
  simp only [decide_eq_true_eq] at hcaller
  subst hcaller
  exact exists_takeReply hmem

theorem goesOn_of_proceed {middle : Engine} (h : Follows env.transport s e)
    (hstep : step env .proceed e = some middle)
    (hmiddle : Follows env.transport s middle → ∃ next, GoesOn env middle next ∧ ¬next.IsBusy) :
    ∃ next, GoesOn env e next ∧ ¬next.IsBusy := by
  obtain ⟨next, hgoes, hidle⟩ := hmiddle
    (follows_transition h (transition_of_step hstep) (fun n q ha => by cases ha))
  exact ⟨next, .step (.inr rfl) hstep hgoes, hidle⟩

theorem goesOn_of_asked {r : Reconciler} {q : Registry.Request} {moves : List Reconciler.Move}
    (h : Follows env.transport s e)
    (hmoving : e.reconciling = some (.moving r (.request q :: moves) true))
    (hafter : ∀ middle, Follows env.transport s middle →
      middle.reconciling = some (afterMoves r moves) →
      ∃ next, GoesOn env middle next ∧ ¬next.IsBusy) :
    ∃ next, GoesOn env e next ∧ ¬next.IsBusy := by
  have hrunning := running_of_handle h.closed (hasHandles_of_reconciling hmoving rfl)
  refine goesOn_of_served hrunning h ?_
  intro served hserved hnil hsame
  rw [hmoving] at hsame
  obtain ⟨reply, rest, got⟩ := exists_reply_of_served hserved hnil (by rw [hsame]; rfl)
  have hstep : step env .proceed served =
      some { served with replies := rest, reconciling := some (afterMoves r moves) } := by
    simp [step, proceed, hsame, receive?, got]
  exact goesOn_of_proceed hserved hstep fun hmiddle => hafter _ hmiddle rfl

theorem goesOn_of_moving {r : Reconciler} {moves : List Reconciler.Move} {asked : Bool}
    (h : Follows env.transport s e) (hmoving : e.reconciling = some (.moving r moves asked)) :
    ∃ next, GoesOn env e next ∧ ¬next.IsBusy := by
  induction moves generalizing e asked with
  | nil =>
    have hproper := h.proper
    rw [hmoving] at hproper
    exact hproper.elim
  | cons move rest ih =>
    have hafter (middle : Engine) (hfollows : Follows env.transport s middle)
        (hmiddle : middle.reconciling = some (afterMoves r rest)) :
        ∃ next, GoesOn env middle next ∧ ¬next.IsBusy := by
      cases rest with
      | nil =>
        refine ⟨middle, .refl env middle, ?_⟩
        rintro ⟨_, _, _, hbusy⟩
        rw [hmiddle] at hbusy
        cases hbusy
      | cons => exact ih hfollows hmiddle
    cases move with
    | note notice =>
      have hstep : step env .proceed e =
          some { e.note [notice] with reconciling := some (afterMoves r rest) } := by
        simp [step, proceed, hmoving]
      exact goesOn_of_proceed h hstep fun hmiddle => hafter _ hmiddle rfl
    | request q =>
      cases asked with
      | true => exact goesOn_of_asked h hmoving hafter
      | false =>
        have hstep : step env .proceed e = some (ask .reconciler q
            { e with reconciling := some (.moving r (.request q :: rest) true) }) := by
          simp [step, proceed, hmoving]
        exact goesOn_of_proceed h hstep fun hmiddle =>
          goesOn_of_asked hmiddle (ask_reconciling ..) hafter

theorem goesOn_until_idle (h : Follows env.transport s e) :
    ∃ next, GoesOn env e next ∧ ¬next.IsBusy := by
  by_cases hbusy : e.IsBusy
  · obtain ⟨r, moves, asked, hmoving⟩ := hbusy
    exact goesOn_of_moving h hmoving
  · exact ⟨e, .refl env e, hbusy⟩

/-- The registry has the targets of the integrations in the cluster, and no others under their
keys, whenever no list is open and the reconciler is not busy with an event. So it is if each event
is handled to its end before the next one, and in the engine, whatever order its tasks work in;
there the registry and the reconciler can always bring the handling of an event to its end. -/
theorem registry_mirrors_cluster (env : Env) (reg : Registry)
    (hfresh : ∀ n, IsPlain n → reg.get? (keyOf n) = none) :
    (∀ events, IsWatch false (events.map Prod.snd) → (View.run {} events).listed = none →
      ∀ n, IsPlain n → (handleAll env.transport ({},reg) events).2.get? (keyOf n) =
        ((View.run {} events).objects n).bind (target? env.transport)) ∧
    ∀ actions e, runReading env actions { registry := reg } = some e →
      (∀ read n q, (read,.request n q) ∈ actions → Spares q) →
      (∃ next, GoesOn env e next ∧ ¬next.IsBusy) ∧
      (IsWatch false ((delivered actions).map Prod.snd) →
        (View.run {} (delivered actions)).listed = none → ¬e.IsBusy →
        ∀ n, IsPlain n → e.registry.get? (keyOf n) =
          ((View.run {} (delivered actions)).objects n).bind (target? env.transport)) := by
  have hpure (events) (hwatch : IsWatch false (events.map Prod.snd))
      (hlisted : (View.run {} events).listed = none) (n) (hn : IsPlain n) :
      (handleAll env.transport ({},reg) events).2.get? (keyOf n) =
        ((View.run {} events).objects n).bind (target? env.transport) := by
    have hstart : Reconciler.Mirrors env.transport {} {} reg := Reconciler.mirrors_fresh hfresh
    exact (Reconciler.mirrors_handleAll (s := ({},reg)) hstart hwatch).outside hlisted n hn
  refine ⟨hpure, ?_⟩
  intro actions e hrun hspares
  have hfollows := follows_run (follows_fresh reg) hrun hspares
  refine ⟨goesOn_until_idle hfollows, ?_⟩
  intro hwatch hlisted hidle n hn
  have hagrees := hfollows.agrees n hn
  rw [ahead_of_not_busy hfollows hidle] at hagrees
  exact hagrees.trans (hpure _ hwatch hlisted n hn)

/-- Two integrations are listed. The token of one cannot be read in a second list, which is cut
short, and a third one names neither of them. -/
theorem registry_mirrors_relists :
    let env : Env := .calm {}
    let integration (name : String) : Integration :=
      ⟨{ name, ns := "tenants" }, true, "http://scan", name, some ⟨"scan", "token"⟩, [], []⟩
    let read : TokenReader := fun _ _ => .ok "s3cr3t"
    let unreadable : TokenReader := fun _ _ => .error .unavailable
    let handling (read : TokenReader) (event : Event Integration) : List (TokenReader × Action) :=
      [(read,.integrationEvent event), (read,.proceed), (read,.proceed), (read,.serve),
        (read,.proceed)]
    let actions : List (TokenReader × Action) :=
      [(read,.startReconciler), (read,.integrationEvent .listing)] ++
        handling read (.listed (integration "acme")) ++
        handling read (.listed (integration "initech")) ++
        [(read,.integrationEvent .listComplete), (read,.integrationEvent .listing)] ++
        handling unreadable (.listed (integration "acme")) ++
        [(read,.integrationEvent .listing)] ++
        handling read (.listed (integration "hooli")) ++ handling read .listComplete
    (∀ n, IsPlain n → (Table.empty : Registry).get? (keyOf n) = none) ∧
      ∃ e, runReading env actions { registry := .empty } = some e ∧
        e.registry.get? "tenants/acme" = none ∧ e.registry.get? "tenants/initech" = none ∧
        e.registry.get? "tenants/hooli" = some
          ⟨"tenants/hooli", "http://scan", "hooli", .ofTexts [] [], ⟨"http://scan", "s3cr3t"⟩⟩ := by
  intro env integration read unreadable handling actions
  have hfresh : ∀ n, IsPlain n → (Table.empty : Registry).get? (keyOf n) = none :=
    fun _ _ => rfl
  have hready : (runReading env actions { registry := .empty }).map Engine.reconciling =
      some (some (.ready { known := ["tenants/hooli"] })) := by
    decide +kernel
  obtain ⟨e, hrun, hidle⟩ := Option.map_eq_some_iff.mp hready
  have hmirror := ((registry_mirrors_cluster env .empty hfresh).2 actions e hrun
    (by simp [actions, handling])).2 ⟨rfl, rfl, rfl, rfl, rfl, rfl, trivial⟩ rfl
    (by rintro ⟨_, _, _, h⟩; rw [h] at hidle; cases hidle)
  have htenants : '/' ∉ "tenants".toList := by decide
  have hplain (name : String) (hname : '/' ∉ name.toList) : IsPlain ("tenants",name) :=
    ⟨htenants, hname⟩
  refine ⟨hfresh, e, hrun, ?_, ?_, ?_⟩
  · exact (hmirror _ (hplain "acme" (by decide))).trans (by decide +kernel)
  · exact (hmirror _ (hplain "initech" (by decide))).trans (by decide +kernel)
  · exact (hmirror _ (hplain "hooli" (by decide))).trans (by decide +kernel)

end WorkloadScan.Engine
