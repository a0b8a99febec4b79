import WorkloadScan.Proofs.Engine.Mirroring
import WorkloadScan.Settings.Basic

/-! What integrations leave alone. Whatever the events of their watch, in an order that a watch
would give or not, the reconciler's requests are for the keys of integrations that were reported. -/
namespace WorkloadScan

def Cluster.Event.object? {α : Type} : Cluster.Event α → Option α
  | .applied object | .deleted object | .listed object => some object
  | .listing | .listComplete => none

namespace Integration
variable {i j : Integration} {n m : String × String}

theorem slash_mem_key (i : Integration) : '/' ∈ i.key.toList := by
  simp [key]

/-- The integration has a namespace and a name of its own, with no slash in them. -/
def IsNamed (i : Integration) (n : String × String) : Prop :=
  i.metadata.ns = some n.1 ∧ i.metadata.name = some n.2 ∧ Reconciler.IsPlain n

theorem IsNamed.key_eq (h : i.IsNamed n) : i.key = Reconciler.keyOf n := by
  obtain ⟨hns, hname, -⟩ := h
  simp [key, ns, Cluster.Object.nameOrStem, hns, hname, Reconciler.keyOf]

theorem IsNamed.key_ne (hi : i.IsNamed n) (hj : j.IsNamed m) (hne : n ≠ m) : i.key ≠ j.key := by
  rw [hi.key_eq, hj.key_eq]
  exact mt (Reconciler.keyOf_injective hi.2.2) hne

end Integration

namespace Reconciler
open Cluster (Event)
open Registry (carryOut get?_carryOut_of_ne)
variable {transport : Transport} {read : TokenReader} {i : Integration} {r : Reconciler}
  {reg : Registry} {k : String} {event : Event Integration} {q : Registry.Request}

def IsAbout (event : Event Integration) (k : String) : Prop := ∃ i ∈ event.object?, i.key = k

theorem not_isAbout_of_not_mem (h : '/' ∉ k.toList) : ¬IsAbout event k := by
  rintro ⟨i, -, rfl⟩
  exact h i.slash_mem_key

theorem mem_known_apply (h : k ∈ (apply read i r).1.known) : i.key = k ∨ k ∈ r.known := by
  have hdelete (hk : k ∈ removeKey i.key r.known) : i.key = k ∨ k ∈ r.known :=
    .inr (List.mem_filter.mp hk).1
  unfold apply at h
  split at h
  · split at h
    · exact (mem_insertKey.mp h).imp_left Eq.symm
    · exact hdelete h
  · exact hdelete h

theorem mem_known_handle (h : k ∈ (r.handle read event).1.known) :
    IsAbout event k ∨ k ∈ r.known := by
  cases event with
  | applied i => exact (mem_known_apply h).imp_left fun hkey => ⟨i, rfl, hkey⟩
  | listed i => exact (mem_known_apply h).imp_left fun hkey => ⟨i, rfl, hkey⟩
  | deleted i => exact .inr (List.mem_filter.mp h).1
  | listing => exact .inr h
  | listComplete => exact .inr (List.mem_filter.mp h).1

theorem key?_of_mem_apply (hq : q ∈ requests (apply read i r).2) : q.key? = some i.key := by
  unfold apply at hq
  split at hq
  · split at hq
    all_goals
      obtain rfl := List.mem_singleton.mp hq
      rfl
  · obtain rfl := List.mem_singleton.mp hq
    rfl

theorem key?_of_mem_handle (hq : q ∈ requests (r.handle read event).2) (hkey : q.key? = some k) :
    IsAbout event k ∨ event = .listComplete ∧ k ∈ r.known := by
  cases event with
  | applied i =>
    exact .inl ⟨i, rfl, Option.some_inj.mp ((key?_of_mem_apply hq).symm.trans hkey)⟩
  | listed i =>
    exact .inl ⟨i, rfl, Option.some_inj.mp ((key?_of_mem_apply hq).symm.trans hkey)⟩
  | deleted i =>
    obtain rfl := List.mem_singleton.mp hq
    exact .inl ⟨i, rfl, Option.some_inj.mp hkey⟩
  | listing => cases hq
  | listComplete =>
    simp only [handle, completeList, requests_flatMap_vanished] at hq
    obtain ⟨key, hstale, rfl⟩ := List.mem_map.mp hq
    obtain rfl := Option.some_inj.mp hkey
    exact .inr ⟨rfl, (List.mem_filter.mp hstale).1⟩

theorem get?_handle_of_ne (hother : ¬IsAbout event k)
    (hknown : event = .listComplete → k ∉ r.known) :
    (carryOut transport (requests (r.handle read event).2) reg).get? k = reg.get? k := by
  refine get?_carryOut_of_ne fun q hq hkey => ?_
  rcases key?_of_mem_handle hq hkey with habout | ⟨hend, hk⟩
  · exact hother habout
  · exact hknown hend hk

theorem get?_handleAll {s : Reconciler × Registry} {events : List (TokenReader × Event Integration)}
    (hknown : k ∉ s.1.known) (hothers : ∀ event ∈ events, ¬IsAbout event.2 k) :
    (handleAll transport s events).2.get? k = s.2.get? k := by
  induction events generalizing s with
  | nil => rfl
  | cons event rest ih =>
    obtain ⟨hother, hrest⟩ := List.forall_mem_cons.mp hothers
    have hnext : k ∉ (s.1.handle event.1 event.2).1.known := fun hk =>
      (mem_known_handle hk).elim hother hknown
    exact (ih hnext hrest).trans (get?_handle_of_ne hother fun _ => hknown)

end Reconciler

/-! ### The reconciler within the engine -/

namespace Engine
open Cluster (Event)
open Reconciler (TokenReader IsAbout handleAll)
open Registry (carryOut)
variable {env : Env} {e next : Engine} {a : Action} {k : String}

/-- The reconciler does not know a key, and none of its requests that are still to be served is for
it. -/
structure SparesKey (k : String) (e : Engine) : Prop where
  known : ∀ r ∈ current e.reconciling, k ∉ r.known
  asks : ∀ q ∈ ahead e, q.key? ≠ some k

theorem sparesKey_fresh (k : String) (reg : Registry) : SparesKey k { registry := reg } where
  known r hr := by cases hr; exact List.not_mem_nil
  asks q hq := by cases hq

theorem SparesKey.mono (h : SparesKey k e)
    (hcurrent : ∀ r ∈ current next.reconciling, r ∈ current e.reconciling)
    (hahead : ∀ q ∈ ahead next, q ∈ ahead e) : SparesKey k next where
  known r hr := h.known r (hcurrent r hr)
  asks q hq := h.asks q (hahead q hq)

theorem sparesKey_integrationEvent {r : Reconciler} {event : Event Integration}
    (h : SparesKey k e) (hother : ¬IsAbout event k) (hready : e.reconciling = some (.ready r))
    (hnext : next = { e with reconciling := some (afterMoves (r.handle env.readToken event).1
      (r.handle env.readToken event).2) }) : SparesKey k next := by
  have hknown : k ∉ r.known := h.known r (by rw [hready]; rfl)
  subst hnext
  refine ⟨?_, ?_⟩
  · rw [current_afterMoves]
    rintro r ⟨⟩ hk
    exact (Reconciler.mem_known_handle hk).elim hother hknown
  · intro q hq hkey
    simp only [ahead, unasked_afterMoves] at hq
    rcases List.mem_append.mp hq with hold | hnew
    · exact h.asks q (List.mem_append_left _ hold) hkey
    · exact (Reconciler.key?_of_mem_handle hnew hkey).elim hother fun hend => hknown hend.2

theorem mem_queued_ask {caller : Caller} {asked q : Registry.Request}
    (h : q ∈ queued (ask caller asked e).requests) :
    q ∈ queued e.requests ∨ caller = .reconciler ∧ q = asked := by
  unfold ask at h
  split at h
  · exact .inl h
  · by_cases hcaller : caller = .reconciler
    · subst hcaller
      simpa [queued] using h
    · exact .inl ((queued_concat_of_ne hcaller e.requests asked) ▸ h)

theorem mem_ahead_of_others {q : Registry.Request} (hx : Exchange env.transport e a next)
    (hreconciling : next.reconciling = e.reconciling) (hother : a.caller? ≠ some .reconciler)
    (hq : q ∈ ahead next) : q ∈ ahead e := by
  rw [ahead, hreconciling] at hq
  refine List.mem_append.mpr ((List.mem_append.mp hq).imp_left fun hqueued => ?_)
  cases hx with
  | none _ _ _ _ requests | receive _ _ _ _ _ _ requests =>
    rwa [requests] at hqueued
  | ask _ _ _ own _ _ _ requests =>
    rw [requests] at hqueued
    -- The reconciler alone asks in its own name.
    refine (mem_queued_ask hqueued).resolve_right ?_
    rintro ⟨rfl, -⟩
    exact hother own
  | @serve caller served rest _ _ _ _ waiting _ requests =>
    rw [waiting]
    rw [requests] at hqueued
    simp only [queued, ofCaller, List.filter_cons] at hqueued ⊢
    split
    · exact List.mem_cons_of_mem _ hqueued
    · exact hqueued

/-- Only an event gives the reconciler new keys to know and to ask for. -/
theorem sparesKey_transition (h : SparesKey k e) (ht : Transition env e a next)
    (hothers : ∀ event, a = .integrationEvent event → ¬IsAbout event k) : SparesKey k next := by
  have hx : Exchange env.transport e a next := exchange_of_transition ht
  cases ht with
  | @integrationEvent event _ ready =>
    exact sparesKey_integrationEvent h (hothers event rfl) ready rfl
  | startReconciler held unstarted =>
    refine h.mono ?_ ?_
    · rw [unstarted]
      exact fun r => id
    · simp [ahead, unstarted, unasked]
  | endIntegrations ready | quitReconciler shutdown ready =>
    refine h.mono (fun r hr => by cases hr) ?_
    simp [ahead, note, ready, unasked]
  | @proceedNote r notice moves asked moving =>
    refine h.mono ?_ ?_
    · rw [current_afterMoves, moving]
      exact fun r => id
    · intro q hq
      change q ∈ queued e.requests ++ unasked (some (afterMoves r moves)) at hq
      rw [unasked_afterMoves] at hq
      rw [ahead, moving]
      cases asked <;> exact hq
  | @proceedAsk r q moves moving =>
    refine h.mono ?_ ?_
    · rw [ask_reconciling, moving]
      exact fun r => id
    · intro q' hq
      rw [ahead, ask_reconciling] at hq
      rw [ahead, moving]
      rcases List.mem_append.mp hq with hqueued | hunasked
      · rcases mem_queued_ask hqueued with hold | ⟨-, rfl⟩
        · exact List.mem_append_left _ hold
        · exact List.mem_append_right _ List.mem_cons_self
      · exact List.mem_append_right _ (List.mem_cons_of_mem _ hunasked)
  | @proceedReceive r q moves reply rest moving got =>
    refine h.mono ?_ ?_
    · rw [current_afterMoves, moving]
      exact fun r => id
    · intro q hq
      change q ∈ queued e.requests ++ unasked (some (afterMoves r moves)) at hq
      rw [unasked_afterMoves] at hq
      rw [ahead, moving]
      exact hq
  | _ =>
    refine h.mono ?_ fun q => mem_ahead_of_others hx ?_ ?_
    · simp [note, record, measure]
    · simp [note, record, measure]
    · simp [Action.caller?]

theorem sparesKey_run {actions : List (TokenReader × Action)} {e₀ : Engine}
    (h : SparesKey k e₀) (hrun : runReading env actions e₀ = some e)
    (hothers : ∀ event ∈ delivered actions, ¬IsAbout event.2 k) : SparesKey k e := by
  induction actions generalizing e₀ with
  | nil =>
    cases hrun
    exact h
  | cons entry rest ih =>
    obtain ⟨read, a⟩ := entry
    obtain ⟨next, hstep, hrest⟩ := Option.bind_eq_some_iff.mp hrun
    refine ih (sparesKey_transition h (transition_of_step hstep) ?_) hrest ?_
    · rintro event rfl
      exact hothers (read,event) List.mem_cons_self
    · intro event hevent
      refine hothers event ?_
      cases hd : delivered? (read,a) with
      | none => rwa [delivered, List.filterMap_cons_none hd]
      | some first =>
        rw [delivered, List.filterMap_cons_some hd]
        exact List.mem_cons_of_mem _ hevent

theorem SparesKey.exists_other_of_changed (h : SparesKey k e) (hstep : step env a e = some next)
    (hchanged : next.registry.get? k ≠ e.registry.get? k) :
    ∃ caller q, Stage.served? ⟨e,a,next⟩ = some (caller,q) ∧ caller ≠ .reconciler ∧
      q.key? = some k := by
  cases exchange_of_transition (transition_of_step hstep) with
  | none _ _ _ registry | ask _ _ _ _ _ _ registry | receive _ _ _ _ _ registry =>
    rw [registry] at hchanged
    exact absurd rfl hchanged
  | @serve caller q rest _ served _ _ waiting registry =>
    have hkey : q.key? = some k := by
      by_contra hne
      rw [registry] at hchanged
      exact hchanged (Registry.get?_apply_of_ne hne)
    refine ⟨caller, q, served, ?_, hkey⟩
    rintro rfl
    exact h.asks q (by simp [ahead, queued, waiting]) hkey

/-- Whatever the events, the registration of a key that has no slash, such as that of the target of
the settings, stays as it is, and so does that of a key of no integration reported; within the
engine, whatever the other tasks do, it changes only when a request of somebody else is served. An
event that is not the end of a list changes only the registration of its own object, and the keys
of integrations that differ in namespace or name differ. -/
theorem integrations_spare_other_keys (env : Env) (reg : Registry) :
    '/' ∉ Settings.ownTarget.toList ∧
    (∀ (events : List (TokenReader × Event Integration)) (k : String),
      ('/' ∉ k.toList ∨ ∀ event ∈ events, ¬IsAbout event.2 k) →
      (handleAll env.transport ({},reg) events).2.get? k = reg.get? k) ∧
    (∀ (actions : List (TokenReader × Action)) (e : Engine) (k : String),
      runReading env actions { registry := reg } = some e →
      ('/' ∉ k.toList ∨ ∀ event ∈ delivered actions, ¬IsAbout event.2 k) →
      ∀ (read : TokenReader) (a : Action) (next : Engine),
        step (env.reading read) a e = some next →
        next.registry.get? k ≠ e.registry.get? k →
        ∃ caller q, Stage.served? ⟨e,a,next⟩ = some (caller,q) ∧ caller ≠ .reconciler ∧
          q.key? = some k) ∧
    (∀ (r : Reconciler) (read : TokenReader) (event : Event Integration) (now : Registry)
      (k : String), event ≠ .listComplete → ¬IsAbout event k →
      (carryOut env.transport (Reconciler.requests (r.handle read event).2) now).get? k =
        now.get? k) ∧
    (∀ (i j : Integration) (n m : String × String), i.IsNamed n → j.IsNamed m → n ≠ m →
      i.key ≠ j.key) := by
  have hothers {k : String} {events : List (TokenReader × Event Integration)}
      (h : '/' ∉ k.toList ∨ ∀ event ∈ events, ¬IsAbout event.2 k) :
      ∀ event ∈ events, ¬IsAbout event.2 k :=
    h.elim (fun hslash _ _ => Reconciler.not_isAbout_of_not_mem hslash) id
  refine ⟨by decide, ?_, ?_, ?_, ?_⟩
  · intro events k h
    exact Reconciler.get?_handleAll List.not_mem_nil (hothers h)
  · intro actions e k hrun h read a next hstep hchanged
    exact (sparesKey_run (sparesKey_fresh k reg) hrun (hothers h)).exists_other_of_changed hstep
      hchanged
  · intro r read event now k hend hother
    exact Reconciler.get?_handle_of_ne hother fun h => absurd h hend
  · intro i j n m hi hj hne
    exact hi.key_ne hj hne

/-- Lists end that never began, a list item comes outside any list and has neither a namespace nor
a name, and a user takes the target of the settings away. -/
theorem integrations_spare_other_keys_of_malformed :
    let env : Env := .calm {}
    let spec : Integration.Spec := ⟨true, "http://scan", "", none, [], []⟩
    let nameless : Integration := ⟨{}, spec⟩
    let acme : Integration := ⟨{ name := "acme", ns := "tenants" }, spec⟩
    let initech : Integration := ⟨{ name := "initech", ns := "tenants" }, spec⟩
    let own : Target := .ofSpec "static" { endpoint := "http://own", token := "s3cr3t" }
    let reg : Registry := Table.empty.insert "static" own
    let read : TokenReader := fun _ _ => .error .unavailable
    let events : List (TokenReader × Event Integration) :=
      [(read,.listComplete), (read,.listed nameless), (read,.applied acme), (read,.listComplete)]
    let actions : List (TokenReader × Action) :=
      [(read,.startReconciler), (read,.integrationEvent (.listed nameless)), (read,.proceed),
        (read,.proceed), (read,.request 0 (.delete "static")), (read,.serve)]
    (handleAll env.transport ({},reg) events).2.get? "static" = some own ∧
      (∃ e next, runReading env actions { registry := reg } = some e ∧
        step (env.reading read) .serve e = some next ∧ next.registry.get? "/" ≠ none ∧
        ∃ caller q, Stage.served? ⟨e,.serve,next⟩ = some (caller,q) ∧ caller ≠ .reconciler) ∧
      (∀ now : Registry, (carryOut env.transport (Reconciler.requests
        (Reconciler.handle read {} (.deleted acme)).2) now).get? initech.key =
          now.get? initech.key) := by
  intro env spec nameless acme initech own reg read events actions
  obtain ⟨hown, hpure, hengine, hevent, hkeys⟩ := integrations_spare_other_keys env reg
  refine ⟨(hpure events "static" (.inl hown)).trans (by decide), ?_, ?_⟩
  · have hserve : ((runReading env actions { registry := reg }).bind fun e =>
        (step (env.reading read) .serve e).map fun next =>
          (e.registry.get? "static",next.registry.get? "static",
            (next.registry.get? "/").isSome)) = some (some own,none,true) := by
      decide +kernel
    obtain ⟨e, hrun, hstep⟩ := Option.bind_eq_some_iff.mp hserve
    obtain ⟨next, hstep, hgets⟩ := Option.map_eq_some_iff.mp hstep
    simp only [Prod.mk.injEq, Option.isSome_iff_ne_none] at hgets
    obtain ⟨hbefore, hafter, hnameless⟩ := hgets
    obtain ⟨caller, q, hserved, hcaller, -⟩ := hengine actions e "static" hrun (.inl hown) read
      .serve next hstep (by rw [hbefore, hafter]; simp)
    exact ⟨e, next, hrun, hstep, hnameless, caller, q, hserved, hcaller⟩
  · have hacme : acme.IsNamed ("tenants","acme") := ⟨rfl, rfl, by decide, by decide⟩
    have hinitech : initech.IsNamed ("tenants","initech") := ⟨rfl, rfl, by decide, by decide⟩
    have hne := hkeys acme initech _ _ hacme hinitech (by decide)
    refine fun now => hevent {} read (.deleted acme) now initech.key (by decide) ?_
    rintro ⟨i, ⟨⟩, hkey⟩
    exact hne hkey

end Engine
end WorkloadScan
