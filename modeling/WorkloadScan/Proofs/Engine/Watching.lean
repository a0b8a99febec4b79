import WorkloadScan.Proofs.Engine.Exchange

/-! The tasks of the observers: what a step can do to one watch, and what the steps of a run tell
about the watches it leaves. -/
namespace WorkloadScan.Engine
variable {env : Env} {e next : Engine} {a : Action} {id : String} {actions : List Action}

/-- One constructor for each thing that a step can do to a watch. -/
inductive WatchMove (id : String) (e : Engine) (a : Action) (next : Engine) : Prop
  | stays (other : a.caller? ≠ some (.observer id))
      (same : next.watches.get? id = e.watches.get? id)
  | starts {kind : Kind} {watched : List Kind} (other : a.caller? ≠ some (.observer id))
      (unknown : e.watches.get? id = none)
      (left : next.watches.get? id = some { observer := { kind, watched } })
  | stops {w : Watch} (other : a.caller? ≠ some (.observer id))
      (found : e.watches.get? id = some w) (ready : w.phase = .ready)
      (left : next.watches.get? id = some { w with phase := .stopped })
  /-- An event gives the watch nothing to ask for. -/
  | passes {event : Cluster.Event Cluster.Object} {w : Watch} (action : a = .watchEvent id event)
      (found : e.watches.get? id = some w) (ready : w.phase = .ready)
      (spared : ∀ object, w.observer.changed? event = some object →
        w.observer.isRedundant object = true)
      (left : next.watches.get? id = some { w with observer := w.observer.afterEvent event })
  | asks {event : Cluster.Event Cluster.Object} {w : Watch} {object : Cluster.Object}
      (action : a = .watchEvent id event) (found : e.watches.get? id = some w)
      (ready : w.phase = .ready) (changed : w.observer.changed? event = some object)
      (needed : w.observer.isRedundant object = false)
      (left : next.watches.get? id = some { w with phase := .asking object })
  | resumes {w : Watch} {object : Cluster.Object} {targets : List Target}
      {replies : List (Caller × Registry.Reply)} (action : a = .resumeWatch id)
      (found : e.watches.get? id = some w) (asking : w.phase = .asking object)
      (got : takeReply (.observer id) e.replies = some (.targets targets,replies))
      (left : next.watches.get? id = some { w with phase := .ready })

theorem afterEvent_of_changed {o : Observer} {event : Cluster.Event Cluster.Object}
    {object : Cluster.Object} (h : o.changed? event = some object) : o.afterEvent event = o := by
  cases event with
  | applied | listed | deleted | listing => rfl
  | listComplete => cases h

theorem caller_ne {other : String} (h : other ≠ id) :
    some (Caller.observer other) ≠ some (.observer id) := by
  simpa using h

theorem watchMove_of_transition (id : String) (h : Transition env e a next) :
    WatchMove id e a next := by
  cases h with
  | @startWatch other kind watched held unknown =>
    by_cases hid : other = id
    · subst hid
      exact .starts (by simp [Action.caller?]) (by simpa [Table.contains] using unknown)
        (by rw [Table.get?_insert, if_pos rfl])
    · exact .stays (by simp [Action.caller?]) (Table.get?_insert_of_ne hid ..)
  | @passOver other event w found ready same =>
    by_cases hid : other = id
    · subst hid
      exact .passes rfl found ready (by simp [same]) (by simp)
    · exact .stays (caller_ne hid) (Table.get?_insert_of_ne hid ..)
  | @leaveToOwner other event w object found ready changed redundant =>
    by_cases hid : other = id
    · subst hid
      rw [afterEvent_of_changed changed] at redundant
      refine .passes rfl found ready ?_ (by simp [note])
      intro object' hobject
      rw [changed, Option.some.injEq] at hobject
      exact hobject ▸ redundant
    · exact .stays (caller_ne hid) (Table.get?_insert_of_ne hid ..)
  | @askForTargets other event w object found ready changed needed =>
    rw [afterEvent_of_changed changed] at needed ⊢
    by_cases hid : other = id
    · subst hid
      exact .asks rfl found ready changed needed (by simp)
    · exact .stays (caller_ne hid) (by simp [hid])
  | @endWatch other w found ready | @quitWatch other w shutdown found ready =>
    by_cases hid : other = id
    · subst hid
      exact .stops (by simp [Action.caller?]) found ready (by simp)
    · exact .stays (by simp [Action.caller?]) (Table.get?_insert_of_ne hid ..)
  | @resumeWatch other w object targets replies found asking got =>
    by_cases hid : other = id
    · subst hid
      exact .resumes rfl found asking got (by simp)
    · exact .stays (caller_ne hid) (by simp [hid])
  | _ => exact .stays (by simp [Action.caller?]) (by simp [note, record, measure])

/-! ### What the steps of a run tell about its watches -/

/-- A watch has seen the end of a list. -/
def HasListed (id : String) (stages : List Stage) : Prop :=
  ∃ s ∈ stages, s.action = .watchEvent id .listComplete

theorem hasListed_concat {stages : List Stage} {s : Stage} :
    HasListed id (stages ++ [s]) ↔
      HasListed id stages ∨ s.action = .watchEvent id .listComplete := by
  simp [HasListed, or_and_right, exists_or]

def isSynced (id : String) (e : Engine) : Bool := (e.watches.get? id).any (·.observer.synced)

theorem isSynced_transition (h : Transition env e a next) :
    isSynced id next = true ↔ isSynced id e = true ∨ a = .watchEvent id .listComplete := by
  cases watchMove_of_transition id h with
  | stays other same =>
    have hne : a ≠ .watchEvent id .listComplete := fun ha => other (by rw [ha]; rfl)
    simp [isSynced, same, hne]
  | starts other unknown left =>
    have hne : a ≠ .watchEvent id .listComplete := fun ha => other (by rw [ha]; rfl)
    simp [isSynced, unknown, left, hne]
  | stops other found ready left =>
    have hne : a ≠ .watchEvent id .listComplete := fun ha => other (by rw [ha]; rfl)
    simp [isSynced, found, left, hne]
  | @passes event w action found ready spared left =>
    subst action
    cases event <;> simp [isSynced, found, left, Observer.afterEvent]
  | @asks event w object action found ready changed needed left =>
    subst action
    have hne : event ≠ .listComplete := by
      rintro rfl
      cases changed
    simp [isSynced, found, left, hne]
  | resumes action found asking got left => simp [isSynced, found, left, action]

theorem isSynced_run (h : run env actions {} = some e) :
    isSynced id e = true ↔ HasListed id (path env actions {}) := by
  refine path_induction (P := fun stages e => isSynced id e = true ↔ HasListed id stages) ?_ ?_ h
  · simp [isSynced, HasListed]
  · intro stages e a next hstages ht
    rw [isSynced_transition ht, hasListed_concat, hstages]

/-- An event that reports an object as changed: one that applies it, or one that lists it again
after the end of the first list. -/
def Reports (id : String) (before : List Stage) (object : Cluster.Object)
    (event : Cluster.Event Cluster.Object) : Prop :=
  event = .applied object ∨ event = .listed object ∧ HasListed id before

theorem changed?_eq_some {o : Observer} {event : Cluster.Event Cluster.Object}
    {object : Cluster.Object} :
    o.changed? event = some object ↔
      event = .applied object ∨ event = .listed object ∧ o.synced = true := by
  cases event <;> simp [Observer.changed?, and_comm]

theorem reports_iff {w : Watch} {event : Cluster.Event Cluster.Object} {object : Cluster.Object}
    (h : run env actions {} = some e) (found : e.watches.get? id = some w) :
    w.observer.changed? event = some object ↔ Reports id (path env actions {}) object event := by
  have hsynced : w.observer.synced = true ↔ HasListed id (path env actions {}) := by
    rw [← isSynced_run h, isSynced, found, Option.any_some]
  rw [changed?_eq_some, Reports, hsynced]

/-- The event on which a watch has asked for the targets, and the watch that it found. -/
structure Receipt (id : String) (earlier : List Stage) (received : Stage) (watch : Watch)
    (object : Cluster.Object) : Prop where
  found : received.before.watches.get? id = some watch
  reported : ∃ event, received.action = .watchEvent id event ∧ Reports id earlier object event
  needed : watch.observer.isRedundant object = false

theorem reports_unique {earlier : List Stage} {event : Cluster.Event Cluster.Object}
    {object object' : Cluster.Object} (h : Reports id earlier object event)
    (h' : Reports id earlier object' event) : object = object' := by
  rcases h with rfl | ⟨rfl, -⟩ <;> rcases h' with heq | ⟨heq, -⟩ <;> cases heq <;> rfl

theorem Receipt.unique {earlier : List Stage} {s : Stage} {w w' : Watch}
    {object object' : Cluster.Object} (h : Receipt id earlier s w object)
    (h' : Receipt id earlier s w' object') : w = w' ∧ object = object' := by
  obtain ⟨event, haction, hreports⟩ := h.reported
  obtain ⟨event', haction', hreports'⟩ := h'.reported
  cases haction.symm.trans haction'
  exact ⟨Option.some.inj (h.found.symm.trans h'.found), reports_unique hreports hreports'⟩

theorem receipt_of_asking {w : Watch} {object : Cluster.Object}
    (h : run env actions {} = some e) (found : e.watches.get? id = some w)
    (asking : w.phase = .asking object) :
    ∃ earlier received since watch, path env actions {} = earlier ++ received :: since ∧
      Receipt id earlier received watch object ∧ w = { watch with phase := .asking object } ∧
      ∀ s ∈ since, s.action.caller? ≠ some (.observer id) := by
  revert w
  refine run_induction (P := fun stages e => ∀ {w}, e.watches.get? id = some w →
    w.phase = .asking object → ∃ earlier received since watch,
      stages = earlier ++ received :: since ∧ Receipt id earlier received watch object ∧
        w = { watch with phase := .asking object } ∧
        ∀ s ∈ since, s.action.caller? ≠ some (.observer id)) ?_ ?_ h
  · intro w found
    cases found
  · intro actions e a next hrun ih ht w found asking
    cases watchMove_of_transition id ht with
    | stays other same =>
      rw [same] at found
      obtain ⟨earlier, received, since, watch, hsplit, hreceipt, hw, hquiet⟩ := ih found asking
      refine ⟨earlier, received, since ++ [⟨e,a,next⟩], watch,
        concat_eq_append_cons.mpr (.inr ⟨since, rfl, hsplit⟩), hreceipt, hw, ?_⟩
      exact forall_mem_concat.mpr ⟨hquiet, other⟩
    | starts other unknown left | stops other before ready left =>
      rw [left] at found
      cases found
      cases asking
    | resumes action before waited got left =>
      rw [left] at found
      cases found
      cases asking
    | passes action before ready spared left =>
      rw [left] at found
      cases found
      rw [ready] at asking
      cases asking
    | asks action before ready changed needed left =>
      rw [left] at found
      cases found
      cases asking
      exact ⟨_, _, [], _, rfl, ⟨before, ⟨_, action, (reports_iff hrun before).mp changed⟩, needed⟩,
        rfl, by simp⟩

end WorkloadScan.Engine
