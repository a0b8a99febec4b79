import WorkloadScan.Proofs.Engine.Inquiry

/-! Where changes come from. A watch notes a change when it has been told of some targets for an
event that it has received, and what is pending for a key is the last change noted for it. -/
namespace WorkloadScan.Engine
open Debouncer (Event)
variable {env : Env} {e next : Engine} {a : Action} {id : String} {actions : List Action}
  {key : Resource.Key} {revision : Resource.Revision}

/-- No change comes but from the watches. -/
def IsWatched (stages : List Stage) : Prop :=
  ∀ s ∈ stages, ∀ key revision, s.action ≠ .change key revision

theorem isWatched_path (h : ∀ key revision, Action.change key revision ∉ actions) :
    IsWatched (path env actions {}) := by
  intro s hs key revision hchange
  exact h key revision (hchange ▸ action_of_mem_path hs)

/-- A watch notes in a step the change of an object. It has received the event that reports the
change after the steps of `before`, the object's changes are its own to report, and it has since
been told of some targets. -/
inductive Notes (id : String) (before earlier : List Stage) (noting : Stage) (key : Resource.Key)
    (revision : Resource.Revision) : Prop
  | intro {received : Stage} {since : List Stage} {watch : Watch} {object : Cluster.Object}
      {registry : Registry} (split : earlier = before ++ received :: since)
      (receipt : Receipt id before received watch object)
      (quiet : ∀ s ∈ since, s.action.caller? ≠ some (.observer id))
      (told : toldOf (.observer id) since = [registry]) (targets : registry.isEmpty = false)
      (noted : noting.action = .resumeWatch id)
      (named : object.key? watch.observer.kind = some key) (latest : object.revision = revision)

def Stage.noted? (s : Stage) : Option (Resource.Key × Resource.Revision) :=
  match touch s.action s.before with
  | some (.add key revision) => some (key,revision)
  | _ => none

theorem noted?_eq_some {s : Stage} :
    s.noted? = some (key,revision) ↔ touch s.action s.before = some (.add key revision) := by
  unfold Stage.noted?
  split
  case h_1 heq => simp [heq]
  case h_2 hother => simpa using hother key revision

theorem resumedChange?_eq_some :
    resumedChange? id e = some (.add key revision) ↔
      ∃ w object targets rest, e.watches.get? id = some w ∧ w.phase = .asking object ∧
        takeReply (.observer id) e.replies = some (.targets targets,rest) ∧
        targets.isEmpty = false ∧ object.key? w.observer.kind = some key ∧
        object.revision = revision := by
  constructor
  · intro h
    unfold resumedChange? at h
    split at h
    case h_2 => cases h
    case h_1 w found =>
      split at h
      case h_2 => cases h
      case h_1 object targets rest asking got =>
        split at h
        · cases h
        case isFalse some =>
          obtain ⟨key', hkey, heq⟩ := Option.map_eq_some_iff.mp h
          cases heq
          exact ⟨w, object, targets, rest, found, asking, got, by simpa using some, hkey, rfl⟩
  · rintro ⟨w, object, targets, rest, found, asking, got, some, hkey, rfl⟩
    simp [resumedChange?, found, asking, got, some, hkey]

theorem isEmpty_values (registry : Registry) : registry.values.isEmpty = registry.isEmpty := by
  simp [Table.values, Table.isEmpty]

/-! ### What becomes of a change that a watch receives -/

section
variable {before since : List Stage} {received : Stage} {watch : Watch} {object : Cluster.Object}

theorem asking_of_receipt (h : run env actions {} = some received.before)
    (ht : Transition env received.before received.action received.after)
    (hreceipt : Receipt id (path env actions {}) received watch object) :
    received.after.watches.get? id = some { watch with phase := .asking object } := by
  obtain ⟨found, ⟨event, haction, hreports⟩, hneeded⟩ := hreceipt
  have hcaller : received.action.caller? = some (.observer id) := by rw [haction]; rfl
  cases watchMove_of_transition id ht with
  | stays other | starts other | stops other => exact absurd hcaller other
  | resumes action => cases haction.symm.trans action
  | passes action found' ready spared left =>
    cases haction.symm.trans action
    cases found.symm.trans found'
    rw [spared object ((reports_iff h found).mpr hreports)] at hneeded
    cases hneeded
  | asks action found' ready changed needed left =>
    cases haction.symm.trans action
    cases found.symm.trans found'
    obtain rfl := reports_unique hreports ((reports_iff h found).mp changed)
    exact left

theorem call_of_receipt (hpath : path env actions {} = before ++ received :: since)
    (hreceipt : Receipt id before received watch object) :
    received.call? = some (.observer id,.snapshot) := by
  obtain ⟨first, -, -, hrun, rfl⟩ := run_of_path_eq_append hpath
  obtain ⟨event, haction, -⟩ := hreceipt.reported
  have hasking := asking_of_receipt hrun (transition_of_path_eq_append hpath) hreceipt
  simp [Stage.call?, haction, hasking, Watch.isAsking]

theorem asking_of_quiet (h : run env actions {} = some e)
    (hpath : path env actions {} = before ++ received :: since)
    (hreceipt : Receipt id before received watch object)
    (hquiet : ∀ s ∈ since, s.action.caller? ≠ some (.observer id)) :
    e.watches.get? id = some { watch with phase := .asking object } := by
  revert since
  refine run_induction (P := fun stages e => ∀ {since}, stages = before ++ received :: since →
    (∀ s ∈ since, s.action.caller? ≠ some (.observer id)) →
      e.watches.get? id = some { watch with phase := .asking object }) ?_ ?_ h
  · intro since hsplit
    simp at hsplit
  · intro actions e a next hrun ih ht since hsplit hquiet
    rcases concat_eq_append_cons.mp hsplit with ⟨rfl, rfl, rfl⟩ | ⟨since, rfl, hinit⟩
    · exact asking_of_receipt hrun ht hreceipt
    · obtain ⟨hold, hlast⟩ := forall_mem_concat.mp hquiet
      have hw := ih hinit hold
      cases watchMove_of_transition id ht with
      | stays _ same => exact same.trans hw
      | starts _ unknown => cases unknown.symm.trans hw
      | stops _ found ready =>
        cases found.symm.trans hw
        cases ready
      | passes action | asks action | resumes action =>
        subst action
        exact absurd rfl hlast

theorem inquiry_of_receipt (h : run env actions {} = some e)
    (hpath : path env actions {} = before ++ received :: since)
    (hreceipt : Receipt id before received watch object)
    (hquiet : ∀ s ∈ since, s.action.caller? ≠ some (.observer id)) :
    Inquiry (.observer id) since e :=
  inquiry_run (.observer id) h hpath (call_of_receipt hpath hreceipt) hquiet

/-- A step concludes what the watch has received: it goes on, told of the targets registered when
its question was served, and if there are any and the object has a key it notes the change. -/
def Concludes (id : String) (before : List Stage) (received : Stage) (quiet : List Stage)
    (s : Stage) (watch : Watch) (object : Cluster.Object) : Prop :=
  s.action = .resumeWatch id ∧ ∃ registry, toldOf (.observer id) quiet = [registry] ∧
    ∀ key revision, Notes id before (before ++ received :: quiet) s key revision ↔
      registry.isEmpty = false ∧ object.key? watch.observer.kind = some key ∧
        object.revision = revision

/-- What becomes of a change that a watch has received. The watch asks for the targets, it can be
answered and go on, and it does nothing else until then. -/
structure Pursues (env : Env) (id : String) (before : List Stage) (received : Stage)
    (since : List Stage) (watch : Watch) (object : Cluster.Object) (e : Engine) : Prop where
  asks : received.call? = some (.observer id,.snapshot)
  resumes : (∀ s ∈ since, s.action.caller? ≠ some (.observer id)) →
    ∃ n next, run env (List.replicate n .serve ++ [.resumeWatch id]) e = some next
  concludes : ∀ quiet s rest, since = quiet ++ s :: rest →
    (∀ t ∈ quiet, t.action.caller? ≠ some (.observer id)) →
    s.action.caller? = some (.observer id) → Concludes id before received quiet s watch object

theorem concludes_of_receipt {s : Stage} {rest : List Stage}
    (hpath : path env actions {} = before ++ received :: (since ++ s :: rest))
    (hreceipt : Receipt id before received watch object)
    (hquiet : ∀ t ∈ since, t.action.caller? ≠ some (.observer id))
    (hcaller : s.action.caller? = some (.observer id)) :
    Concludes id before received since s watch object := by
  rw [← List.cons_append, ← List.append_assoc] at hpath
  obtain ⟨first, -, -, hrun, hfirst⟩ := run_of_path_eq_append hpath
  have hwaiting := asking_of_quiet hrun hfirst hreceipt hquiet
  cases watchMove_of_transition id (transition_of_path_eq_append hpath) with
  | stays other | starts other | stops other => exact absurd hcaller other
  | passes action found ready | asks action found ready =>
    cases found.symm.trans hwaiting
    cases ready
  | resumes action found asking got =>
    obtain ⟨registry, htold, -⟩ :=
      told_of_takeReply (inquiry_of_receipt hrun hfirst hreceipt hquiet) got
    refine ⟨action, registry, htold, fun key revision => ⟨?_, ?_⟩⟩
    · rintro ⟨hsplit, hreceipt', -, htold', htargets, -, hkey, hrevision⟩
      obtain ⟨rfl, rfl⟩ := List.cons.inj (List.append_cancel_left hsplit)
      obtain ⟨rfl, rfl⟩ := hreceipt.unique hreceipt'
      cases htold.symm.trans htold'
      exact ⟨htargets, hkey, hrevision⟩
    · rintro ⟨htargets, hkey, hrevision⟩
      exact .intro rfl hreceipt hquiet htold htargets action hkey hrevision

theorem pursues_of_receipt (h : run env actions {} = some e)
    (hpath : path env actions {} = before ++ received :: since)
    (hreceipt : Receipt id before received watch object) :
    Pursues env id before received since watch object e where
  asks := call_of_receipt hpath hreceipt
  resumes := by
    intro hquiet
    have hwaiting := asking_of_quiet h hpath hreceipt hquiet
    obtain ⟨served, targets, rest, hserves, got⟩ :=
      exists_answer (.observer id) h hpath (call_of_receipt hpath hreceipt) hquiet
        (hasHandles_of_watch hwaiting (by simp [Watch.isAlive]))
    rw [← (kept_by_serves hserves).2] at hwaiting
    obtain ⟨next, hnext⟩ : ∃ next, step env (.resumeWatch id) served = some next := by
      simp [step, resumeWatch, hwaiting, receive?, got]
    exact ⟨_, next, run_concat.mpr ⟨served, hserves, hnext⟩⟩
  concludes := by
    rintro quiet s rest rfl hquiet hcaller
    exact concludes_of_receipt hpath hreceipt hquiet hcaller

end

/-- The steps that note a change are those in which a watch comes to the end of an observation. -/
theorem noted_iff (h : run env actions {} = some e) (ht : Transition env e a next)
    (hwatched : ∀ key revision, a ≠ .change key revision) :
    Stage.noted? ⟨e,a,next⟩ = some (key,revision) ↔
      ∃ id before, Notes id before (path env actions {}) ⟨e,a,next⟩ key revision := by
  rw [noted?_eq_some]
  constructor
  · intro htouch
    cases a with
    | change key' revision' => exact absurd rfl (hwatched key' revision')
    | resumeWatch id =>
      obtain ⟨w, object, targets, rest, found, asking, got, htargets, hkey, hrevision⟩ :=
        resumedChange?_eq_some.mp htouch
      obtain ⟨before, received, since, watch, hpath, hreceipt, rfl, hquiet⟩ :=
        receipt_of_asking h found asking
      obtain ⟨registry, htold, hreply⟩ :=
        told_of_takeReply (inquiry_of_receipt h hpath hreceipt hquiet) got
      cases hreply
      rw [isEmpty_values] at htargets
      exact ⟨id, before, .intro hpath hreceipt hquiet htold htargets rfl hkey hrevision⟩
    | _ => cases htouch
  · rintro ⟨id, before, hsplit, hreceipt, hquiet, htold, htargets, haction, hkey, hrevision⟩
    subst haction
    cases ht with
    | resumeWatch found asking got =>
      cases found.symm.trans (asking_of_quiet h hsplit hreceipt hquiet)
      cases asking
      obtain ⟨registry, htold', hreply⟩ :=
        told_of_takeReply (inquiry_of_receipt h hsplit hreceipt hquiet) got
      cases hreply
      cases htold.symm.trans htold'
      rw [← isEmpty_values] at htargets
      exact resumedChange?_eq_some.mpr
        ⟨_, _, _, _, found, rfl, got, htargets, hkey, hrevision⟩

theorem noted_iff_of_path {earlier later : List Stage} {s : Stage}
    (hpath : path env actions {} = earlier ++ s :: later)
    (hwatched : IsWatched (path env actions {})) :
    s.noted? = some (key,revision) ↔ ∃ id before, Notes id before earlier s key revision := by
  obtain ⟨first, -, -, hrun, rfl⟩ := run_of_path_eq_append hpath
  exact noted_iff hrun (transition_of_path_eq_append hpath) (hwatched s (by simp [hpath]))

/-! ### What is pending -/

/-- The last change that the steps have noted for a key since the last take. -/
def LastNoted (env : Env) (stages : List Stage) (key : Resource.Key)
    (revision : Resource.Revision) : Prop :=
  ∃ earlier noting later, stages = earlier ++ noting :: later ∧
    noting.noted? = some (key,revision) ∧
    ∀ s ∈ later, s.taken? env = none ∧ ∀ revision, s.noted? ≠ some (key,revision)

theorem lastNoted_concat {stages : List Stage} {s : Stage} :
    LastNoted env (stages ++ [s]) key revision ↔ s.noted? = some (key,revision) ∨
      (s.taken? env = none ∧ ∀ revision, s.noted? ≠ some (key,revision)) ∧
        LastNoted env stages key revision := by
  constructor
  · rintro ⟨earlier, noting, later, hsplit, hnoted, hlater⟩
    rcases concat_eq_append_cons.mp hsplit with ⟨-, rfl, rfl⟩ | ⟨later, rfl, hinit⟩
    · exact .inl hnoted
    · obtain ⟨hold, hlast⟩ := forall_mem_concat.mp hlater
      exact .inr ⟨hlast, earlier, noting, later, hinit, hnoted, hold⟩
  · rintro (hnoted | ⟨hs, earlier, noting, later, hsplit, hnoted, hlater⟩)
    · exact ⟨stages, s, [], rfl, hnoted, by simp⟩
    · exact ⟨earlier, noting, later ++ [s], concat_eq_append_cons.mpr (.inr ⟨later, rfl, hsplit⟩),
        hnoted, forall_mem_concat.mpr ⟨hlater, hs⟩⟩

theorem pending_transition (h : Transition env e a next) :
    next.debouncer.pending.get? key = some revision ↔
      Stage.noted? ⟨e,a,next⟩ = some (key,revision) ∨
        (Stage.taken? env ⟨e,a,next⟩ = none ∧
            ∀ revision, Stage.noted? ⟨e,a,next⟩ ≠ some (key,revision)) ∧
          e.debouncer.pending.get? key = some revision := by
  rw [debouncer_transition h]
  cases htouch : touch a e with
  | none => simp [Debouncer.run, Stage.noted?, Stage.taken?, Stage.outcome?, htouch]
  | some event =>
    have htaken : Stage.taken? env ⟨e,a,next⟩ =
        (e.debouncer.apply env.config e.now event).2.taken? := by
      simp [Stage.taken?, Stage.outcome?, htouch]
    have hrun : Debouncer.run env.config e.debouncer [(e.now,event)] =
        (e.debouncer.apply env.config e.now event).1 := rfl
    rw [Option.map_some, Option.toList_some, hrun, htaken]
    cases event with
    | add key' revision' =>
      by_cases hkey : key' = key <;>
        simp [Stage.noted?, htouch, Debouncer.apply, Debouncer.add, Debouncer.Outcome.taken?, hkey]
    | poll | takeRest =>
      cases ht : (e.debouncer.apply env.config e.now _).2.taken? with
      | some batch => simp [Stage.noted?, htouch, (Debouncer.taken_apply ht).2]
      | none =>
        rw [Debouncer.pending_apply ht]
        simp [Stage.noted?, htouch, Debouncer.apply, Debouncer.Outcome.added?]

theorem contains_transition (h : Transition env e a next)
    (huntaken : Stage.taken? env ⟨e,a,next⟩ = none)
    (hkey : e.debouncer.pending.contains key = true) :
    next.debouncer.pending.contains key = true := by
  obtain ⟨revision, hget⟩ := Option.isSome_iff_exists.mp hkey
  by_cases hnoted : ∃ latest, Stage.noted? ⟨e,a,next⟩ = some (key,latest)
  · obtain ⟨latest, hlatest⟩ := hnoted
    exact Option.isSome_iff_exists.mpr ⟨latest, (pending_transition h).mpr (.inl hlatest)⟩
  · have hkept := (pending_transition h).mpr (.inr ⟨⟨huntaken, not_exists.mp hnoted⟩, hget⟩)
    exact Option.isSome_iff_exists.mpr ⟨revision, hkept⟩

theorem pending_or_taken (h : run env actions {} = some e) {earlier later : List Stage}
    {noting : Stage} (hpath : path env actions {} = earlier ++ noting :: later)
    (hnoted : noting.noted? = some (key,revision)) :
    e.debouncer.pending.contains key = true ∨
      ∃ s ∈ later, ∃ batch, s.taken? env = some batch ∧ batch.contains key = true := by
  revert later
  refine path_induction (P := fun stages e => ∀ {later}, stages = earlier ++ noting :: later →
    e.debouncer.pending.contains key = true ∨
      ∃ s ∈ later, ∃ batch, s.taken? env = some batch ∧ batch.contains key = true) ?_ ?_ h
  · intro later hsplit
    simp at hsplit
  · intro stages e a next ih ht later hsplit
    rcases concat_eq_append_cons.mp hsplit with ⟨-, rfl, rfl⟩ | ⟨later, rfl, hinit⟩
    · exact .inl (Option.isSome_iff_exists.mpr ⟨_, (pending_transition ht).mpr (.inl hnoted)⟩)
    · rcases ih hinit with hkey | ⟨s, hs, htakes⟩
      · cases htaken : Stage.taken? env ⟨e,a,next⟩ with
        | none => exact .inl (contains_transition ht htaken hkey)
        | some batch =>
          -- A take leaves nothing behind, so it has the key as well.
          have hbatch : batch = e.debouncer.pending := batch_of_taken htaken
          exact .inr ⟨_, by simp, batch, htaken, hbatch ▸ hkey⟩
      · exact .inr ⟨s, by simp [hs], htakes⟩

/-- What is pending for a key is the last change noted for it since the last take. -/
theorem pending_iff_lastNoted (h : run env actions {} = some e) :
    e.debouncer.pending.get? key = some revision ↔
      LastNoted env (path env actions {}) key revision := by
  refine path_induction (P := fun stages e => e.debouncer.pending.get? key = some revision ↔
    LastNoted env stages key revision) ?_ ?_ h
  · simp [LastNoted]
  · intro stages e a next hstages ht
    rw [pending_transition ht, lastNoted_concat, hstages]

/-- Since the last take a watch has come to note a change, and no later one has come for its key. -/
inductive LastChange (env : Env) (stages : List Stage) (key : Resource.Key)
    (revision : Resource.Revision) : Prop
  | intro {id : String} {before earlier later : List Stage} {noting : Stage}
      (split : stages = earlier ++ noting :: later)
      (notes : Notes id before earlier noting key revision)
      (untaken : ∀ s ∈ later, s.taken? env = none)
      (last : ∀ between s rest, later = between ++ s :: rest → ∀ id before revision,
        ¬Notes id before (earlier ++ noting :: between) s key revision)

theorem lastNoted_iff_lastChange {stages rest : List Stage}
    (hpath : path env actions {} = stages ++ rest) (hwatched : IsWatched (path env actions {})) :
    LastNoted env stages key revision ↔ LastChange env stages key revision := by
  have noted {earlier later : List Stage} {s : Stage} (hsplit : stages = earlier ++ s :: later)
      (revision : Resource.Revision) : s.noted? = some (key,revision) ↔
        ∃ id before, Notes id before earlier s key revision := by
    refine @noted_iff_of_path env actions key revision earlier (later ++ rest) s ?_ hwatched
    rw [hpath, hsplit, List.append_assoc, List.cons_append]
  constructor
  · rintro ⟨earlier, noting, later, hsplit, hnoted, hlater⟩
    obtain ⟨id, before, hnotes⟩ := (noted hsplit revision).mp hnoted
    refine .intro hsplit hnotes (fun s hs => (hlater s hs).1) ?_
    rintro between s rest rfl id before revision' hs
    rw [← List.cons_append, ← List.append_assoc] at hsplit
    exact (hlater s (by simp)).2 revision' ((noted hsplit revision').mpr ⟨id, before, hs⟩)
  · rintro ⟨hsplit, hnotes, huntaken, hlast⟩
    refine ⟨_, _, _, hsplit, (noted hsplit revision).mpr ⟨_, _, hnotes⟩, fun s hs => ?_⟩
    refine ⟨huntaken s hs, fun revision' hnoted => ?_⟩
    obtain ⟨between, rest, rfl⟩ := List.append_of_mem hs
    rw [← List.cons_append, ← List.append_assoc] at hsplit
    obtain ⟨id, before, hs⟩ := (noted hsplit revision').mp hnoted
    exact hlast between s rest rfl id before revision' hs

theorem taken_iff_lastChange {earlier later : List Stage} {s : Stage} {batch : Batch}
    (hpath : path env actions {} = earlier ++ s :: later)
    (hwatched : IsWatched (path env actions {})) (htaken : s.taken? env = some batch) :
    batch.get? key = some revision ↔ LastChange env earlier key revision := by
  obtain ⟨first, -, -, hrun, rfl⟩ := run_of_path_eq_append hpath
  rw [batch_of_taken htaken, pending_iff_lastNoted hrun, lastNoted_iff_lastChange hpath hwatched]

end WorkloadScan.Engine
