import WorkloadScan.Proofs.Engine.Discard
import WorkloadScan.Proofs.Engine.Provenance

/-! Shutdown. The flusher takes the rest once, as its last take, and ends when that is flushed. The
registry outlives it, so the last flush goes by the targets registered when it asks for them. All
that was noted before the last take is taken; what a watch notes after it stays for ever. -/
namespace WorkloadScan.Engine
open Debouncer (Outcome)
open Registry (IsKeyed reference)
variable {env : Env} {e next : Engine} {a : Action} {actions : List Action} {stages : List Stage}
  {batch : Batch} {key : Resource.Key} {revision : Resource.Revision}

/-! ### The last take -/

/-- The step of a run in which the flusher has noticed shutdown and takes the rest. -/
structure LastTake (stages : List Stage) where
  before : List Stage
  taking : Stage
  after : List Stage
  split : stages = before ++ taking :: after
  action : taking.action = .quitFlusher

def LastTake.extend {whole rest : List Stage} (t : LastTake stages) (h : whole = stages ++ rest) :
    LastTake whole where
  before := t.before
  taking := t.taking
  after := t.after ++ rest
  split := by
    calc
      whole = stages ++ rest := h
      _ = (t.before ++ t.taking :: t.after) ++ rest := congrArg (· ++ rest) t.split
      _ = t.before ++ t.taking :: (t.after ++ rest) := by simp
  action := t.action

theorem isEnding_firePoll (e : Engine) (p : Debouncer.Poll) :
    (firePoll e p).flusher.isEnding = false := by
  cases p <;> simp [firePoll, flush, Flusher.isEnding]

theorem quitFlusher_of_isEnding (h : Transition env e a next)
    (hopen : e.flusher.isEnding = false) (hend : next.flusher.isEnding = true) :
    a = .quitFlusher := by
  cases h with
  | quitFlusher => rfl
  | fire =>
    rw [isEnding_firePoll] at hend
    cases hend
  | launch asking =>
    simp only [asking, Flusher.isEnding] at hopen hend
    exact absurd hend (by simp [hopen])
  | beginScan scanning | finishScan scanning =>
    simp only [scanning, Flusher.isEnding] at hopen hend
    exact absurd hend (by simp [hopen])
  | land scanning =>
    simp only [scanning, Flusher.isEnding] at hopen
    simp [hopen, Flusher.isEnding] at hend
  | arm | wake => cases hend
  | _ => simp [note, hopen] at hend

theorem exists_lastTake (h : run env actions {} = some e) (hend : e.flusher.isEnding = true) :
    Nonempty (LastTake (path env actions {})) := by
  revert hend
  refine path_induction (P := fun stages e => e.flusher.isEnding = true →
    Nonempty (LastTake stages)) (fun hend => by cases hend) ?_ h
  intro stages e a next ih ht hend
  cases hopen : e.flusher.isEnding with
  | true =>
    obtain ⟨t⟩ := ih hopen
    exact ⟨t.extend rfl⟩
  | false => exact ⟨⟨stages, ⟨e,a,next⟩, [], rfl, quitFlusher_of_isEnding ht hopen hend⟩⟩

namespace LastTake

theorem touch_taking (t : LastTake stages) :
    touch t.taking.action t.taking.before = some .takeRest := by
  rw [t.action]
  rfl

theorem taken (t : LastTake stages) :
    t.taking.taken? env = some t.taking.before.debouncer.pending := by
  simp only [Stage.taken?, Stage.outcome?, t.touch_taking, Option.map_some, Option.bind_some]
  exact Debouncer.takeRest_taken ..

theorem noted_taking (t : LastTake stages) : t.taking.noted? = none := by
  simp [Stage.noted?, t.touch_taking]

theorem isEnding (h : run env actions {} = some e) (t : LastTake (path env actions {})) :
    e.flusher.isEnding = true := by
  refine isEnding_run h ⟨(t.taking.before.now,.takeRest), ?_, rfl⟩
  have hmem : t.taking ∈ path env actions {} := (congrArg (t.taking ∈ ·) t.split).mpr (by simp)
  exact List.mem_filterMap.mpr ⟨t.taking, hmem, by rw [t.touch_taking]; rfl⟩

theorem last (h : run env actions {} = some e) (t : LastTake (path env actions {})) :
    ∀ s ∈ t.after, s.taken? env = none := by
  intro s hs
  have hclose := closesLast_run h
  rw [t.split, touches, List.filterMap_append, List.filterMap_cons, t.touch_taking] at hclose
  have hafter := (List.pairwise_cons.mp (List.pairwise_append.mp hclose).2.1).1
  refine taken?_of_isAdd fun event htouch => ?_
  have hmem : (s.before.now,event) ∈ touches t.after :=
    List.mem_filterMap.mpr ⟨s, hs, by rw [htouch]; rfl⟩
  exact hafter _ hmem rfl

end LastTake

/-! ### What is left -/

/-- A step takes the change of a key, to flush it or to discard it. -/
def Stage.Takes (env : Env) (s : Stage) (key : Resource.Key) : Prop :=
  ∃ batch, (s.flushed? env = some batch ∨ s.discarded? env = some batch) ∧
    batch.contains key = true

theorem flushed_or_discarded {s : Stage} (htaken : s.taken? env = some batch)
    (hfull : batch.isEmpty = false) :
    s.flushed? env = some batch ∨ s.discarded? env = some batch := by
  obtain ⟨outcome, houtcome, hout⟩ := Option.bind_eq_some_iff.mp htaken
  obtain ⟨event, -, rfl⟩ := Option.map_eq_some_iff.mp houtcome
  simp only [Stage.flushed?, Stage.discarded?, houtcome, Option.bind_some]
  cases hdiscard : Outcome.isDiscard _ with
  | true => exact .inr (by simpa using hout)
  | false => exact .inl (Debouncer.flushed_apply.mpr ⟨hout, hdiscard, hfull⟩)

theorem takes_of_taken {s : Stage} (htaken : s.taken? env = some batch)
    (hkey : batch.contains key = true) : s.Takes env key :=
  ⟨batch, flushed_or_discarded htaken (Table.isEmpty_of_contains hkey), hkey⟩

theorem taken?_of_takes {s : Stage} (h : s.Takes env key) : s.taken? env ≠ none := by
  obtain ⟨batch, hflushed | hdiscarded, -⟩ := h
  · simp [taken?_of_flushed hflushed]
  · obtain ⟨outcome, houtcome, hout⟩ := Option.bind_eq_some_iff.mp hdiscarded
    have htaken : outcome.taken? = some batch := (Option.ite_none_right_eq_some.mp hout).2
    simp [Stage.taken?, houtcome, htaken]

theorem exists_noted_of_lastNoted {before after : List Stage} {taking : Stage}
    (htaken : taking.taken? env ≠ none) (hquiet : taking.noted? = none)
    (hlast : LastNoted env (before ++ taking :: after) key revision) :
    ∃ s ∈ after, s.noted? = some (key,revision) := by
  -- Going back from the end, no step before the one that takes can be the one that noted it.
  induction after using List.reverseRecOn with
  | nil =>
    rcases lastNoted_concat.mp hlast with hnoted | ⟨⟨hnone, -⟩, -⟩
    · rw [hquiet] at hnoted
      cases hnoted
    · exact absurd hnone htaken
  | append_singleton after s ih =>
    rw [← List.cons_append, ← List.append_assoc] at hlast
    rcases lastNoted_concat.mp hlast with hnoted | ⟨-, hold⟩
    · exact ⟨s, by simp, hnoted⟩
    · obtain ⟨t, ht, hnoted⟩ := ih hold
      exact ⟨t, by simp [ht], hnoted⟩

/-- Nothing is pending, and a later step has taken each change that has been noted. -/
structure LeavesNothing (env : Env) (stages : List Stage) (e : Engine) : Prop where
  empty : e.debouncer.pending.isEmpty = true
  taken : ∀ earlier noting later key revision, stages = earlier ++ noting :: later →
    noting.noted? = some (key,revision) → ∃ s ∈ later, s.Takes env key

/-- Nobody is left who could note a change. -/
def IsSilent (e : Engine) : Prop :=
  e.held = false ∧ e.watches.values.any Watch.isAlive = false

theorem isSilent_transition (h : Transition env e a next) (hsilent : e.IsSilent) :
    next.IsSilent ∧ Stage.noted? ⟨e,a,next⟩ = none := by
  obtain ⟨hheld, hwatches⟩ := hsilent
  -- What users and watches do needs one of them to be there.
  have notHeld {P : Prop} (held : e.held = true) : P := by
    rw [hheld] at held
    cases held
  have notAlive {P : Prop} {id : String} {w : Watch} (found : e.watches.get? id = some w)
      (halive : w.isAlive = true) : P := by
    have hdead := List.any_eq_false.mp hwatches w (Table.mem_values_of_get? found)
    exact absurd halive hdead
  cases h with
  | request held | change held | startWatch held | startReconciler held => exact notHeld held
  | passOver found ready | leaveToOwner found ready | askForTargets found ready
  | endWatch found ready | quitWatch _ found ready =>
    exact notAlive found (by simp [Watch.isAlive, ready])
  | resumeWatch found asking => exact notAlive found (by simp [Watch.isAlive, asking])
  | release => exact ⟨⟨rfl, hwatches⟩, rfl⟩
  | _ =>
    refine ⟨⟨?_, ?_⟩, rfl⟩
    · simpa [note] using hheld
    · simpa only [note, ask_watches, firePoll_watches, flushRest_watches] using hwatches

theorem quiet_of_isSilent (h : run env actions {} = some e) {before after : List Stage}
    {last : Stage} (hpath : path env actions {} = before ++ last :: after)
    (hsilent : last.after.IsSilent) : ∀ s ∈ after, s.noted? = none := by
  suffices hall : e.IsSilent ∧ ∀ s ∈ after, s.noted? = none from hall.2
  revert after
  refine path_induction (P := fun stages e => ∀ {after}, stages = before ++ last :: after →
    e.IsSilent ∧ ∀ s ∈ after, s.noted? = none) ?_ ?_ h
  · intro after hsplit
    simp at hsplit
  · intro stages e a next ih ht after hsplit
    rcases concat_eq_append_cons.mp hsplit with ⟨-, rfl, rfl⟩ | ⟨after, rfl, hinit⟩
    · exact ⟨hsilent, by simp⟩
    · obtain ⟨hbefore, hnone⟩ := ih hinit
      obtain ⟨hnext, hnoted⟩ := isSilent_transition ht hbefore
      exact ⟨hnext, forall_mem_concat.mpr ⟨hnone, hnoted⟩⟩

namespace LastTake

theorem takes_before (t : LastTake (path env actions {})) {earlier later : List Stage}
    {noting : Stage} (hsplit : t.before = earlier ++ noting :: later)
    (hnoted : noting.noted? = some (key,revision)) :
    ∃ s ∈ later ++ [t.taking], s.Takes env key := by
  obtain ⟨first, -, -, hrun, hpath⟩ := run_of_path_eq_append t.split
  rcases pending_or_taken hrun (hpath.trans hsplit) hnoted with hkey | ⟨s, hs, batch, htaken, hkey⟩
  · exact ⟨t.taking, by simp, takes_of_taken t.taken hkey⟩
  · exact ⟨s, by simp [hs], takes_of_taken htaken hkey⟩

theorem leavesNothing_iff (h : run env actions {} = some e) (t : LastTake (path env actions {})) :
    LeavesNothing env (path env actions {}) e ↔ ∀ s ∈ t.after, s.noted? = none := by
  constructor
  · intro hnothing s hs
    by_contra hsome
    obtain ⟨⟨key, revision⟩, hnoted⟩ := Option.ne_none_iff_exists'.mp hsome
    obtain ⟨middle, rest, hafter⟩ := List.append_of_mem hs
    have hpath : path env actions {} = (t.before ++ t.taking :: middle) ++ s :: rest := by
      calc
        path env actions {} = t.before ++ t.taking :: (middle ++ s :: rest) := hafter ▸ t.split
        _ = (t.before ++ t.taking :: middle) ++ s :: rest := by simp
    obtain ⟨later, hlater, htakes⟩ := hnothing.taken _ _ _ _ _ hpath hnoted
    exact taken?_of_takes htakes (t.last h later (by simp [hafter, hlater]))
  · intro hquiet
    have hempty : e.debouncer.pending.isEmpty = true := by
      refine Table.isEmpty_iff.mpr fun key => ?_
      by_contra hsome
      obtain ⟨revision, hget⟩ := Option.ne_none_iff_exists'.mp hsome
      have hlast := (pending_iff_lastNoted h).mp hget
      rw [t.split] at hlast
      obtain ⟨s, hs, hnoted⟩ :=
        exists_noted_of_lastNoted (by simp [t.taken]) t.noted_taking hlast
      rw [hquiet s hs] at hnoted
      cases hnoted
    refine ⟨hempty, fun earlier noting later key revision hpath hnoted => ?_⟩
    rcases pending_or_taken h hpath hnoted with hkey | ⟨s, hs, batch, htaken, hkey⟩
    · rw [Table.isEmpty_of_contains hkey] at hempty
      cases hempty
    · exact ⟨s, hs, takes_of_taken htaken hkey⟩

end LastTake

/-- All that was noted before the last take has been taken by then, and there is a last take if the
flusher has ended. Nothing is left exactly if nothing has been noted since the last take, as is the
case when by then every watch has ended and the users have let go. -/
theorem leaves_nothing_iff (h : run env actions {} = some e) :
    (e.flusher.isAlive = false → Nonempty (LastTake (path env actions {}))) ∧
    ∀ t : LastTake (path env actions {}), (∀ s ∈ t.after, s.taken? env = none) ∧
      (∀ earlier noting later key revision, t.before = earlier ++ noting :: later →
        noting.noted? = some (key,revision) → ∃ s ∈ later ++ [t.taking], s.Takes env key) ∧
      (LeavesNothing env (path env actions {}) e ↔ ∀ s ∈ t.after, s.noted? = none) ∧
      (t.taking.after.IsSilent → LeavesNothing env (path env actions {}) e) := by
  refine ⟨fun hended => ?_, fun t => ⟨t.last h, ?_, t.leavesNothing_iff h, fun hsilent => ?_⟩⟩
  · have hend : e.flusher.isEnding = true := by
      cases hflusher : e.flusher <;> simp_all [Flusher.isAlive, Flusher.isEnding]
    exact exists_lastTake h hend
  · exact fun _ _ _ _ _ hsplit hnoted => t.takes_before hsplit hnoted
  · exact (t.leavesNothing_iff h).mpr (quiet_of_isSilent h t.split hsilent)

/-- A watch notes a pod and ends before the flusher takes the rest, which has the pod. -/
theorem leaves_nothing_after_ended_watch :
    let env : Env := .calm { discardFirst := false }
    let pod : Cluster.Object := { name := some "a", ns := some "web", version := some "1" }
    let actions : List Action := [.request 0 (.add "t" ⟨"url", "token", "id", [], []⟩), .serve,
      .startWatch "pods" .pod [.pod], .watchEvent "pods" (.applied pod), .serve, .arm, .shutdown,
      .resumeWatch "pods", .signal, .quitWatch "pods", .release, .quitFlusher, .serve, .launch,
      .beginScan, .finishScan 0, .land]
    ∃ e, run env actions {} = some e ∧ e.flusher.isAlive = false ∧
      e.journal.begun.map (·.2.key) = [⟨.pod, some "web", "a"⟩] ∧
      LeavesNothing env (path env actions {}) e := by
  intro env pod actions
  let steps : List Stage := path env actions {}
  let t : LastTake steps :=
    { before := steps.take 11
      taking := (steps.drop 11).head (by decide)
      after := steps.drop 12
      split := rfl
      action := rfl }
  obtain ⟨-, hlast⟩ := @leaves_nothing_iff env _ actions rfl
  exact ⟨_, rfl, rfl, rfl, (hlast t).2.2.2 ⟨rfl, rfl⟩⟩

/-- The same watch waits for its targets when the flusher takes the rest. It notes the pod after
that, and when all tasks have ended the pod is pending for ever. -/
theorem leaves_change_of_waiting_watch :
    let env : Env := .calm { discardFirst := false }
    let pod : Cluster.Object := { name := some "a", ns := some "web", version := some "1" }
    let actions : List Action := [.request 0 (.add "t" ⟨"url", "token", "id", [], []⟩), .serve,
      .startWatch "pods" .pod [.pod], .watchEvent "pods" (.applied pod), .arm, .shutdown,
      .quitFlusher, .serve, .resumeWatch "pods", .signal, .quitWatch "pods", .drain, .release,
      .stopService]
    ∃ e, run env actions {} = some e ∧ e.isDrained = true ∧
      e.debouncer.pending.get? ⟨.pod, some "web", "a"⟩ = some ⟨none, some "1"⟩ ∧
      ¬LeavesNothing env (path env actions {}) e := by
  intro env pod actions
  refine ⟨_, rfl, rfl, rfl, fun hnothing => ?_⟩
  cases hnothing.empty

/-! ### What the last flush goes by -/

/-- A flush has a resource of its batch to scan for a target that the requests made before the take
leave registered, if the target takes it. -/
structure Flush.IsOwed (f : Flush env stages) (scan : Scan) : Prop where
  registered : reference env.transport ((calls f.before).map Prod.snd) scan.target.key =
    some scan.target
  admitted : scan.isAdmitted = true
  pending : f.batch.get? scan.key = some scan.revision

/-- A flush is told of the targets that the requests made before its take leave, scans what it has
to scan and each of it once, and all of it before it lands. -/
structure Flush.IsFaithful (f : Flush env stages) : Prop where
  told : ∀ registry ∈ toldOf .flusher f.window,
    registry.get? = reference env.transport ((calls f.before).map Prod.snd)
  owed : ∀ scan ∈ f.scans, f.IsOwed scan
  once : (f.scans.map Scan.pair).Nodup
  complete : f.IsOver → ∀ scan, f.IsOwed scan → scan ∈ f.scans

theorem Flush.exists_served_of_told {f : Flush env stages} {registry : Registry}
    (h : registry ∈ toldOf .flusher f.window) :
    ∃ middle s rest, f.after = middle ++ s :: rest ∧ (∀ t ∈ middle, t.action ≠ .land) ∧
      s.served? = some (.flusher,.snapshot) ∧ s.before.registry = registry := by
  obtain ⟨s, hs, htold⟩ := List.mem_filterMap.mp h
  obtain ⟨hserved, hregistry⟩ := Option.ite_none_right_eq_some.mp htold
  obtain ⟨middle, rest, hwindow⟩ := List.append_of_mem hs
  have hafter : f.after = middle ++ s :: (rest ++ f.after.dropWhile (·.action ≠ .land)) := by
    calc
      f.after = f.window ++ f.after.dropWhile (·.action ≠ .land) :=
        (List.takeWhile_append_dropWhile ..).symm
      _ = middle ++ s :: (rest ++ f.after.dropWhile (·.action ≠ .land)) := by simp [hwindow]
  refine ⟨middle, s, _, hafter, fun t ht => ?_, hserved, Option.some.inj hregistry⟩
  have hmem : t ∈ f.window := by simp [hwindow, ht]
  simpa using List.mem_takeWhile_imp hmem

/-- The flusher asks again only when it has been told, so when its question is served it has made no
other one since. -/
theorem inquiry_of_served {before middle : List Stage} {taking : Stage}
    (h : run env actions {} = some e) (hpath : path env actions {} = before ++ taking :: middle)
    (hflushed : taking.flushed? env = some batch) (haloft : ∀ t ∈ middle, t.action ≠ .land)
    (hserved : Stage.served? ⟨e,a,next⟩ = some (.flusher,.snapshot)) :
    (∀ t ∈ middle, t.action.caller? ≠ some .flusher) ∧ Inquiry .flusher middle e := by
  cases course_run h hpath hflushed with
  | asking asked quiet =>
    have hcall := (asks_of_flushed (transition_of_path_eq_append hpath) hflushed).1
    exact ⟨quiet, inquiry_run .flusher h hpath hcall quiet⟩
  | scanning flying =>
    have hfree : outstanding .flusher e = 0 := by
      rw [outstanding_run .flusher h, waitsFor, asked_of_flight flying]
      rfl
    exact absurd hserved (served?_ne_of_outstanding hfree)
  | ended split landed => exact absurd landed (haloft _ (by simp [split]))

theorem caller_ne_of_quiet {caller : Caller} {middle : List Stage}
    (hmiddle : middle ⊆ path env actions {})
    (hquiet : ∀ t ∈ middle, t.action.caller? ≠ some caller) :
    ∀ call ∈ calls middle, call.1 ≠ caller := by
  rintro ⟨asker, q⟩ hmem rfl
  obtain ⟨t, ht, hcall⟩ := List.mem_filterMap.mp hmem
  have hsilent := (silent_of_caller_ne (transition_of_mem_path (hmiddle ht)) (hquiet t ht)).1
  rw [hcall] at hsilent
  simp at hsilent

/-- When the question of a flush comes to be served, the requests served so far are those that were
made before its take. -/
theorem served_before_question {before middle : List Stage} {taking : Stage}
    (h : run env actions {} = some e) (hpath : path env actions {} = before ++ taking :: middle)
    (hflushed : taking.flushed? env = some batch) (haloft : ∀ t ∈ middle, t.action ≠ .land)
    (hserved : Stage.served? ⟨e,a,next⟩ = some (.flusher,.snapshot)) :
    served (path env actions {}) = calls before := by
  obtain ⟨hquiet, hinquiry⟩ := inquiry_of_served h hpath hflushed haloft hserved
  obtain ⟨rest, hrequests⟩ := requests_of_served hserved
  have hcall := (asks_of_flushed (transition_of_path_eq_append hpath) hflushed).1
  have hcalls : calls (path env actions {}) =
      calls before ++ (.flusher,.snapshot) :: calls middle := by
    rw [hpath, calls_append, calls, calls, List.filterMap_cons_some hcall]
    rfl
  have hsubset : middle ⊆ path env actions {} := by
    intro t ht
    rw [hpath]
    simp [ht]
  have hmiddle : ∀ call ∈ calls middle, call.1 ≠ .flusher := caller_ne_of_quiet hsubset hquiet
  have hrest : ∀ call ∈ rest, call.1 ≠ .flusher := by
    have hnone : ofCaller .flusher rest = [] := by
      cases hinquiry with
      | unanswered _ requests => simpa [hrequests] using requests
      | answered _ requests => simp [hrequests] at requests
    simpa [ofCaller] using hnone
  -- The flusher's question is the last of its calls, among those made as among those not served.
  have hsplit : calls before ++ (.flusher,.snapshot) :: calls middle =
      served (path env actions {}) ++ (.flusher,.snapshot) :: rest := by
    rw [← hcalls, (traffic_run h).queue, hrequests]
  exact (split_unique (fun call => call.1 = .flusher) hsplit rfl rfl hmiddle hrest).1.symm

namespace Flush

theorem get?_of_told {f : Flush env (path env actions {})} {registry : Registry}
    (htold : registry ∈ toldOf .flusher f.window) :
    registry.get? = reference env.transport ((calls f.before).map Prod.snd) := by
  obtain ⟨middle, s, rest, hafter, haloft, hserved, rfl⟩ := exists_served_of_told htold
  have hpath : path env actions {} = (f.before ++ f.taking :: middle) ++ s :: rest := by
    calc
      path env actions {} = f.before ++ f.taking :: (middle ++ s :: rest) := hafter ▸ f.split
      _ = (f.before ++ f.taking :: middle) ++ s :: rest := by simp
  obtain ⟨first, -, -, hrun, hfirst⟩ := run_of_path_eq_append hpath
  have hdone := served_before_question hrun hfirst f.taken haloft hserved
  rw [(traffic_run hrun).registry, hdone, get?_registryAfter]

theorem isFaithful_run (h : run env actions {} = some e) (f : Flush env (path env actions {})) :
    f.IsFaithful := by
  have hiff (registry : Registry) (htold : toldOf .flusher f.window = [registry]) (scan : Scan) :
      f.IsOwed scan ↔ scan ∈ Scan.admitted registry.values f.batch := by
    have hkeyed : IsKeyed registry := isKeyed_of_told f.window_subset htold
    have hget : registry.get? = reference env.transport ((calls f.before).map Prod.snd) :=
      get?_of_told (by simp [htold])
    rw [Scan.mem_admitted hkeyed, hget]
    constructor
    · rintro ⟨registered, admitted, pending⟩
      exact ⟨registered, admitted, pending⟩
    · rintro ⟨registered, admitted, pending⟩
      exact ⟨registered, admitted, pending⟩
  obtain ⟨howed, honce, hcomplete⟩ := scans_of_iff h f hiff
  exact ⟨fun _ => get?_of_told, howed, honce, hcomplete⟩

theorem isOver_of_ended (h : run env actions {} = some e) (f : Flush env (path env actions {}))
    (hended : e.flusher.isAlive = false) : f.IsOver := by
  have hflusher : e.flusher = .stopped := by
    cases hf : e.flusher <;> simp_all [Flusher.isAlive]
  cases course_run h f.split f.taken with
  | asking asked =>
    rw [hflusher] at asked
    cases asked
  | scanning flying =>
    rw [hflusher] at flying
    cases flying
  | ended split landed => exact ⟨_, by rw [split]; simp, landed⟩

end Flush

theorem LastTake.exists_flush (h : run env actions {} = some e)
    (t : LastTake (path env actions {}))
    (hkept : ¬(env.config.discardFirst = true ∧ ∀ s ∈ t.before, s.taken? env = none))
    (hfull : t.taking.before.debouncer.pending.isEmpty = false) :
    ∃ f : Flush env (path env actions {}), f.before = t.before ∧ f.taking = t.taking ∧
      f.batch = t.taking.before.debouncer.pending := by
  rcases flushed_or_discarded t.taken hfull with hflushed | hdiscarded
  · exact ⟨⟨t.before, t.taking, t.after, _, t.split, hflushed⟩, rfl, rfl, rfl⟩
  · obtain ⟨hdiscard, -, hfirst⟩ := (discarded_iff h t.split).mp hdiscarded
    exact absurd ⟨hdiscard, hfirst⟩ hkept

theorem LastTake.ended_of_landing (h : run env actions {} = some e)
    (t : LastTake (path env actions {})) {more : List Action} {landed : Engine}
    (hland : run env (more ++ [.land]) e = some landed) : landed.flusher.isAlive = false := by
  have hend : landed.flusher.isEnding = true :=
    (t.extend (path_append h)).isEnding ((run_append h).trans hland)
  obtain ⟨middle, -, hstep⟩ := run_concat.mp hland
  cases transition_of_step hstep with
  | @land flight final => cases final <;> simp_all [Flusher.isEnding, Flusher.isAlive]

/-- The registry runs as long as the flusher does. So the flush of the rest is told of the targets
that all requests made before it leave, and scans for each of them what it takes of all that was
pending, once and whatever the spacing. The flusher has not ended before that is done, and until
then it can still be brought to its end. -/
theorem final_flush_sees_targets (h : run env actions {} = some e) :
    (e.flusher.isAlive = true → e.service ≠ .stopped) ∧
    ∀ t : LastTake (path env actions {}),
      ¬(env.config.discardFirst = true ∧ ∀ s ∈ t.before, s.taken? env = none) →
      t.taking.before.debouncer.pending.isEmpty = false →
      ∃ f : Flush env (path env actions {}), f.before = t.before ∧ f.taking = t.taking ∧
        f.batch = t.taking.before.debouncer.pending ∧ f.IsFaithful ∧
        (e.flusher.isAlive = false → f.IsOver) ∧
        (¬f.IsOver → ∃ more landed, more.all Action.isScanning = true ∧
          run env (actions ++ more) {} = some landed ∧ landed.flusher.isAlive = false) := by
  refine ⟨fun halive => ?_, fun t hkept hfull => ?_⟩
  · exact running_of_handle (traffic_run h).closed (hasHandles_of_flusher halive)
  · obtain ⟨f, hbefore, htaking, hbatch⟩ := t.exists_flush h hkept hfull
    refine ⟨f, hbefore, htaking, hbatch, f.isFaithful_run h, f.isOver_of_ended h, fun hflying => ?_⟩
    obtain ⟨more, landed, hmore, hland⟩ := exists_landing_of_flush h f hflying
    exact ⟨more ++ [.land], landed, by simp [hmore, Action.isScanning],
      (run_append h).trans hland, t.ended_of_landing h hland⟩

/-- A target is registered by a request that still waits when the flusher asks for the targets, and
the registry drains already. The pod that is pending is scanned for it. -/
theorem final_flush_sees_queued_target :
    let env : Env := .calm { discardFirst := false }
    let target : Target := ⟨"t", "url", "id", .ofTexts [] [], ⟨"url", "token"⟩⟩
    let scan : Scan := ⟨target, ⟨.pod, some "web", "a"⟩, ⟨none, some "1"⟩⟩
    let actions : List Action := [.change scan.key scan.revision, .arm, .shutdown, .drain,
      .request 0 (.add "t" ⟨"url", "token", "id", [], []⟩), .release, .quitFlusher, .serve, .serve,
      .launch, .beginScan, .finishScan 0, .land, .stopService]
    ∃ e, run env actions {} = some e ∧ e.isDrained = true ∧
      ∃ f : Flush env (path env actions {}), f.taking.action = .quitFlusher ∧ f.IsFaithful ∧
        scan ∈ f.scans := by
  intro env target scan actions
  let steps : List Stage := path env actions {}
  let t : LastTake steps :=
    { before := steps.take 6
      taking := (steps.drop 6).head (by decide)
      after := steps.drop 7
      split := rfl
      action := rfl }
  obtain ⟨-, hlast⟩ := @final_flush_sees_targets env _ actions rfl
  obtain ⟨f, hbefore, htaking, hbatch, hfaithful, hover, -⟩ := hlast t (by simp [env, Env.calm]) rfl
  have howed : f.IsOwed scan :=
    ⟨by rw [hbefore]; rfl, rfl, by rw [hbatch]; rfl⟩
  exact ⟨_, rfl, rfl, f, htaking ▸ rfl, hfaithful, hfaithful.complete (hover rfl) scan howed⟩

end WorkloadScan.Engine
