import WorkloadScan.Proofs.Engine.InFlight
import WorkloadScan.Proofs.Engine.Provenance

/-! Flushes one after another. A flush is taken when nothing is under way, so that what one flush
scans is over before the next one scans anything, and what is scanned of a resource for a target
follows the order in which its changes came. -/
namespace WorkloadScan.Engine
open Registry (IsKeyed)
variable {env : Env} {e next : Engine} {a : Action} {actions : List Action} {stages : List Stage}
  {pair : String × Resource.Key} {key : Resource.Key} {batch : Batch}

theorem idle_of_flushed (ht : Transition env e a next)
    (hflushed : Stage.flushed? env ⟨e,a,next⟩ = some batch) :
    e.flusher.isIdle = true ∧ Stage.begun? ⟨e,a,next⟩ = none ∧
      Stage.ended? ⟨e,a,next⟩ = none := by
  cases flusherMove_of_transition ht with
  | flushes idle _ call _ begun =>
    refine ⟨idle, begun, ?_⟩
    cases a with
    | finishScan => cases call
    | _ => rfl
  | stays _ _ _ flushed | idles _ _ _ _ _ flushed => cases hflushed.symm.trans flushed
  | launches _ action | begins _ action | finishes _ action | lands _ action =>
    subst action
    cases hflushed

namespace Flush

theorem idle_taking (f : Flush env (path env actions {})) :
    f.taking.before.flusher.isIdle = true ∧ f.taking.begun? = none ∧ f.taking.ended? = none :=
  idle_of_flushed (transition_of_path_eq_append f.split) f.taken

theorem ended_before (f : Flush env (path env actions {})) :
    (begun f.before).Perm ((ended f.before).map (·.scan)) := by
  obtain ⟨first, -, -, hrun, hpath⟩ := run_of_path_eq_append f.split
  have hperm := begun_perm_scans hrun
  rwa [underWay_of_flight_none (flight_of_isIdle f.idle_taking.1), List.append_nil, hpath] at hperm

theorem ended_window (f : Flush env (path env actions {})) {landing : Stage} {rest : List Stage}
    (hafter : f.after = f.window ++ landing :: rest) (hlanding : landing.action = .land) :
    ((ended f.window).map (·.scan)).Perm f.scans := by
  have hsplit : path env actions {} = (f.before ++ f.taking :: f.window) ++ landing :: rest := by
    calc
      path env actions {} = f.before ++ f.taking :: f.after := f.split
      _ = f.before ++ f.taking :: (f.window ++ landing :: rest) := by rw [← hafter]
      _ = (f.before ++ f.taking :: f.window) ++ landing :: rest := by simp
  obtain ⟨first, -, -, hrun, hpath⟩ := run_of_path_eq_append hsplit
  have hover : landing.before.underWay = [] :=
    underWay_of_landing (hlanding ▸ transition_of_path_eq_append hsplit)
  have hperm := begun_perm_scans hrun
  rw [hover, List.append_nil, hpath, begun_append, ended_append, List.map_append] at hperm
  have hbegun : begun (f.taking :: f.window) = f.scans := by
    simp [begun, f.idle_taking.2.1, scans]
  have hended : ended (f.taking :: f.window) = ended f.window := by
    simp [ended, f.idle_taking.2.2]
  rw [hbegun, hended] at hperm
  exact ((List.perm_append_left_iff _).mp
    (hperm.trans (f.ended_before.symm.append_right _))).symm

theorem landed_before {f g : Flush env (path env actions {})}
    (h : f.before.length < g.before.length) :
    ∃ landing rest, landing.action = .land ∧
      g.before = f.before ++ f.taking :: (f.window ++ landing :: rest) ∧
      ((ended f.window).map (·.scan)).Perm f.scans := by
  obtain ⟨between, hbetween, hafter⟩ := exists_between (f.split.symm.trans g.split) h
  obtain ⟨first, -, -, hrun, hpath⟩ := run_of_path_eq_append g.split
  have hidle := g.idle_taking.1
  cases course_run hrun (hpath.trans hbetween) f.taken with
  | asking asked =>
    rw [asked_of_isIdle hidle] at asked
    cases asked
  | scanning flying =>
    rw [flight_of_isIdle hidle] at flying
    cases flying
  | @ended window rest landing registry split landed aloft =>
    rw [split, List.append_assoc, List.cons_append] at hafter
    have hwindow := window_of_landing hafter landed aloft
    rw [← hwindow] at hafter split
    exact ⟨landing, rest, landed, by rw [hbetween, split], f.ended_window hafter landed⟩

end Flush

/-! ### Revisions in order -/

def revisionsOf (pair : String × Resource.Key) (scans : List Scan) : List Resource.Revision :=
  (scans.filter (·.pair = pair)).map Scan.revision

def revisionsNoted (key : Resource.Key) (stages : List Stage) : List Resource.Revision :=
  ((stages.filterMap Stage.noted?).filter (·.1 = key)).map Prod.snd

/-- The revisions of a resource that the flusher may still scan for a target. -/
def Flusher.ahead (pair : String × Resource.Key) : Flusher → List Resource.Revision
  | .asking batch _ => (batch.get? pair.2).toList
  | .scanning flight _ => revisionsOf pair flight.waiting
  | .looping | .waiting _ | .stopped => []

theorem revisionsOf_append (scans rest : List Scan) :
    revisionsOf pair (scans ++ rest) = revisionsOf pair scans ++ revisionsOf pair rest := by
  simp [revisionsOf]

theorem revisionsNoted_append (stages rest : List Stage) :
    revisionsNoted key (stages ++ rest) = revisionsNoted key stages ++ revisionsNoted key rest := by
  simp [revisionsNoted]

theorem ahead_of_isIdle {f : Flusher} (h : f.isIdle = true) : f.ahead pair = [] := by
  cases f with
  | looping | waiting | stopped => rfl
  | asking | scanning => cases h

theorem ahead_of_asked {f : Flusher} (h : f.asked? = some batch) :
    f.ahead pair = (batch.get? pair.2).toList := by
  cases f with
  | looping | waiting | stopped | scanning => cases h
  | asking =>
    cases h
    rfl

theorem revisionsOf_admitted {reg : Registry} (h : IsKeyed reg) (batch : Batch) :
    (revisionsOf pair (Scan.admitted reg.values batch)).Sublist (batch.get? pair.2).toList := by
  have hrevision : ∀ revision ∈ revisionsOf pair (Scan.admitted reg.values batch),
      batch.get? pair.2 = some revision := by
    intro revision hmem
    obtain ⟨scan, hscan, rfl⟩ := List.mem_map.mp hmem
    obtain ⟨hadmitted, hpair⟩ := List.mem_filter.mp hscan
    rw [← of_decide_eq_true hpair]
    exact ((Scan.mem_admitted h).mp hadmitted).2.2
  have honce : (revisionsOf pair (Scan.admitted reg.values batch)).length ≤ 1 := by
    have hcount := List.nodup_iff_count_le_one.mp (Scan.nodup_map_pair_admitted h batch) pair
    rw [List.count, List.countP_map] at hcount
    rw [revisionsOf, List.length_map, ← List.countP_eq_length_filter]
    exact (List.countP_congr (by simp)).trans_le hcount
  cases hall : revisionsOf pair (Scan.admitted reg.values batch) with
  | nil => exact List.nil_sublist _
  | cons revision rest =>
    rw [hall] at hrevision honce
    obtain rfl : rest = [] := List.eq_nil_of_length_eq_zero (by simpa using honce)
    rw [hrevision revision (by simp)]
    exact List.Sublist.refl _

theorem told_of_asking (h : run env actions {} = some e) {final : Bool}
    (hasking : e.flusher = .asking batch final) {reply : Registry.Reply}
    {rest : List (Caller × Registry.Reply)}
    (got : takeReply .flusher e.replies = some (reply,rest)) :
    ∃ reg ∈ toldOf .flusher (path env actions {}), IsKeyed reg ∧ reply = .targets reg.values := by
  obtain ⟨since, hsince, hi⟩ := exists_inquiry h (by rw [hasking]; rfl)
  obtain ⟨reg, htold, hreply⟩ := told_of_takeReply hi got
  have hmem : reg ∈ toldOf .flusher since := by simp [htold]
  exact ⟨reg, List.filterMap_subset _ hsince hmem, isKeyed_of_told hsince htold, hreply⟩

/-- A step that takes nothing to be flushed moves revisions from those ahead to those begun. -/
theorem ahead_transition (h : run env actions {} = some e) (ht : Transition env e a next)
    (hflushed : Stage.flushed? env ⟨e,a,next⟩ = none) :
    (revisionsOf pair (begun [⟨e,a,next⟩]) ++ next.flusher.ahead pair).Sublist
      (e.flusher.ahead pair) := by
  have hbegun : begun [⟨e,a,next⟩] = (Stage.begun? ⟨e,a,next⟩).toList := by
    cases hs : Stage.begun? ⟨e,a,next⟩ <;> simp [begun, hs]
  rw [hbegun]
  cases flusherMove_of_transition ht with
  | stays _ _ begun _ same =>
    rw [begun, same]
    exact List.Sublist.refl _
  | idles idle _ _ _ begun _ left =>
    rw [begun, ahead_of_isIdle idle, ahead_of_isIdle left]
    exact List.Sublist.refl _
  | flushes _ _ _ _ _ flushed =>
    rw [hflushed] at flushed
    cases flushed
  | launches asking action got left =>
    subst action
    obtain ⟨reg, -, hkeyed, hreply⟩ := told_of_asking h asking got
    cases hreply
    rw [asking, left]
    exact revisionsOf_admitted hkeyed _
  | begins scanning action waiting left =>
    subst action
    rw [scanning, left, Flusher.ahead, Flusher.ahead, waiting]
    simp [Stage.begun?, scanning, Flusher.flight?, waiting, ← revisionsOf_append]
  | finishes scanning action waiting left =>
    subst action
    rw [scanning, left, Flusher.ahead, Flusher.ahead, waiting]
    exact List.Sublist.refl _
  | lands scanning action _ left =>
    subst action
    rw [ahead_of_isIdle left]
    exact List.nil_sublist _

theorem noted?_of_taken {s : Stage} (h : s.taken? env = some batch) : s.noted? = none := by
  cases hnoted : s.noted? with
  | none => rfl
  | some change =>
    have htouch : touch s.action s.before = some (.add change.1 change.2) :=
      noted?_eq_some.mp hnoted
    have hnone : Stage.taken? env ⟨s.before,s.action,s.after⟩ = none :=
      taken?_of_isAdd fun event hevent => by
        cases htouch.symm.trans hevent
        rfl
    cases h.symm.trans hnone

theorem pending_eq_getLast? (ht : Transition env e a next) {fresh : List Resource.Revision}
    (hfresh : e.debouncer.pending.get? key = fresh.getLast?)
    (htaken : Stage.taken? env ⟨e,a,next⟩ = none) :
    next.debouncer.pending.get? key =
      (fresh ++ revisionsNoted key [⟨e,a,next⟩]).getLast? := by
  by_cases hnoted : ∃ revision, Stage.noted? ⟨e,a,next⟩ = some (key,revision)
  · obtain ⟨revision, hnoted⟩ := hnoted
    have hnew : revisionsNoted key [⟨e,a,next⟩] = [revision] := by simp [revisionsNoted, hnoted]
    rw [hnew, List.getLast?_concat]
    exact (pending_transition ht).mpr (.inl hnoted)
  · have hother := not_exists.mp hnoted
    have hnone : revisionsNoted key [⟨e,a,next⟩] = [] := by
      cases hs : Stage.noted? ⟨e,a,next⟩ with
      | none => simp [revisionsNoted, hs]
      | some change =>
        have hne : change.1 ≠ key := fun heq => hother change.2 (by rw [hs, ← heq])
        simp [revisionsNoted, hs, hne]
    rw [hnone, List.append_nil, ← hfresh]
    refine Option.ext fun revision => (pending_transition ht).trans ?_
    simp [htaken, hother]

theorem pending_of_taken (ht : Transition env e a next)
    (htaken : Stage.taken? env ⟨e,a,next⟩ = some batch) :
    next.debouncer.pending.get? key = none := by
  refine Option.eq_none_iff_forall_ne_some.mpr fun revision hget => ?_
  have hnoted := (pending_transition ht).mp hget
  simp [htaken, noted?_of_taken htaken] at hnoted

theorem getLast?_sublist {α : Type} (xs : List α) : xs.getLast?.toList.Sublist xs := by
  cases hlast : xs.getLast? with
  | none => exact List.nil_sublist _
  | some last =>
    obtain ⟨init, rfl⟩ := List.getLast?_eq_some_iff.mp hlast
    exact List.sublist_append_right _ _

/-- What has been scanned of a resource for a target and what may still be is part, in order, of the
changes that have been taken, and the last of the others is pending. -/
theorem revisions_run (h : run env actions {} = some e) :
    ∃ settled fresh, revisionsNoted pair.2 (path env actions {}) = settled ++ fresh ∧
      e.debouncer.pending.get? pair.2 = fresh.getLast? ∧
      (revisionsOf pair (begun (path env actions {})) ++ e.flusher.ahead pair).Sublist settled := by
  -- A take settles what was fresh, and what is then ahead is at most the last of it. All other
  -- steps at most move the first of what is ahead to the scans that have begun.
  refine run_induction (P := fun stages e => ∃ settled fresh,
    revisionsNoted pair.2 stages = settled ++ fresh ∧
      e.debouncer.pending.get? pair.2 = fresh.getLast? ∧
      (revisionsOf pair (begun stages) ++ e.flusher.ahead pair).Sublist settled) ?_ ?_ h
  · exact ⟨[], [], rfl, rfl, List.Sublist.refl _⟩
  rintro actions e a next hrun ⟨settled, fresh, hsplit, hfresh, hsub⟩ ht
  rw [revisionsNoted_append, hsplit, begun_append, revisionsOf_append, List.append_assoc,
    List.append_assoc]
  have keep (hflushed : Stage.flushed? env ⟨e,a,next⟩ = none) :
      (revisionsOf pair (begun (path env actions {})) ++
        (revisionsOf pair (begun [⟨e,a,next⟩]) ++ next.flusher.ahead pair)).Sublist settled :=
    ((ahead_transition hrun ht hflushed).append_left _).trans hsub
  cases htaken : Stage.taken? env ⟨e,a,next⟩ with
  | none =>
    have hflushed : Stage.flushed? env ⟨e,a,next⟩ = none := by
      cases hflushed : Stage.flushed? env ⟨e,a,next⟩ with
      | none => rfl
      | some batch => cases htaken.symm.trans (taken?_of_flushed hflushed)
    exact ⟨settled, _, rfl, pending_eq_getLast? ht hfresh htaken, keep hflushed⟩
  | some batch =>
    have hnone : revisionsNoted pair.2 [⟨e,a,next⟩] = [] := by
      simp [revisionsNoted, noted?_of_taken htaken]
    rw [hnone, List.append_nil]
    refine ⟨settled ++ fresh, [], by simp, pending_of_taken ht htaken, ?_⟩
    cases hflushed : Stage.flushed? env ⟨e,a,next⟩ with
    | none => exact (keep hflushed).trans (List.sublist_append_left _ _)
    | some flushed =>
      obtain ⟨-, hbegun, -⟩ := idle_of_flushed ht hflushed
      have hnew : begun [⟨e,a,next⟩] = [] := by simp [begun, hbegun]
      have hlast : (next.flusher.ahead pair).Sublist fresh := by
        rw [ahead_of_asked (asks_of_flushed ht hflushed).2,
          batch_of_taken (taken?_of_flushed hflushed), hfresh]
        exact getLast?_sublist fresh
      rw [hnew]
      exact ((List.sublist_append_left _ _).trans hsub).append hlast

theorem exists_beginScan {flight : Flight} {final : Bool}
    (hscanning : e.flusher = .scanning flight final) (hwaiting : flight.waiting ≠ [])
    (hroom : env.config.limit = 0 ∨ e.underWay.length < env.config.limit) :
    ∃ next, step env .beginScan e = some next := by
  obtain ⟨scan, rest, hnext⟩ := List.exists_cons_of_ne_nil hwaiting
  have hunderWay : e.underWay = flight.running := underWay_of_flight (by rw [hscanning]; rfl)
  obtain ⟨next, -, hstep, -⟩ := @exists_begin env _ _ _ _ _ hscanning hnext
    (by simpa [Flight.hasRoom, hunderWay] using hroom)
  exact ⟨next, hstep⟩

/-- Flushes come one after another: every scan belongs to a flush, and when the next batch is taken
that flush has landed with all its scans over. At every moment as many scans are under way as have
begun and not ended, and these are as many as the limit lets be. So what is scanned of a resource
for a target follows the changes of the resource in their order. -/
theorem flushes_never_overlap (h : run env actions {} = some e) :
    (∀ earlier s later scan, path env actions {} = earlier ++ s :: later → s.begun? = some scan →
      ∃ (f : Flush env (path env actions {})) (flown rest : List Stage),
        earlier = f.before ++ f.taking :: flown ∧ f.window = flown ++ s :: rest) ∧
    (∀ f g : Flush env (path env actions {}), f.before.length < g.before.length →
      ∃ landing rest, landing.action = .land ∧
        g.before = f.before ++ f.taking :: (f.window ++ landing :: rest) ∧
        ((ended f.window).map (·.scan)).Perm f.scans) ∧
    (begun (path env actions {})).Perm
      ((ended (path env actions {}) ++ e.underWay).map (·.scan)) ∧
    (env.config.limit ≠ 0 → e.underWay.length ≤ env.config.limit) ∧
    (∀ flight final, e.flusher = .scanning flight final → flight.waiting ≠ [] →
      env.config.limit = 0 ∨ e.underWay.length < env.config.limit →
        ∃ next, step env .beginScan e = some next) ∧
    ∀ tenant key, (revisionsOf (tenant,key) (begun (path env actions {}))).Sublist
      (revisionsNoted key (path env actions {})) := by
  refine ⟨fun _ _ _ _ => exists_flush_of_begun, fun _ _ => Flush.landed_before,
    begun_perm_scans h, length_underWay_le h, fun _ _ => exists_beginScan, fun tenant key => ?_⟩
  obtain ⟨settled, fresh, hnoted, -, hsub⟩ := @revisions_run env e actions (tenant,key) h
  rw [hnoted]
  exact (List.sublist_append_left _ _).trans
    (hsub.trans (List.sublist_append_left settled fresh))

/-- Of two pods one changes twice while they are scanned one after the other, and of these changes
the next flush scans the last. -/
theorem flushes_never_overlap_around_changes :
    let c : Config := { quiet := 5, spacing := 0, discardFirst := false, limit := 1 }
    let env : Env := { Env.calm c with transport := ⟨fun _ => none, fun _ _ => { delay := 3 }⟩ }
    let pod (name : String) : Resource.Key := ⟨.pod, some "web", name⟩
    let seen (version : String) : Resource.Revision := ⟨none, some version⟩
    let actions : List Action := [.request 0 (.add "t" ⟨"url", "token", "id", [], []⟩), .serve,
      .change (pod "a") (seen "1"), .change (pod "b") (seen "1"), .arm, .tick 5, .fire, .serve,
      .launch, .beginScan, .change (pod "a") (seen "2"), .tick 3, .finishScan 0, .beginScan,
      .change (pod "a") (seen "3"), .tick 3, .finishScan 0, .land, .arm, .tick 5, .fire, .serve,
      .launch, .beginScan]
    ∃ e, run env actions {} = some e ∧ e.underWay.length ≤ 1 ∧
      (revisionsOf ("t",pod "a") (begun (path env actions {}))).Sublist
        (revisionsNoted (pod "a") (path env actions {})) ∧
      revisionsOf ("t",pod "a") (begun (path env actions {})) = [seen "1", seen "3"] ∧
      revisionsNoted (pod "a") (path env actions {}) = [seen "1", seen "2", seen "3"] := by
  intro c env pod seen actions
  obtain ⟨-, -, -, hlimit, -, horder⟩ := @flushes_never_overlap env _ actions rfl
  refine ⟨_, rfl, hlimit (by decide), horder "t" (pod "a"), ?_, ?_⟩
  · decide +kernel
  · decide +kernel

end WorkloadScan.Engine
