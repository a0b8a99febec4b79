import Mathlib.Algebra.GroupWithZero.Nat
import WorkloadScan.Engine.Settle
import WorkloadScan.Proofs.Engine.Counting
import WorkloadScan.Proofs.Engine.Succession

/-! The metrics against what a run has done. The gauges follow what they measure, every add counts
as one registration, and every resource of a flush counts once for every target: when its scan has
ended, or as filtered. -/
namespace WorkloadScan

namespace Registry
variable {transport : Transport} {reg : Registry} {q : Request} {m : Metrics}

def Request.isAdd : Request → Bool
  | .add .. => true
  | .delete _ | .snapshot => false

theorem isSome_built : (built transport q).isSome = q.isAdd := by
  cases q <;> rfl

theorem registrations_measure :
    (measure transport reg q m).registrationsOk =
        m.registrationsOk + (built transport q).toList.countP (·.2) ∧
      (measure transport reg q m).registrationsFailed =
        m.registrationsFailed + (built transport q).toList.countP (!·.2) := by
  cases q with
  | add key spec =>
    cases hok : (transport.fault spec.client).isNone <;>
      simp [measure, built, Metrics.countRegistration, hok]
  | delete key =>
    simp only [measure]
    split <;> simp [built]
  | snapshot => simp [measure, built]

theorem targets_measure (h : m.targets = reg.size) :
    (measure transport reg q m).targets = (reg.apply transport q).size := by
  cases q with
  | add key spec => rfl
  | delete key =>
    simp only [measure]
    split
    case isTrue => rfl
    case isFalse hknown =>
      rw [h, apply, Table.size_erase_of_not_contains (by simpa using hknown)]
  | snapshot => exact h

theorem others_measure :
    (measure transport reg q m).pending = m.pending ∧
      (measure transport reg q m).scansOk = m.scansOk ∧
      (measure transport reg q m).scansFailed = m.scansFailed ∧
      (measure transport reg q m).filtered = m.filtered := by
  cases q with
  | add key spec =>
    simp only [measure, Metrics.countRegistration]
    split <;> simp
  | delete key =>
    simp only [measure]
    split <;> simp
  | snapshot => simp [measure]

end Registry

namespace Engine
open Debouncer (Outcome)
variable {env : Env} {e next : Engine} {a : Action} {actions : List Action} {stages : List Stage}

/-- The targets and the batch of the flush that a step makes ready to scan. -/
def Stage.fanout? (s : Stage) : Option (List Target × Batch) :=
  match s.action, s.before.flusher, takeReply .flusher s.before.replies with
  | .launch, .asking batch _, some (.targets targets,_) => some (targets,batch)
  | _, _, _ => none

theorem scansUnderWay_of_flight_none (h : e.flusher.flight? = none) : e.scansUnderWay = 0 := by
  cases hflusher : e.flusher with
  | scanning =>
    rw [hflusher] at h
    cases h
  | _ => simp [scansUnderWay, hflusher]

theorem scansUnderWay_congr (h : next.flusher = e.flusher) :
    next.scansUnderWay = e.scansUnderWay := by
  simp [scansUnderWay, h]

/-- One constructor for each thing that a step can do to the metrics. -/
inductive Tally (env : Env) (e : Engine) (a : Action) (next : Engine) : Prop
  /-- Flushes may be counted and what is pending measured, and nothing else is. -/
  | debounces {dispatched suppressed rateLimited shutdown pending : Nat}
      (metrics : next.journal.metrics = { e.journal.metrics with
        dispatched, suppressed, rateLimited, shutdown, pending })
      (gauge : e.journal.metrics.pending = e.debouncer.pending.size →
        pending = next.debouncer.pending.size)
      (registry : next.registry = e.registry) (served : Stage.served? ⟨e,a,next⟩ = none)
      (fanout : Stage.fanout? ⟨e,a,next⟩ = none) (ended : Stage.ended? ⟨e,a,next⟩ = none)
      (underWay : next.scansUnderWay = e.scansUnderWay)
  | serves {caller : Caller} {q : Registry.Request}
      (metrics : next.journal.metrics =
        Registry.measure env.transport e.registry q e.journal.metrics)
      (debouncer : next.debouncer = e.debouncer)
      (registry : next.registry = e.registry.apply env.transport q)
      (served : Stage.served? ⟨e,a,next⟩ = some (caller,q))
      (fanout : Stage.fanout? ⟨e,a,next⟩ = none) (ended : Stage.ended? ⟨e,a,next⟩ = none)
      (underWay : next.scansUnderWay = e.scansUnderWay)
  | launches {targets : List Target} {batch : Batch}
      (metrics : next.journal.metrics = { e.journal.metrics with
        filtered := e.journal.metrics.filtered + (Scan.refused targets batch).length })
      (debouncer : next.debouncer = e.debouncer) (registry : next.registry = e.registry)
      (served : Stage.served? ⟨e,a,next⟩ = none)
      (fanout : Stage.fanout? ⟨e,a,next⟩ = some (targets,batch))
      (ended : Stage.ended? ⟨e,a,next⟩ = none)
      (underWay : next.scansUnderWay = e.scansUnderWay + (Scan.admitted targets batch).length)
  | ends {r : Flight.Running}
      (metrics : next.journal.metrics = e.journal.metrics.countScan r.error.isNone)
      (debouncer : next.debouncer = e.debouncer) (registry : next.registry = e.registry)
      (served : Stage.served? ⟨e,a,next⟩ = none) (fanout : Stage.fanout? ⟨e,a,next⟩ = none)
      (ended : Stage.ended? ⟨e,a,next⟩ = some r)
      (underWay : next.scansUnderWay + 1 = e.scansUnderWay)

theorem tally_of_fire {armed : Instant} (waiting : e.flusher = .waiting (some armed)) :
    Tally env e .fire (firePoll { e with debouncer := (e.debouncer.poll env.config e.now).1 }
      (e.debouncer.poll env.config e.now).2) := by
  have hregistry (d : Debouncer) (p : Debouncer.Poll) :
      (firePoll { e with debouncer := d } p).registry = e.registry :=
    firePoll_frame (·.registry) (fun _ _ _ _ _ => rfl) ..
  have hunderWay (d : Debouncer) (p : Debouncer.Poll) :
      (firePoll { e with debouncer := d } p).scansUnderWay = e.scansUnderWay := by
    rw [scansUnderWay_of_flight_none (flight_firePoll ..),
      scansUnderWay_of_flight_none (by rw [waiting]; rfl)]
  have hpending := @Debouncer.pending_poll env.config e.now e.debouncer
  have htaken := fun batch => @Debouncer.taken_poll env.config e.now e.debouncer batch
  generalize (e.debouncer.poll env.config e.now).1 = d at *
  cases hp : (e.debouncer.poll env.config e.now).2 with
  | idle | postponed wait pending =>
    refine .debounces rfl (fun gauge => ?_) (hregistry ..) rfl rfl rfl (hunderWay ..)
    rw [firePoll_debouncer, hpending (by rw [hp]; rfl), ← gauge]
    rfl
  | discarded batch =>
    refine .debounces rfl (fun _ => ?_) (hregistry ..) rfl rfl rfl (hunderWay ..)
    rw [firePoll_debouncer, (htaken batch (by rw [hp]; rfl)).2]
    rfl
  | ready batch =>
    refine .debounces (ask_metrics ..) (fun _ => ?_) (hregistry ..) rfl rfl rfl (hunderWay ..)
    rw [firePoll_debouncer, (htaken batch (by rw [hp]; rfl)).2]
    rfl

theorem tally_of_quitFlusher {armed : Option Instant} (waiting : e.flusher = .waiting armed) :
    Tally env e .quitFlusher
      (flushRest { e with debouncer := (e.debouncer.takeRest env.config e.now).1 }
        (e.debouncer.takeRest env.config e.now).2) := by
  have hregistry (d : Debouncer) (r : Debouncer.Remainder) :
      (flushRest { e with debouncer := d } r).registry = e.registry :=
    flushRest_frame (·.registry) (fun _ _ _ _ _ => rfl) ..
  have hunderWay (d : Debouncer) (r : Debouncer.Remainder) :
      (flushRest { e with debouncer := d } r).scansUnderWay = e.scansUnderWay := by
    rw [scansUnderWay_of_flight_none (flight_flushRest ..),
      scansUnderWay_of_flight_none (by rw [waiting]; rfl)]
  have hempty : (e.debouncer.takeRest env.config e.now).1.pending = .empty :=
    (Debouncer.taken_takeRest (Debouncer.takeRest_taken ..)).2
  generalize (e.debouncer.takeRest env.config e.now).1 = d at *
  have gauge (r : Debouncer.Remainder) :
      0 = (flushRest { e with debouncer := d } r).debouncer.pending.size := by
    rw [flushRest_debouncer, hempty]
    rfl
  generalize (e.debouncer.takeRest env.config e.now).2 = r
  cases r with
  | discarded batch =>
    exact .debounces rfl (fun _ => gauge _) (hregistry ..) rfl rfl rfl (hunderWay ..)
  | ready batch =>
    have hleft := gauge (.ready batch)
    have hsame := hregistry d (.ready batch)
    have hnone := hunderWay d (.ready batch)
    by_cases hvoid : batch.isEmpty = true
    · simp only [flushRest, hvoid, if_true] at hleft hsame hnone ⊢
      exact .debounces rfl (fun _ => hleft) hsame rfl rfl rfl hnone
    · simp only [flushRest, hvoid] at hleft hsame hnone ⊢
      exact .debounces (ask_metrics ..) (fun _ => hleft) hsame rfl rfl rfl hnone

theorem tally_of_resumeWatch {id : String} {kind : Kind} {object : Cluster.Object}
    {targets : List Target} {replies : List (Caller × Registry.Reply)}
    {watches : Table String Watch} :
    Tally env e (.resumeWatch id)
      (recordObject env.config kind object targets { e with replies, watches }) := by
  unfold recordObject
  split
  · exact .debounces rfl (fun gauge => gauge) rfl rfl rfl rfl rfl
  · split
    · exact .debounces rfl (fun _ => rfl) rfl rfl rfl rfl rfl
    · exact .debounces rfl (fun gauge => gauge) rfl rfl rfl rfl rfl

theorem tally_of_transition (h : Transition env e a next) : Tally env e a next := by
  cases h with
  | fire waiting => exact tally_of_fire waiting
  | quitFlusher waiting => exact tally_of_quitFlusher waiting
  | resumeWatch => exact tally_of_resumeWatch
  | @serve caller q rest running waiting =>
    exact @Tally.serves _ _ _ _ caller q rfl rfl rfl (by simp [Stage.served?, waiting]) rfl rfl rfl
  | launch asking got =>
    refine .launches rfl rfl rfl rfl (by simp [Stage.fanout?, asking, got]) rfl ?_
    simp [scansUnderWay, asking, Flight.start]
  | beginScan scanning begun =>
    obtain ⟨hwaiting, hrunning⟩ := Flight.begin?_eq_some begun
    refine .debounces rfl (fun gauge => gauge) rfl rfl rfl rfl ?_
    simp only [scansUnderWay, scanning, hwaiting, hrunning, List.length_cons]
    omega
  | finishScan scanning finished =>
    obtain ⟨hwaiting, hrunning⟩ := Flight.finish?_eq_some finished
    refine .ends rfl rfl rfl rfl rfl ?_ ?_
    · simp [Stage.ended?, scanning, Flusher.flight?, (Flight.running_of_finish finished).1]
    · simp only [scansUnderWay, scanning, hwaiting, ← hrunning]
      omega
  | @land flight final scanning done =>
    obtain ⟨hwaiting, hrunning⟩ := Flight.isOver_iff.mp done
    have hover : e.scansUnderWay = 0 := by
      simp [scansUnderWay, scanning, hwaiting, hrunning]
    refine .debounces rfl (fun gauge => gauge) rfl rfl rfl rfl ?_
    rw [hover]
    exact scansUnderWay_of_flight_none (by cases final <;> rfl)
  | arm looping =>
    refine .debounces rfl (fun gauge => gauge) rfl rfl rfl rfl ?_
    rw [scansUnderWay_of_flight_none rfl, scansUnderWay_of_flight_none (by rw [looping]; rfl)]
  | wake waiting =>
    refine .debounces rfl (fun gauge => gauge) rfl rfl rfl rfl ?_
    rw [scansUnderWay_of_flight_none rfl, scansUnderWay_of_flight_none (by rw [waiting]; rfl)]
  | change => exact .debounces rfl (fun _ => rfl) rfl rfl rfl rfl rfl
  | request | askForTargets | proceedAsk =>
    exact .debounces (ask_metrics ..) (fun gauge => by simpa using gauge) (by simp) rfl rfl rfl
      (scansUnderWay_congr (by simp))
  | _ => exact .debounces rfl (fun gauge => gauge) rfl rfl rfl rfl rfl

/-! ### Whole runs -/

def builds (transport : Transport) (stages : List Stage) : List (Client × Bool) :=
  (served stages).filterMap fun call => Registry.built transport call.2

def fanouts (stages : List Stage) : List (List Target × Batch) := stages.filterMap Stage.fanout?

/-- How many scans some flushes come to if no target leaves out anything. -/
def fanoutSize (flushes : List (List Target × Batch)) : Nat :=
  (flushes.map fun flush => flush.1.length * flush.2.size).sum

/-- The metrics at any moment, against the steps made so far. -/
structure Balance (env : Env) (stages : List Stage) (e : Engine) : Prop where
  pending : e.journal.metrics.pending = e.debouncer.pending.size
  targets : e.journal.metrics.targets = e.registry.size
  registrationsOk : e.journal.metrics.registrationsOk = (builds env.transport stages).countP (·.2)
  registrationsFailed :
    e.journal.metrics.registrationsFailed = (builds env.transport stages).countP (!·.2)
  scansOk : e.journal.metrics.scansOk = (ended stages).countP (·.error.isNone)
  scansFailed : e.journal.metrics.scansFailed = (ended stages).countP (·.error.isSome)
  scans : e.journal.metrics.scansOk + e.journal.metrics.scansFailed + e.journal.metrics.filtered +
    e.scansUnderWay = fanoutSize (fanouts stages)

theorem builds_concat (transport : Transport) (stages : List Stage) (s : Stage) :
    builds transport (stages ++ [s]) = builds transport stages ++
      (s.served?.bind fun call => Registry.built transport call.2).toList := by
  rw [builds, served_concat, List.filterMap_append]
  cases s.served? with
  | none => rfl
  | some call => cases hb : Registry.built transport call.2 <;> simp [builds, hb]

theorem ended_concat (stages : List Stage) (s : Stage) :
    ended (stages ++ [s]) = ended stages ++ s.ended?.toList := filterMap_concat ..

theorem fanoutSize_concat (stages : List Stage) (s : Stage) :
    fanoutSize (fanouts (stages ++ [s])) =
      fanoutSize (fanouts stages) + fanoutSize s.fanout?.toList := by
  rw [fanouts, filterMap_concat, fanoutSize, List.map_append, List.sum_append]
  rfl

theorem balance_transition (hb : Balance env stages e) (ht : Transition env e a next) :
    Balance env (stages ++ [⟨e,a,next⟩]) next := by
  cases tally_of_transition ht with
  | debounces metrics gauge registry served fanout ended underWay =>
    constructor
    · rw [metrics, gauge hb.pending]
    · rw [metrics, registry, hb.targets]
    · simp [metrics, builds_concat, served, hb.registrationsOk]
    · simp [metrics, builds_concat, served, hb.registrationsFailed]
    · simp [metrics, ended_concat, ended, hb.scansOk]
    · simp [metrics, ended_concat, ended, hb.scansFailed]
    · simp only [metrics, fanoutSize_concat, fanout, underWay]
      exact hb.scans
  | serves metrics debouncer registry served fanout ended underWay =>
    obtain ⟨hpending, hok, hfailed, hfiltered⟩ := @Registry.others_measure env.transport
      e.registry _ e.journal.metrics
    obtain ⟨hregistered, hrefused⟩ := @Registry.registrations_measure env.transport
      e.registry _ e.journal.metrics
    constructor
    · rw [metrics, hpending, debouncer, hb.pending]
    · rw [metrics, registry, Registry.targets_measure hb.targets]
    · rw [metrics, hregistered, builds_concat, served, List.countP_append, hb.registrationsOk]
      rfl
    · rw [metrics, hrefused, builds_concat, served, List.countP_append, hb.registrationsFailed]
      rfl
    · rw [metrics, hok, ended_concat, ended, hb.scansOk, Option.toList_none, List.append_nil]
    · rw [metrics, hfailed, ended_concat, ended, hb.scansFailed, Option.toList_none,
        List.append_nil]
    · rw [metrics, hok, hfailed, hfiltered, fanoutSize_concat, fanout, underWay]
      exact hb.scans
  | @launches targets batch metrics debouncer registry served fanout ended underWay =>
    constructor
    · rw [metrics, debouncer, hb.pending]
    · rw [metrics, registry, hb.targets]
    · simp [metrics, builds_concat, served, hb.registrationsOk]
    · simp [metrics, builds_concat, served, hb.registrationsFailed]
    · simp [metrics, ended_concat, ended, hb.scansOk]
    · simp [metrics, ended_concat, ended, hb.scansFailed]
    · -- What a target leaves out is counted at once, and all else waits to be scanned.
      have hscans := hb.scans
      have hsize := Scan.length_admitted_add_refused targets batch
      have hnew : fanoutSize [(targets,batch)] = targets.length * batch.size := by
        simp [fanoutSize]
      simp only [metrics, fanoutSize_concat, fanout, underWay, Option.toList_some, hnew]
      omega
  | @ends r metrics debouncer registry served fanout ended underWay =>
    have hscans := hb.scans
    have hother : fanoutSize (fanouts (stages ++ [⟨e,a,next⟩])) = fanoutSize (fanouts stages) := by
      rw [fanoutSize_concat, fanout]
      rfl
    cases herror : r.error with
    | none | some =>
      simp only [Metrics.countScan, herror, Option.isNone_none, Option.isNone_some, if_true,
        Bool.false_eq_true, if_false] at metrics
      constructor
      · rw [metrics, debouncer, hb.pending]
      · rw [metrics, registry, hb.targets]
      · simp [metrics, builds_concat, served, hb.registrationsOk]
      · simp [metrics, builds_concat, served, hb.registrationsFailed]
      · simp [metrics, ended_concat, ended, hb.scansOk, herror]
      · simp [metrics, ended_concat, ended, hb.scansFailed, herror]
      · simp only [metrics, hother]
        omega

theorem balance_run (h : run env actions {} = some e) : Balance env (path env actions {}) e :=
  path_induction (P := Balance env) ⟨rfl, rfl, rfl, rfl, rfl, rfl, rfl⟩
    (fun _ _ _ _ => balance_transition) h

theorem launched?_eq_fanout (h : Transition env e a next) :
    Stage.launched? ⟨e,a,next⟩ = (Stage.fanout? ⟨e,a,next⟩).map Prod.snd := by
  cases h with
  | launch asking got => simp [Stage.launched?, Stage.fanout?, asking, got, Flusher.asked?]
  | _ => rfl

theorem fanouts_of_isIdle (h : run env actions {} = some e) (hidle : e.flusher.isIdle = true) :
    (Debouncer.log env.config {} (touches (path env actions {}))).filterMap (·.2.flushed?) =
      (fanouts (path env actions {})).map Prod.snd := by
  have hflushed := (flushing_run h).2
  rw [asked_of_isIdle hidle, Option.toList_none, List.append_nil] at hflushed
  rw [fanouts, List.map_filterMap]
  exact hflushed.trans
    (List.filterMap_congr fun s hs => launched?_eq_fanout (transition_of_mem_path hs))

theorem length_builds (transport : Transport) (stages : List Stage) :
    (builds transport stages).length = (served stages).countP (·.2.isAdd) := by
  simp [builds, List.length_filterMap_eq_countP, Registry.isSome_built]

theorem failed_of_isIdle (h : run env actions {} = some e) (hidle : e.flusher.isIdle = true) :
    (ended (path env actions {})).countP (·.error.isSome) =
      e.journal.begun.countP fun entry =>
        (env.transport.respond entry.1 entry.2).error.isSome := by
  have hperm := begun_perm h
  rw [underWay_of_flight_none (flight_of_isIdle hidle), List.append_nil] at hperm
  have hcount := hperm.countP_eq (·.2.isSome)
  rw [List.countP_map, List.countP_map] at hcount
  exact hcount.symm

theorem told_of_fanout {flush : List Target × Batch}
    (hflush : flush ∈ fanouts (path env actions {})) :
    ∃ reg ∈ toldOf .flusher (path env actions {}), flush.1 = reg.values := by
  obtain ⟨s, hs, hfanout⟩ := List.mem_filterMap.mp hflush
  obtain ⟨before, after, hpath⟩ := List.append_of_mem hs
  obtain ⟨first, -, -, hrun, hbefore⟩ := run_of_path_eq_append hpath
  unfold Stage.fanout? at hfanout
  split at hfanout
  case h_1 batch final targets rest haction hasking got =>
    cases hfanout
    obtain ⟨reg, htold, -, hreply⟩ := told_of_asking hrun hasking got
    cases hreply
    have hsub : path env first {} ⊆ path env actions {} := by simp [hpath, hbefore]
    exact ⟨reg, List.filterMap_subset _ hsub htold, rfl⟩
  case h_2 => cases hfanout

/-- The metrics of a run against what it has done. -/
structure IsAccounted (env : Env) (stages : List Stage) (e : Engine) : Prop
    extends Balance env stages e where
  registrations : e.journal.metrics.registrationsOk + e.journal.metrics.registrationsFailed =
    (served stages).countP (·.2.isAdd)
  flushes : ∀ kind, e.flushes kind =
    flushCount kind (Debouncer.log env.config {} (touches stages))
  flushed : e.flusher.isIdle = true →
    (Debouncer.log env.config {} (touches stages)).filterMap (·.2.flushed?) =
      (fanouts stages).map Prod.snd
  told : ∀ flush ∈ fanouts stages, ∃ reg ∈ toldOf .flusher stages, flush.1 = reg.values
  dispatches : e.flusher.isIdle = true → e.journal.metrics.scansOk +
    e.journal.metrics.scansFailed + e.journal.metrics.filtered = fanoutSize (fanouts stages)
  failures : e.flusher.isIdle = true → e.journal.metrics.scansFailed =
    e.journal.begun.countP fun entry => (env.transport.respond entry.1 entry.2).error.isSome

/-- At every moment of a run the gauges are right, every add that was served is counted once by
whether its client could be made, and flushes are counted by what came of polls and of the last
take. Once nothing is under way, each resource of a flush is counted once for each target that the
flush was told of, and the failures among them are the scans that failed. -/
theorem metrics_account_for_everything (h : run env actions {} = some e) :
    IsAccounted env (path env actions {}) e where
  toBalance := balance_run h
  registrations := by
    rw [(balance_run h).registrationsOk, (balance_run h).registrationsFailed,
      ← length_builds env.transport, List.length_eq_countP_add_countP (·.2)]
    simp
  flushes kind := by
    have hzero : flushes {} kind = 0 := by cases kind <;> rfl
    rw [flushes_run h kind, hzero, Nat.zero_add]
  flushed := fanouts_of_isIdle h
  told _ := told_of_fanout
  dispatches hidle := by
    have hscans := (balance_run h).scans
    rwa [scansUnderWay_of_flight_none (flight_of_isIdle hidle)] at hscans
  failures hidle := by rw [(balance_run h).scansFailed, failed_of_isIdle h hidle]

/-- Of two pods one cannot be scanned, one of two targets takes neither, and a third target is not
registered. Then a flush is put off. -/
theorem metrics_account_for_one_flush :
    let c : Config := { quiet := 5, spacing := 30, discardFirst := false }
    let pod (name : String) : Resource.Key := ⟨.pod, some "web", name⟩
    let env : Env :=
      { Env.calm c with
        transport :=
          { fault := fun client => if client.endpoint = "bad" then some "refused" else none
            respond := fun _ scan =>
              if scan.key = pod "b" then { error := some "unreachable" } else {} } }
    let actions : List Action := [.request 0 (.add "t" ⟨"url", "token", "id", [], []⟩), .serve,
      .request 0 (.add "u" ⟨"url", "token", "id", [], ["web"]⟩), .serve,
      .request 0 (.add "v" ⟨"bad", "token", "id", [], []⟩), .serve, .request 0 (.delete "v"),
      .serve, .change (pod "a") ⟨none, some "1"⟩, .change (pod "b") ⟨none, some "1"⟩, .arm,
      .tick 5, .fire, .serve, .launch, .beginScan, .beginScan, .finishScan 1, .finishScan 0, .land,
      .change (pod "a") ⟨none, some "2"⟩, .arm, .tick 5, .fire]
    ∃ e, run env actions {} = some e ∧ IsAccounted env (path env actions {}) e ∧
      e.journal.metrics =
        { dispatched := 1, rateLimited := 1, scansOk := 1, scansFailed := 1, registrationsOk := 2
          registrationsFailed := 1, filtered := 2, pending := 1, targets := 2 } ∧
      fanoutSize (fanouts (path env actions {})) = 4 := by
  intro c pod env actions
  refine ⟨_, rfl, metrics_account_for_everything rfl, ?_, ?_⟩
  · decide +kernel
  · decide +kernel

end Engine
end WorkloadScan
