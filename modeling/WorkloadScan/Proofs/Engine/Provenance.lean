import WorkloadScan.Proofs.Engine.Fanout
import WorkloadScan.Proofs.Engine.Observation

/-! Where scans come from, if watches alone note changes. Every scan belongs to a flush, which scans
for each target that it was told of what watches have noted since the take before it, once and as it
was noted last. What an observer lists first and what is deleted is no reason for a scan. -/
namespace WorkloadScan.Engine
open Registry (IsKeyed isKeyed_empty isKeyed_carryOut)
variable {env : Env} {e next : Engine} {a : Action} {actions : List Action}
  {stages whole rest : List Stage}

/-- A step of a run in which a batch is taken to be flushed. -/
structure Flush (env : Env) (stages : List Stage) where
  before : List Stage
  taking : Stage
  after : List Stage
  batch : Batch
  split : stages = before ++ taking :: after
  taken : taking.flushed? env = some batch

namespace Flush

/-- The steps from the take until the flush lands. -/
def window (f : Flush env stages) : List Stage := f.after.takeWhile (·.action ≠ .land)

def IsOver (f : Flush env stages) : Prop := ∃ s ∈ f.after, s.action = .land

def scans (f : Flush env stages) : List Scan := f.window.filterMap Stage.begun?

/-- A flush is to scan a resource for a target that was registered when its question for the targets
was served, if the target takes it and its last change since the take before is the one to scan. -/
structure IsDue (f : Flush env stages) (scan : Scan) : Prop where
  registered : ∃ registry, toldOf .flusher f.window = [registry] ∧
    registry.get? scan.target.key = some scan.target
  admitted : scan.isAdmitted = true
  changed : LastChange env f.before scan.key scan.revision

def extend (f : Flush env stages) (h : whole = stages ++ rest) : Flush env whole where
  before := f.before
  taking := f.taking
  after := f.after ++ rest
  batch := f.batch
  split := by
    calc
      whole = stages ++ rest := h
      _ = (f.before ++ f.taking :: f.after) ++ rest := congrArg (· ++ rest) f.split
      _ = f.before ++ f.taking :: (f.after ++ rest) := by simp
  taken := f.taken

theorem not_isOver {f : Flush env stages} : ¬f.IsOver ↔ ∀ s ∈ f.after, s.action ≠ .land := by
  simp [IsOver]

theorem window_of_aloft {f : Flush env stages} (h : ∀ s ∈ f.after, s.action ≠ .land) :
    f.window = f.after := by
  rw [window, List.takeWhile_eq_self_iff]
  simpa using h

theorem window_of_landing {f : Flush env stages} {window rest : List Stage} {landing : Stage}
    (hsplit : f.after = window ++ landing :: rest) (hlanding : landing.action = .land)
    (h : ∀ s ∈ window, s.action ≠ .land) : f.window = window := by
  rw [Flush.window, hsplit, List.takeWhile_append_of_pos (by simpa using h),
    List.takeWhile_cons_of_neg (by simp [hlanding]), List.append_nil]

/-- A flush begins the scans of its batch for the targets that it has been told of, in order, and
all of them before it lands. -/
theorem scans_run (h : run env actions {} = some e) (f : Flush env (path env actions {})) :
    (f.scans = [] ∧ ¬f.IsOver) ∨ ∃ registry, toldOf .flusher f.window = [registry] ∧
      f.scans <+: Scan.admitted registry.values f.batch ∧
      (f.IsOver → f.scans = Scan.admitted registry.values f.batch) := by
  cases course_run h f.split f.taken with
  | asking asked quiet aloft begun =>
    refine .inl ⟨?_, not_isOver.mpr aloft⟩
    rw [scans, window_of_aloft aloft, begun]
  | @scanning registry flight flying aloft told begun =>
    have hscans : f.scans ++ flight.waiting = Scan.admitted registry.values f.batch := by
      rw [scans, window_of_aloft aloft, begun]
    refine .inr ⟨registry, by rw [window_of_aloft aloft, told], ⟨_, hscans⟩, fun hover => ?_⟩
    exact absurd hover (not_isOver.mpr aloft)
  | @ended window rest landing registry split landed aloft told begun =>
    have hwindow := window_of_landing split landed aloft
    have hscans : f.scans = Scan.admitted registry.values f.batch := by rw [scans, hwindow, begun]
    exact .inr ⟨registry, by rw [hwindow, told], hscans ▸ List.prefix_refl _,
      fun _ => hscans⟩

theorem told_of_isOver (h : run env actions {} = some e) {f : Flush env (path env actions {})}
    (hover : f.IsOver) : ∃ registry, toldOf .flusher f.window = [registry] := by
  rcases scans_run h f with ⟨-, haloft⟩ | ⟨registry, htold, -⟩
  · exact absurd hover haloft
  · exact ⟨registry, htold⟩

theorem window_subset (f : Flush env stages) : f.window ⊆ stages := by
  intro s hs
  have hafter : s ∈ f.after := (List.takeWhile_sublist _).subset hs
  exact (congrArg (s ∈ ·) f.split).mpr (by simp [hafter])

end Flush

theorem isKeyed_of_told {caller : Caller} {registry : Registry}
    (hstages : stages ⊆ path env actions {}) (h : toldOf caller stages = [registry]) :
    IsKeyed registry := by
  have hmem : registry ∈ toldOf caller stages := by simp [h]
  obtain ⟨s, hs, htold⟩ := List.mem_filterMap.mp hmem
  split at htold
  case isFalse => cases htold
  case isTrue =>
    cases htold
    obtain ⟨before, after, hpath⟩ := List.append_of_mem (hstages hs)
    rw [(traffic_of_path_eq_append hpath).registry]
    exact isKeyed_carryOut isKeyed_empty _

namespace Flush

theorem isDue_iff (hwatched : IsWatched (path env actions {}))
    (f : Flush env (path env actions {})) {registry : Registry}
    (htold : toldOf .flusher f.window = [registry]) {scan : Scan} :
    f.IsDue scan ↔ scan ∈ Scan.admitted registry.values f.batch := by
  have hkeyed : IsKeyed registry := isKeyed_of_told f.window_subset htold
  have hchanged : f.batch.get? scan.key = some scan.revision ↔
      LastChange env f.before scan.key scan.revision :=
    taken_iff_lastChange f.split hwatched (taken?_of_flushed f.taken)
  rw [Scan.mem_admitted hkeyed, hchanged]
  constructor
  · rintro ⟨⟨registry', htold', hget⟩, hadmitted, hlast⟩
    cases htold.symm.trans htold'
    exact ⟨hget, hadmitted, hlast⟩
  · rintro ⟨hget, hadmitted, hlast⟩
    exact ⟨⟨registry, htold, hget⟩, hadmitted, hlast⟩

theorem scans_of_iff {P : Scan → Prop} (h : run env actions {} = some e)
    (f : Flush env (path env actions {}))
    (hP : ∀ registry, toldOf .flusher f.window = [registry] →
      ∀ scan, P scan ↔ scan ∈ Scan.admitted registry.values f.batch) :
    (∀ scan ∈ f.scans, P scan) ∧ (f.scans.map Scan.pair).Nodup ∧
      (f.IsOver → ∀ scan, P scan → scan ∈ f.scans) := by
  rcases scans_run h f with ⟨hnone, haloft⟩ | ⟨registry, htold, hstart, hall⟩
  · rw [hnone]
    exact ⟨by simp, by simp, fun hover => absurd hover haloft⟩
  · have hkeyed : IsKeyed registry := isKeyed_of_told f.window_subset htold
    refine ⟨fun scan hscan => (hP registry htold scan).mpr (hstart.subset hscan), ?_, ?_⟩
    · exact (Scan.nodup_map_pair_admitted hkeyed f.batch).sublist (hstart.sublist.map Scan.pair)
    · intro hover scan hscan
      rw [hall hover]
      exact (hP registry htold scan).mp hscan

theorem isDue_scans (hwatched : IsWatched (path env actions {})) (h : run env actions {} = some e)
    (f : Flush env (path env actions {})) :
    (∀ scan ∈ f.scans, f.IsDue scan) ∧ (f.scans.map Scan.pair).Nodup ∧
      (f.IsOver → ∀ scan, f.IsDue scan → scan ∈ f.scans) :=
  scans_of_iff h f fun _ htold _ => isDue_iff hwatched f htold

end Flush

/-! ### Which flush a scan belongs to -/

theorem exists_flush_of_busy (h : run env actions {} = some e) (hbusy : e.flusher.isIdle = false) :
    ∃ f : Flush env (path env actions {}), ∀ s ∈ f.after, s.action ≠ .land := by
  revert hbusy
  refine path_induction (P := fun stages e => e.flusher.isIdle = false →
    ∃ f : Flush env stages, ∀ s ∈ f.after, s.action ≠ .land) ?_ ?_ h
  · intro hbusy
    cases hbusy
  · intro stages e a next ih ht hbusy
    have goOn (hbefore : e.flusher.isIdle = false) (ha : a ≠ .land) :
        ∃ f : Flush env (stages ++ [⟨e,a,next⟩]), ∀ s ∈ f.after, s.action ≠ .land := by
      obtain ⟨f, haloft⟩ := ih hbefore
      exact ⟨f.extend rfl, forall_mem_concat.mpr ⟨haloft, ha⟩⟩
    cases flusherMove_of_transition ht with
    | stays other aloft begun flushed same => exact goOn (same ▸ hbusy) aloft
    | idles _ _ _ _ _ _ left | lands _ _ _ left =>
      rw [left] at hbusy
      cases hbusy
    | @flushes batch idle aloft call returned begun flushed left =>
      exact ⟨⟨stages, _, [], batch, rfl, flushed⟩, by simp⟩
    | launches asking action => exact goOn (by rw [asking]; rfl) (by simp [action])
    | begins scanning action | finishes scanning action =>
      exact goOn (by rw [scanning]; rfl) (by simp [action])

theorem exists_inquiry (h : run env actions {} = some e) (hasked : e.flusher.asked? = some batch) :
    ∃ since, since ⊆ path env actions {} ∧ Inquiry .flusher since e := by
  have hbusy : e.flusher.isIdle = false := by
    by_contra hidle
    rw [asked_of_isIdle (by simpa using hidle)] at hasked
    cases hasked
  obtain ⟨f, haloft⟩ := exists_flush_of_busy h hbusy
  cases course_run h f.split f.taken with
  | asking asked quiet =>
    have hcall := (asks_of_flushed (transition_of_path_eq_append f.split) f.taken).1
    refine ⟨f.after, ?_, inquiry_run .flusher h f.split hcall quiet⟩
    rw [← Flush.window_of_aloft haloft]
    exact f.window_subset
  | scanning flying =>
    rw [asked_of_flight flying] at hasked
    cases hasked
  | @ended window rest landing reg split landed =>
    exact absurd landed (haloft landing (by simp [split]))

theorem exists_flush_of_begun {earlier later : List Stage} {s : Stage} {scan : Scan}
    (hpath : path env actions {} = earlier ++ s :: later) (hbegun : s.begun? = some scan) :
    ∃ (f : Flush env (path env actions {})) (flown rest : List Stage),
      earlier = f.before ++ f.taking :: flown ∧ f.window = flown ++ s :: rest := by
  obtain ⟨first, -, -, hrun, rfl⟩ := run_of_path_eq_append hpath
  have hbegin : s.action = .beginScan ∧ s.before.flusher.isIdle = false := by
    unfold Stage.begun? at hbegun
    split at hbegun
    case h_1 haction =>
      obtain ⟨flight, hflight, -⟩ := Option.bind_eq_some_iff.mp hbegun
      refine ⟨haction, ?_⟩
      by_contra hidle
      rw [flight_of_isIdle (by simpa using hidle)] at hflight
      cases hflight
    case h_2 => cases hbegun
  obtain ⟨f, haloft⟩ := exists_flush_of_busy hrun hbegin.2
  refine ⟨f.extend hpath, f.after, later.takeWhile (·.action ≠ .land), f.split, ?_⟩
  rw [Flush.window, Flush.extend, List.takeWhile_append_of_pos (by simpa using haloft),
    List.takeWhile_cons_of_pos (by simp [hbegin.1])]

theorem exists_landing_of_flush (h : run env actions {} = some e)
    (f : Flush env (path env actions {})) (hflying : ¬f.IsOver) :
    ∃ more landed, more.all Action.isScanning = true ∧
      run env (more ++ [.land]) e = some landed := by
  cases course_run h f.split f.taken with
  | asking asked quiet aloft begun =>
    obtain ⟨final, hasking⟩ : ∃ final, e.flusher = .asking f.batch final := by
      cases hflusher : e.flusher <;> simp_all [Flusher.asked?]
    have hcall := (asks_of_flushed (transition_of_path_eq_append f.split) f.taken).1
    obtain ⟨first, middle, flight, hfirst, hlaunch, hscanning⟩ :=
      exists_launch h f.split hcall hasking quiet
    obtain ⟨more, landed, hmore, hland⟩ := exists_landing env hscanning
    refine ⟨first ++ more, landed, ?_, ?_⟩
    · rw [List.all_append, hfirst, hmore]
      rfl
    · rw [List.append_assoc, run_append hlaunch, hland]
  | @scanning registry flight flying aloft told begun =>
    obtain ⟨final, hscanning⟩ : ∃ final, e.flusher = .scanning flight final := by
      cases hflusher : e.flusher <;> simp_all [Flusher.flight?]
    exact exists_landing env hscanning
  | ended split landed =>
    exact absurd ⟨_, by rw [split]; simp, landed⟩ hflying

/-- In a run in which watches alone note changes, every scan begun belongs to a flush that was still
to land. A flush scans what is due and each of it once: for every target registered when its
question was served that takes the resource, what watches have noted since the take before, as noted
last. When a flush lands it has scanned all that is due, and one that has not landed can be brought
to land. An object that is applied, or listed again, and not left to its owners always makes its
watch ask for the targets, and with its answer, if it lists any, the watch notes the change. -/
theorem scans_provenance (hwatched : ∀ key revision, Action.change key revision ∉ actions)
    (h : run env actions {} = some e) :
    e.journal.begun =
      ((path env actions {}).filterMap fun s => s.begun?.map (s.before.now,·)) ∧
    (∀ earlier received later id watch object,
      path env actions {} = earlier ++ received :: later →
      Receipt id earlier received watch object →
        Pursues env id earlier received later watch object e) ∧
    (∀ earlier s later scan, path env actions {} = earlier ++ s :: later → s.begun? = some scan →
      ∃ (f : Flush env (path env actions {})) (flown rest : List Stage),
        earlier = f.before ++ f.taking :: flown ∧ f.window = flown ++ s :: rest) ∧
    ∀ f : Flush env (path env actions {}),
      (∀ scan ∈ f.scans, f.IsDue scan) ∧ (f.scans.map Scan.pair).Nodup ∧
      (f.IsOver → (∃ registry, toldOf .flusher f.window = [registry]) ∧
        ∀ scan, f.IsDue scan → scan ∈ f.scans) ∧
      (¬f.IsOver → ∃ more landed, more.all Action.isScanning = true ∧
        run env (actions ++ more) {} = some landed ∧
        ∃ g : Flush env (path env (actions ++ more) {}), g.before = f.before ∧
          g.taking = f.taking ∧ g.IsOver ∧ ∀ scan, g.IsDue scan → scan ∈ g.scans) := by
  refine ⟨by simpa using begun_run h, fun _ _ _ _ _ _ => pursues_of_receipt h,
    fun _ _ _ _ => exists_flush_of_begun, fun f => ?_⟩
  obtain ⟨hdue, honce, hall⟩ := f.isDue_scans (isWatched_path hwatched) h
  refine ⟨hdue, honce, fun hover => ⟨Flush.told_of_isOver h hover, hall hover⟩,
    fun hflying => ?_⟩
  obtain ⟨more, landed, hmore, hland⟩ := exists_landing_of_flush h f hflying
  have hrun : run env (actions ++ (more ++ [.land])) {} = some landed := by
    rw [run_append h, hland]
  let g : Flush env (path env (actions ++ (more ++ [.land])) {}) := f.extend (path_append h)
  have hover : g.IsOver := by
    obtain ⟨s, hs, hlanding⟩ := mem_path_of_last hland
    exact ⟨s, List.mem_append_right _ hs, hlanding⟩
  have hwatched' : ∀ key revision, Action.change key revision ∉ actions ++ (more ++ [.land]) := by
    intro key revision hmem
    rcases List.mem_append.mp hmem with hold | hnew
    · exact hwatched key revision hold
    · rcases List.mem_append.mp hnew with hscan | hlast
      · cases List.all_eq_true.mp hmore _ hscan
      · cases List.mem_singleton.mp hlast
  refine ⟨more ++ [.land], landed, by simp [hmore, Action.isScanning], hrun, g, rfl, rfl, hover, ?_⟩
  exact (g.isDue_scans (isWatched_path hwatched') hrun).2.2 hover

/-- A pod that is listed first is not scanned. Once it is listed again it is, with a pod that has
been applied in between. -/
theorem scans_provenance_after_first_list :
    let env : Env := .calm { quiet := 5, discardFirst := false }
    let target : Target := ⟨"t", "url", "id", .ofTexts [] [], ⟨"url", "token"⟩⟩
    let pod (name version : String) : Cluster.Object :=
      { name := some name, ns := some "web", version := some version }
    let first : List Action := [.request 0 (.add "t" ⟨"url", "token", "id", [], []⟩), .serve,
      .startWatch "pods" .pod [.pod], .watchEvent "pods" .listing,
      .watchEvent "pods" (.listed (pod "a" "1")), .watchEvent "pods" .listComplete,
      .watchEvent "pods" (.applied (pod "b" "2")), .serve, .resumeWatch "pods",
      .watchEvent "pods" .listing]
    let last : List Action := [.serve, .resumeWatch "pods", .watchEvent "pods" .listComplete, .arm,
      .tick 5, .fire, .serve, .launch, .beginScan, .beginScan, .finishScan 0, .finishScan 0, .land]
    let actions : List Action := first ++ .watchEvent "pods" (.listed (pod "a" "1")) :: last
    let applied : Scan := ⟨target, ⟨.pod, some "web", "b"⟩, ⟨none, some "2"⟩⟩
    let relisted : Scan := ⟨target, ⟨.pod, some "web", "a"⟩, ⟨none, some "1"⟩⟩
    (∀ key revision, Action.change key revision ∉ actions) ∧
    ∃ e, run env actions {} = some e ∧ e.journal.begun = [(5,applied), (5,relisted)] ∧
      (∃ received later watch, path env actions {} = path env first {} ++ received :: later ∧
        received.action = .watchEvent "pods" (.listed (pod "a" "1")) ∧
        Receipt "pods" (path env first {}) received watch (pod "a" "1") ∧
        Pursues env "pods" (path env first {}) received later watch (pod "a" "1") e) ∧
      ∃ f : Flush env (path env actions {}), f.scans = [applied, relisted] ∧ f.IsOver ∧
        f.IsDue relisted := by
  intro env target pod first last actions applied relisted
  have hwatched : ∀ key revision, Action.change key revision ∉ actions := by
    simp [actions, first, last]
  have hscanned : (run env actions {}).map (·.journal.begun) =
      some [(5,applied), (5,relisted)] := by decide +kernel
  obtain ⟨e, h, hbegun⟩ := Option.map_eq_some_iff.mp hscanned
  obtain ⟨-, hreceipt, -, hflush⟩ := scans_provenance hwatched h
  refine ⟨hwatched, e, h, hbegun, ?_, ?_⟩
  · have hwatch : (run env first {}).bind (·.watches.get? "pods") =
        some { observer := ⟨.pod, [.pod], true⟩ } := by decide +kernel
    obtain ⟨middle, hfirst, found⟩ := Option.bind_eq_some_iff.mp hwatch
    obtain ⟨next, hstep, -⟩ := Option.bind_eq_some_iff.mp ((run_append hfirst).symm.trans h)
    have hsplit : path env actions {} = path env first {} ++
        ⟨middle,.watchEvent "pods" (.listed (pod "a" "1")),next⟩ :: path env last next :=
      path_append_cons hfirst hstep
    have hlisted : HasListed "pods" (path env first {}) := by
      have hany : (path env first {}).any (·.action = .watchEvent "pods" .listComplete) = true := by
        decide +kernel
      simpa [HasListed] using hany
    have hreceived : Receipt "pods" (path env first {}) ⟨middle,_,next⟩ _ (pod "a" "1") :=
      ⟨found, ⟨_, rfl, .inr ⟨rfl, hlisted⟩⟩, rfl⟩
    exact ⟨_, _, _, hsplit, rfl, hreceived, hreceipt _ _ _ _ _ _ hsplit hreceived⟩
  · let steps : List Stage := path env actions {}
    let taking : Stage := (steps.drop 16).head (by decide +kernel)
    let f : Flush env steps :=
      { before := steps.take 16
        taking
        after := (steps.drop 16).tail
        batch := (taking.flushed? env).get (by decide +kernel)
        split := by rw [List.cons_head_tail, List.take_append_drop]
        taken := (Option.some_get _).symm }
    have hscans : f.scans = [applied, relisted] := by decide +kernel
    have hover : f.IsOver := by
      have hany : f.after.any (·.action = .land) = true := by decide +kernel
      simpa [Flush.IsOver] using hany
    exact ⟨f, hscans, hover, (hflush f).1 relisted (by simp [hscans])⟩

end WorkloadScan.Engine
