import WorkloadScan.Proofs.Engine.Observation

/-! The flush that is discarded. It is the first take of a run, and it loses all that watches have
noted by then: what they were told while they started up, and what has changed since. -/
namespace WorkloadScan.Engine
variable {env : Env} {e : Engine} {actions : List Action} {earlier later : List Stage} {s : Stage}
  {batch : Batch}

def Stage.discarded? (env : Env) (s : Stage) : Option Batch :=
  (s.outcome? env).bind fun outcome => if outcome.isDiscard then outcome.taken? else none

theorem log_touches (h : run env actions {} = some e) :
    Debouncer.log env.config {} (touches (path env actions {})) =
      (path env actions {}).filterMap fun s => (s.outcome? env).map (s.before.now,·) := by
  refine run_induction (P := fun stages _ => Debouncer.log env.config {} (touches stages) =
    stages.filterMap fun s => (s.outcome? env).map (s.before.now,·)) rfl ?_ h
  intro actions e a next hrun ih ht
  have hdebouncer : e.debouncer =
      Debouncer.run env.config {} (touches (path env actions {})) := (flushing_run hrun).1
  rw [touches_concat, Debouncer.log_append, ih, filterMap_concat, ← hdebouncer]
  cases htouch : touch a e <;> simp [Stage.outcome?, htouch, Debouncer.log]

theorem untaken_iff (env : Env) (stages : List Stage) :
    (∀ entry ∈ stages.filterMap (fun s => (s.outcome? env).map (s.before.now,·)),
      entry.2.taken? = none) ↔ ∀ t ∈ stages, t.taken? env = none := by
  constructor
  · intro hall t ht
    cases houtcome : t.outcome? env with
    | none => simp [Stage.taken?, houtcome]
    | some outcome =>
      have hentry :=
        hall (t.before.now,outcome) (List.mem_filterMap.mpr ⟨t, ht, by simp [houtcome]⟩)
      simpa [Stage.taken?, houtcome] using hentry
  · intro hall entry hentry
    obtain ⟨t, ht, hmap⟩ := List.mem_filterMap.mp hentry
    obtain ⟨outcome, houtcome, rfl⟩ := Option.map_eq_some_iff.mp hmap
    simpa [Stage.taken?, houtcome] using hall t ht

theorem discarded_iff (h : run env actions {} = some e)
    (hpath : path env actions {} = earlier ++ s :: later) :
    s.discarded? env = some batch ↔ env.config.discardFirst = true ∧ s.taken? env = some batch ∧
      ∀ t ∈ earlier, t.taken? env = none := by
  cases houtcome : s.outcome? env with
  | none => simp [Stage.discarded?, Stage.taken?, houtcome]
  | some outcome =>
    have hlog := log_touches h
    rw [hpath, List.filterMap_append, List.filterMap_cons, houtcome] at hlog
    have hfirst := Debouncer.isDiscard_iff_first (hpath ▸ closesLast_run h) hlog
    rw [untaken_iff] at hfirst
    simp only [Stage.discarded?, Stage.taken?, houtcome, Option.bind_some,
      Option.ite_none_right_eq_some, hfirst]
    constructor
    · rintro ⟨⟨hdiscard, -, hnone⟩, htaken⟩
      exact ⟨hdiscard, htaken, hnone⟩
    · rintro ⟨hdiscard, htaken, hnone⟩
      exact ⟨⟨hdiscard, by simp [htaken], hnone⟩, htaken⟩

/-- A watch has noted a change of a key for an event received after the steps of `before`. -/
def HasNoted (id : String) (before stages : List Stage) (key : Resource.Key) : Prop :=
  ∃ earlier noting later revision, stages = earlier ++ noting :: later ∧
    Notes id before earlier noting key revision

/-- A batch has only what watches have noted before the end of their first list. -/
structure IsStartup (earlier : List Stage) (batch : Batch) : Prop where
  early : ∀ key, batch.contains key = true →
    ∃ id before, HasNoted id before earlier key ∧ ¬HasListed id before
  spared : ∀ id before key, HasNoted id before earlier key → HasListed id before →
    batch.contains key = false

theorem lastChange_of_hasNoted {id : String} {before : List Stage} {key : Resource.Key}
    (hpath : path env actions {} = earlier ++ s :: later) (hwatched : IsWatched (path env actions {}))
    (huntaken : ∀ t ∈ earlier, t.taken? env = none) (hnoted : HasNoted id before earlier key) :
    ∃ revision, LastChange env earlier key revision := by
  obtain ⟨first, noting, rest, revision, hsplit, hnotes⟩ := hnoted
  have hwhole : path env actions {} = first ++ noting :: (rest ++ s :: later) := by
    rw [hpath, hsplit, List.append_assoc, List.cons_append]
  have hstep : noting.noted? = some (key,revision) :=
    (noted_iff_of_path hwhole hwatched).mpr ⟨id, before, hnotes⟩
  obtain ⟨made, -, -, hrun, hearlier⟩ := run_of_path_eq_append hpath
  rcases pending_or_taken hrun (hearlier.trans hsplit) hstep with hkey | ⟨t, ht, batch, htaken, -⟩
  · obtain ⟨latest, hget⟩ := Option.isSome_iff_exists.mp hkey
    have hlatest := (pending_iff_lastNoted hrun).mp hget
    rw [hearlier] at hlatest
    exact ⟨latest, (lastNoted_iff_lastChange hpath hwatched).mp hlatest⟩
  · have hnone := huntaken t (by simp [hsplit, ht])
    rw [htaken] at hnone
    cases hnone

/-- A batch is discarded only by the first take, and it holds the last change of everything that
watches have noted before. So it has nothing but what was noted before the end of a first list only
if nothing else has been noted at all. -/
theorem discarded_is_startup_iff (hwatched : ∀ key revision, Action.change key revision ∉ actions)
    (h : run env actions {} = some e) (hpath : path env actions {} = earlier ++ s :: later)
    (hdiscarded : s.discarded? env = some batch) :
    env.config.discardFirst = true ∧ (∀ t ∈ earlier, t.taken? env = none) ∧
    (∀ key revision, batch.get? key = some revision ↔ LastChange env earlier key revision) ∧
    (IsStartup earlier batch ↔
      ∀ id before key, HasNoted id before earlier key → ¬HasListed id before) := by
  have hpathWatched : IsWatched (path env actions {}) := isWatched_path hwatched
  obtain ⟨hdiscard, htaken, huntaken⟩ := (discarded_iff h hpath).mp hdiscarded
  have hbatch (key : Resource.Key) (revision : Resource.Revision) :
      batch.get? key = some revision ↔ LastChange env earlier key revision :=
    taken_iff_lastChange hpath hpathWatched htaken
  refine ⟨hdiscard, huntaken, hbatch, ?_⟩
  constructor
  · intro hstartup id before key hnoted hlisted
    have hspared : batch.contains key = false := hstartup.spared id before key hnoted hlisted
    obtain ⟨latest, hlatest⟩ := lastChange_of_hasNoted hpath hpathWatched huntaken hnoted
    simp [Table.contains, (hbatch key latest).mpr hlatest] at hspared
  · intro hnone
    refine ⟨fun key hkey => ?_, fun id before key hnoted hlisted => ?_⟩
    · obtain ⟨revision, hget⟩ := Option.isSome_iff_exists.mp hkey
      obtain ⟨hsplit, hnotes, -, -⟩ := (hbatch key revision).mp hget
      have hnoted : HasNoted _ _ earlier key := ⟨_, _, _, _, hsplit, hnotes⟩
      exact ⟨_, _, hnoted, hnone _ _ _ hnoted⟩
    · exact absurd hlisted (hnone id before key hnoted)

/-- A pod that is applied before the first list is complete is discarded with the first flush. -/
theorem discarded_is_startup_before_first_list :
    let env : Env := .calm { quiet := 5 }
    let pod : Cluster.Object := { name := some "a", ns := some "web", version := some "1" }
    let actions : List Action := [.request 0 (.add "t" ⟨"url", "token", "id", [], []⟩), .serve,
      .startWatch "pods" .pod [.pod], .watchEvent "pods" (.applied pod), .serve,
      .resumeWatch "pods", .arm, .tick 5, .fire]
    (∀ key revision, Action.change key revision ∉ actions) ∧
    ∃ e, run env actions {} = some e ∧ ∃ earlier s batch,
      path env actions {} = earlier ++ [s] ∧ s.discarded? env = some batch ∧
      batch.get? ⟨.pod, some "web", "a"⟩ = some ⟨none, some "1"⟩ ∧ IsStartup earlier batch := by
  intro env pod actions
  have hwatched : ∀ key revision, Action.change key revision ∉ actions := by simp [actions]
  let earlier : List Stage := (path env actions {}).take 8
  let s : Stage := ((path env actions {}).drop 8).head (by decide)
  let batch : Batch := ⟨[(⟨.pod, some "web", "a"⟩,⟨none, some "1"⟩)], by decide⟩
  refine ⟨hwatched, _, rfl, earlier, s, batch, rfl, rfl, rfl, ?_⟩
  have hstartup := (@discarded_is_startup_iff env _ actions earlier [] s batch hwatched rfl rfl
    rfl).2.2.2
  refine hstartup.mpr fun id before key hnoted hlisted => ?_
  obtain ⟨first, noting, later, revision, hfirst, hnotes⟩ := hnoted
  obtain ⟨hbefore, -⟩ := hnotes
  obtain ⟨t, ht, haction⟩ := hlisted
  have hmem : t ∈ path env actions {} :=
    (List.take_sublist 8 _).subset (show t ∈ earlier by rw [hfirst, hbefore]; simp [ht])
  have hlist : Action.watchEvent id .listComplete ∈ actions := haction ▸ action_of_mem_path hmem
  simp [actions] at hlist

/-- A pod that is applied after the first list is complete is discarded as well, and never
scanned. -/
theorem discards_change_after_first_list :
    let env : Env := .calm { quiet := 5 }
    let pod (name version : String) : Cluster.Object :=
      { name := some name, ns := some "web", version := some version }
    let actions : List Action := [.request 0 (.add "t" ⟨"url", "token", "id", [], []⟩), .serve,
      .startWatch "pods" .pod [.pod], .watchEvent "pods" .listing,
      .watchEvent "pods" (.listed (pod "a" "1")), .watchEvent "pods" .listComplete,
      .watchEvent "pods" (.applied (pod "b" "2")), .serve, .resumeWatch "pods", .arm, .tick 5,
      .fire]
    ∃ e, run env actions {} = some e ∧ e.debouncer.pending.isEmpty = true ∧
      ∃ earlier s batch, path env actions {} = earlier ++ [s] ∧ s.discarded? env = some batch ∧
        ¬IsStartup earlier batch := by
  intro env pod actions
  let key : Resource.Key := ⟨.pod, some "web", "b"⟩
  let steps : List Stage := path env actions {}
  let batch : Batch := ⟨[(key,⟨none, some "2"⟩)], by decide⟩
  let noting : Stage := (steps.drop 8).head (by decide)
  let since : List Stage := (steps.drop 7).take 1
  have hquiet : ∀ t ∈ since, t.action.caller? ≠ some (.observer "pods") := by
    have hall : since.all (·.action.caller? ≠ some (.observer "pods")) = true := rfl
    simpa using hall
  have hreceipt : Receipt "pods" (steps.take 6) ((steps.drop 6).head (by decide))
      { observer := { kind := .pod, watched := [.pod], synced := true } } (pod "b" "2") :=
    ⟨rfl, ⟨_, rfl, .inl rfl⟩, rfl⟩
  have hnotes : Notes "pods" (steps.take 6) (steps.take 8) noting key ⟨none, some "2"⟩ :=
    .intro rfl hreceipt hquiet rfl rfl rfl rfl rfl
  refine ⟨_, rfl, rfl, steps.take 11, (steps.drop 11).head (by decide), batch, rfl, rfl, ?_⟩
  intro hstartup
  have hnoted : HasNoted "pods" (steps.take 6) (steps.take 11) key :=
    ⟨steps.take 8, noting, (steps.drop 9).take 2, _, rfl, hnotes⟩
  have hlisted : HasListed "pods" (steps.take 6) := by
    have hany : (steps.take 6).any (·.action = .watchEvent "pods" .listComplete) = true := rfl
    simpa [HasListed] using hany
  cases hstartup.spared _ _ _ hnoted hlisted

end WorkloadScan.Engine
