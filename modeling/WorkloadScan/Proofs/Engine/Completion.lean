import WorkloadScan.Proofs.Engine.Accounting

/-! What a flush has done when it lands. Its scans are a flight from the targets it was told of and
its batch, and whatever the orders and the outcomes, the numbers it reports are those of the
targets and the batch. -/
namespace WorkloadScan.Engine
open Flight (Flown)
variable {env : Env} {e next : Engine} {a : Action} {actions : List Action} {batch : Batch}
  {targets : List Target} {before since : List Stage} {s : Stage}

def Stage.begunResult? (env : Env) (s : Stage) : Option (Scan × Option String) :=
  s.begun?.map fun scan => env.resultOf (s.before.now,scan)

def begunResults (env : Env) (stages : List Stage) : List (Scan × Option String) :=
  stages.filterMap (Stage.begunResult? env)

theorem begunResults_concat (env : Env) (stages : List Stage) (s : Stage) :
    begunResults env (stages ++ [s]) = begunResults env stages ++ (s.begunResult? env).toList :=
  filterMap_concat ..

theorem fanout?_eq_some (h : s.fanout? = some (targets,batch)) :
    s.action = .launch ∧ (∃ final, s.before.flusher = .asking batch final) ∧
      ∃ replies, takeReply .flusher s.before.replies = some (.targets targets,replies) := by
  unfold Stage.fanout? at h
  split at h
  case h_1 haction hasking hgot =>
    cases h
    exact ⟨haction, ⟨_, hasking⟩, _, hgot⟩
  case h_2 => cases h

/-- What a flush has begun and ended since its targets came is a flight. -/
structure Flies (env : Env) (targets : List Target) (batch : Batch) (since : List Stage)
    (e : Engine) (flight : Flight) : Prop where
  scanning : e.flusher.flight? = some flight
  flown :
    Flown env.config.limit (.start targets batch) (begunResults env since) (ended since) flight

theorem Flies.stays {flight : Flight} (h : Flies env targets batch since e flight)
    (hflight : next.flusher.flight? = e.flusher.flight?)
    (hbegun : Stage.begun? ⟨e,a,next⟩ = none) (hended : Stage.ended? ⟨e,a,next⟩ = none) :
    Flies env targets batch (since ++ [⟨e,a,next⟩]) next flight where
  scanning := hflight.trans h.scanning
  flown := by
    rw [begunResults_concat, ended_concat, Stage.begunResult?, hbegun, hended]
    simpa using h.flown

theorem flies_transition {flight : Flight} (h : Flies env targets batch since e flight)
    (ht : Transition env e a next) (haloft : a ≠ .land) :
    ∃ flight', Flies env targets batch (since ++ [⟨e,a,next⟩]) next flight' := by
  have hscanning := h.scanning
  cases ht with
  | @beginScan flight flight' final scan scanning begun =>
    rw [scanning] at hscanning
    cases hscanning
    refine ⟨flight', rfl, ?_⟩
    have hresult : Stage.begunResult? env ⟨e,.beginScan,{ e with
        flusher := .scanning flight' final
        journal := { e.journal with begun := e.journal.begun ++ [(e.now,scan)] } }⟩ =
        some (scan,(env.transport.respond e.now scan).error) := by
      simp [Stage.begunResult?, Stage.begun?, scanning, Flusher.flight?,
        (Flight.begin?_eq_some begun).1, Env.resultOf]
    rw [begunResults_concat, hresult, ended_concat]
    simpa [Stage.ended?] using h.flown.begins begun
  | @finishScan place flight flight' final running scanning finished =>
    rw [scanning] at hscanning
    cases hscanning
    refine ⟨flight', rfl, ?_⟩
    rw [begunResults_concat, ended_concat]
    simpa [Stage.begunResult?, Stage.begun?, Stage.ended?, scanning, Flusher.flight?,
      (Flight.running_of_finish finished).1] using h.flown.ends finished
  | land => exact absurd rfl haloft
  | arm idle | wake idle | fire idle | quitFlusher idle | launch idle =>
    rw [idle] at hscanning
    cases hscanning
  | _ => exact ⟨flight, h.stays (by simp [note]) rfl rfl⟩

theorem flies_of_launch (h : run env actions {} = some e)
    (hpath : path env actions {} = before ++ s :: since)
    (hfanout : s.fanout? = some (targets,batch)) (haloft : ∀ t ∈ since, t.action ≠ .land) :
    ∃ flight, Flies env targets batch since e flight := by
  revert since
  refine run_induction (P := fun stages e => ∀ {since}, stages = before ++ s :: since →
    (∀ t ∈ since, t.action ≠ .land) → ∃ flight, Flies env targets batch since e flight) ?_ ?_ h
  · intro since hsplit
    simp at hsplit
  · intro actions e a next hrun ih ht since hsplit haloft
    rcases concat_eq_append_cons.mp hsplit with ⟨-, rfl, rfl⟩ | ⟨since, rfl, hinit⟩
    · obtain ⟨rfl, ⟨final, hasking⟩, replies, hgot⟩ := fanout?_eq_some hfanout
      cases ht with
      | launch asking got =>
        cases asking.symm.trans hasking
        cases got.symm.trans hgot
        exact ⟨_, rfl, .stays⟩
    · obtain ⟨hold, hlast⟩ := forall_mem_concat.mp haloft
      obtain ⟨flight, hflies⟩ := ih hinit hold
      exact flies_transition hflies ht hlast

theorem reports_of_land {flight : Flight} (h : Flies env targets batch since e flight)
    (hland : step env .land e = some next) :
    flight.isOver = true ∧ next.journal.notices = e.journal.notices ++
      [.flushed batch.size targets.length flight.scanned flight.failed flight.filtered] := by
  have hscanning := h.scanning
  cases transition_of_step hland with
  | land scanning done =>
    rw [scanning] at hscanning
    cases hscanning
    obtain ⟨hresources, htargets⟩ := h.flown.accounts.sizes
    change _ = batch.size at hresources
    change _ = targets.length at htargets
    exact ⟨done, by simp [note, hresources, htargets]⟩

/-- Whatever the orders of the targets and of the batch and the limit, in whatever order scans end,
and whichever of them fail, a flush can go on until it is over, and then each resource has been
scanned once for each target that takes it and for no other. Each pair is counted once, as scanned,
failed or filtered. The flushes of the engine are such, and report these counts. -/
theorem fanout_complete :
    (∀ (limit : Nat) (targets order : List Target) (batch listing : Batch)
      (begun : List (Scan × Option String)) (ended : List Flight.Running) (f : Flight),
      order.Perm targets → listing.entries.Perm batch.entries →
      Flown limit (.start order listing) begun ended f →
      (∃ more done landed,
        Flown limit (.start order listing) (begun ++ more) (ended ++ done) landed ∧
        landed.isOver = true) ∧
      begun.length ≤ targets.length * batch.size ∧ ended.length ≤ begun.length ∧
      (limit ≠ 0 → f.running.length ≤ limit) ∧
      (f.isOver = true → Flight.IsFanout targets batch begun f ∧
        ∀ fails : Scan → Bool, (∀ entry ∈ begun, entry.2.isSome = fails entry.1) →
          f.scanned = (Scan.pairs targets batch).countP (fun s => s.isAdmitted && !fails s) ∧
          f.failed = (Scan.pairs targets batch).countP (fun s => s.isAdmitted && fails s))) ∧
    (∀ (env : Env) (actions : List Action) (e : Engine) (before since : List Stage) (s : Stage)
      (targets : List Target) (batch : Batch), run env actions {} = some e →
      path env actions {} = before ++ s :: since → s.fanout? = some (targets,batch) →
      (∀ t ∈ since, t.action ≠ .land) →
      ∃ flight, e.flusher.flight? = some flight ∧
        Flown env.config.limit (.start targets batch) (begunResults env since) (ended since)
          flight ∧
        ∀ next, step env .land e = some next →
          Flight.IsFanout targets batch (begunResults env since) flight ∧
          next.journal.notices = e.journal.notices ++
            [.flushed batch.size targets.length flight.scanned flight.failed
              flight.filtered]) := by
  refine ⟨?_, ?_⟩
  · intro limit targets order batch listing begun ended f htargets hbatch hflown
    obtain ⟨hbegun, hended⟩ := hflown.length_le
    refine ⟨hflown.exists_over, ?_, ?_, ?_, ?_⟩
    · refine hbegun.trans ?_
      rw [← htargets.length_eq, Table.size, ← hbatch.length_eq]
      exact (List.length_filter_le ..).trans (Scan.length_pairs order listing).le
    · simpa [Flight.start] using hended
    · exact fun hlimit => hflown.length_running_le hlimit (Nat.zero_le _)
    · intro hover
      exact ⟨hflown.isFanout htargets hbatch hover, fun fails =>
        hflown.counts_of_fails htargets hbatch hover⟩
  · intro env actions e before since s targets batch hrun hpath hfanout haloft
    obtain ⟨flight, hflies⟩ := flies_of_launch hrun hpath hfanout haloft
    refine ⟨flight, hflies.scanning, hflies.flown, fun next hland => ?_⟩
    obtain ⟨hover, hreports⟩ := reports_of_land hflies hland
    exact ⟨hflies.flown.isFanout (.refl _) (.refl _) hover, hreports⟩

/-- One of two targets takes one namespace only, and the scan of a resource of that namespace for
the other target fails. The targets and the resources come in the other order, and the scans that
begin first do not end first. -/
theorem fanout_complete_with_failure :
    let everywhere : Target := .ofSpec "everywhere" {}
    let dev : Target := .ofSpec "dev" { included := ["dev"] }
    let web : Resource.Key := ⟨.pod, "default", "web"⟩
    let api : Resource.Key := ⟨.pod, "dev", "api"⟩
    let batch : Batch := (Table.empty.insert web ⟨none, some "1"⟩).insert api ⟨none, some "2"⟩
    let listing : Batch := (Table.empty.insert api ⟨none, some "2"⟩).insert web ⟨none, some "1"⟩
    [dev, everywhere].Perm [everywhere, dev] ∧ listing.entries.Perm batch.entries ∧
      ∃ begun ended f, Flown 2 (.start [dev, everywhere] listing) begun ended f ∧
        (begun.map Prod.fst).count ⟨everywhere, api, ⟨none, some "2"⟩⟩ = 1 ∧
        f.scanned = 2 ∧ f.failed = 1 ∧ f.filtered = 1 := by
  intro everywhere dev web api batch listing
  have htargets : [dev, everywhere].Perm [everywhere, dev] := .swap ..
  have hbatch : listing.entries.Perm batch.entries := .swap ..
  let fails (s : Scan) : Bool := s.target.key = "everywhere" && s.key = api
  let respond (s : Scan) : Response := { error := if fails s then some "refused" else none }
  have hflown : Flown 2 (.start [dev, everywhere] listing) _ _ _ :=
    .ends (.ends (.begins (.ends (.begins (.begins .stays
      (show Flight.begin? 2 respond 0 _ = some (_,_) from rfl))
      (show Flight.begin? 2 respond 1 _ = some (_,_) from rfl))
      (show Flight.finish? 2 1 _ = some (_,_) from rfl))
      (show Flight.begin? 2 respond 2 _ = some (_,_) from rfl))
      (show Flight.finish? 3 0 _ = some (_,_) from rfl))
      (show Flight.finish? 4 0 _ = some (_,_) from rfl)
  obtain ⟨-, -, -, -, hover⟩ := fanout_complete.1 2 [everywhere, dev] _ batch _ _ _ _ htargets
    hbatch hflown
  obtain ⟨hfan, hcounts⟩ := hover rfl
  obtain ⟨hscanned, hfailed⟩ := hcounts fails (by decide +kernel)
  refine ⟨htargets, hbatch, _, _, _, hflown, ?_, ?_, ?_, ?_⟩
  · exact (hfan.once _).trans (by decide +kernel)
  · exact hscanned.trans (by decide +kernel)
  · exact hfailed.trans (by decide +kernel)
  · exact hfan.filtered.trans (by decide +kernel)

end WorkloadScan.Engine
