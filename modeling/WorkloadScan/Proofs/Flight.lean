import Mathlib.Data.List.Perm.Basic
import WorkloadScan.Flight
import WorkloadScan.Proofs.Scan

/-! The scans of one flush while they are under way. Whenever scans begin and end, in whatever order
and with whatever outcomes, each scan of the flush begins once and is counted once. -/
namespace WorkloadScan.Flight
variable {limit place : Nat} {respond : Scan → Response} {now : Instant} {f g h : Flight}
  {scan : Scan} {r : Running} {begun : List (Scan × Option String)} {ended : List Running}

def Running.result (r : Running) : Scan × Option String := (r.scan,r.error)

/-! ### Single steps -/

theorem exists_running_of_begin (hbegin : f.begin? limit respond now = some (scan,g)) :
    ∃ waiting r, f.waiting = scan :: waiting ∧ f.hasRoom limit = true ∧
      Running.result r = (scan,(respond scan).error) ∧
      g = { f with waiting, running := f.running ++ [r] } := by
  unfold begin? at hbegin
  split at hbegin
  · cases hbegin
  case h_2 first waiting hwaiting =>
    split at hbegin
    case isTrue room =>
      cases hbegin
      exact ⟨waiting, _, hwaiting, room, rfl, rfl⟩
    case isFalse => cases hbegin

theorem begin?_eq_some (hbegin : f.begin? limit respond now = some (scan,g)) :
    f.waiting = scan :: g.waiting ∧ g.running.length = f.running.length + 1 := by
  obtain ⟨waiting, r, hwaiting, -, -, rfl⟩ := exists_running_of_begin hbegin
  exact ⟨hwaiting, by simp⟩

theorem running_of_begin (hbegin : f.begin? limit respond now = some (scan,g)) :
    f.hasRoom limit = true ∧ ∃ r : Running, r.scan = scan ∧ r.error = (respond scan).error ∧
      g.running = f.running ++ [r] := by
  obtain ⟨waiting, r, -, room, hresult, rfl⟩ := exists_running_of_begin hbegin
  exact ⟨room, r, congrArg Prod.fst hresult, congrArg Prod.snd hresult, rfl⟩

theorem eq_of_finish (hfinish : f.finish? now place = some (r,g)) :
    f.running[place]? = some r ∧
      g = { f.count r.error.isNone with running := f.running.eraseIdx place } := by
  unfold finish? at hfinish
  split at hfinish
  case h_1 found hfound =>
    split at hfinish
    case isTrue =>
      cases hfinish
      exact ⟨hfound, rfl⟩
    case isFalse => cases hfinish
  case h_2 => cases hfinish

@[simp] theorem count_waiting (ok : Bool) (f : Flight) : (f.count ok).waiting = f.waiting := by
  cases ok <;> rfl

theorem running_of_finish (hfinish : f.finish? now place = some (r,g)) :
    f.running[place]? = some r ∧ g.running = f.running.eraseIdx place := by
  obtain ⟨hfound, rfl⟩ := eq_of_finish hfinish
  exact ⟨hfound, rfl⟩

theorem finish?_eq_some (hfinish : f.finish? now place = some (r,g)) :
    g.waiting = f.waiting ∧ g.running.length + 1 = f.running.length := by
  obtain ⟨hfound, rfl⟩ := eq_of_finish hfinish
  obtain ⟨hlt, -⟩ := List.getElem?_eq_some_iff.mp hfound
  refine ⟨count_waiting .., ?_⟩
  simp only [List.length_eraseIdx_of_lt hlt]
  omega

theorem isOver_iff : f.isOver = true ↔ f.waiting = [] ∧ f.running = [] := by
  simp [isOver]

/-! ### What a flight comes to -/

/-- What a flight can come to, with the scans begun on the way, each with its outcome, and those
ended. Time goes as it likes, and so do the outcomes. -/
inductive Flown (limit : Nat) (f : Flight) :
    List (Scan × Option String) → List Running → Flight → Prop
  | stays : Flown limit f [] [] f
  | begins {begun : List (Scan × Option String)} {ended : List Running} {g h : Flight} {scan : Scan}
      {respond : Scan → Response} {now : Instant} (flown : Flown limit f begun ended g)
      (begins : g.begin? limit respond now = some (scan,h)) :
      Flown limit f (begun ++ [(scan,(respond scan).error)]) ended h
  | ends {begun : List (Scan × Option String)} {ended : List Running} {g h : Flight} {r : Running}
      {now : Instant} {place : Nat} (flown : Flown limit f begun ended g)
      (ends : g.finish? now place = some (r,h)) : Flown limit f begun (ended ++ [r]) h

/-- The account of a flight: what has begun and what waits are all there was to do, and what has
begun is under way or has ended and been counted. -/
structure Accounts (f : Flight) (begun : List (Scan × Option String)) (ended : List Running)
    (g : Flight) : Prop where
  waiting : begun.map Prod.fst ++ g.waiting = f.waiting
  running : (f.running.map Running.result ++ begun).Perm
    ((ended ++ g.running).map Running.result)
  scanned : g.scanned = f.scanned + ended.countP (·.error.isNone)
  failed : g.failed = f.failed + ended.countP (·.error.isSome)
  filtered : g.filtered = f.filtered
  sizes : g.resources = f.resources ∧ g.targets = f.targets

theorem accounts_self (f : Flight) : Accounts f [] [] f where
  waiting := rfl
  running := by simp
  scanned := rfl
  failed := rfl
  filtered := rfl
  sizes := ⟨rfl, rfl⟩

theorem Accounts.begins (ha : Accounts f begun ended g)
    (hbegin : g.begin? limit respond now = some (scan,h)) :
    Accounts f (begun ++ [(scan,(respond scan).error)]) ended h := by
  obtain ⟨waiting, r, hwaiting, -, hresult, rfl⟩ := exists_running_of_begin hbegin
  refine ⟨?_, ?_, ha.scanned, ha.failed, ha.filtered, ha.sizes⟩
  · rw [← ha.waiting, hwaiting]
    simp
  · have hright : (ended ++ (g.running ++ [r])).map Running.result =
        (ended ++ g.running).map Running.result ++ [(scan,(respond scan).error)] := by
      simp [hresult]
    rw [← List.append_assoc, hright]
    exact ha.running.append_right _

theorem Accounts.ends (ha : Accounts f begun ended g)
    (hfinish : g.finish? now place = some (r,h)) : Accounts f begun (ended ++ [r]) h := by
  obtain ⟨hfound, rfl⟩ := eq_of_finish hfinish
  obtain ⟨hlt, rfl⟩ := List.getElem?_eq_some_iff.mp hfound
  refine ⟨?_, ?_, ?_, ?_, ?_, ?_⟩
  · simpa using ha.waiting
  · have hpick : (ended ++ g.running).Perm
        (ended ++ [g.running[place]] ++ g.running.eraseIdx place) := by
      simpa using (List.getElem_cons_eraseIdx_perm hlt).symm.append_left ended
    exact ha.running.trans (hpick.map _)
  · cases herror : (g.running[place]).error <;> simp [count, herror, ha.scanned, Nat.add_assoc]
  · cases herror : (g.running[place]).error <;> simp [count, herror, ha.failed, Nat.add_assoc]
  · cases herror : (g.running[place]).error <;> simp [count, ha.filtered]
  · cases herror : (g.running[place]).error <;> simp [count, ha.sizes]

theorem Flown.accounts (hf : Flown limit f begun ended g) : Accounts f begun ended g := by
  induction hf with
  | stays => exact accounts_self f
  | begins _ begins ih => exact ih.begins begins
  | ends _ ends ih => exact ih.ends ends

theorem Flown.length_running_le (hf : Flown limit f begun ended g) (hlimit : limit ≠ 0)
    (hstart : f.running.length ≤ limit) : g.running.length ≤ limit := by
  induction hf with
  | stays => exact hstart
  | begins _ begins =>
    obtain ⟨hroom, r, -, -, hrunning⟩ := running_of_begin begins
    simp only [hasRoom, hlimit, decide_false, Bool.false_or, decide_eq_true_eq] at hroom
    rw [hrunning, List.length_append, List.length_singleton]
    omega
  | ends _ ends ih =>
    have hless := (finish?_eq_some ends).2
    omega

theorem hasRoom_of_running_nil (limit : Nat) (hnone : f.running = []) :
    f.hasRoom limit = true := by
  cases limit <;> simp [hasRoom, hnone]

/-- What holds of the flights that are over holds of all if it comes back from where the first scan
that runs has ended, and with none running from where the next one has begun. -/
theorem progress_induction {P : Flight → Prop} (landed : ∀ f, f.isOver = true → P f)
    (ends : ∀ f r rest, f.running = r :: rest →
      (∀ now g, f.finish? now 0 = some (r,g) → P g) → P f)
    (begins : ∀ f scan rest, f.running = [] → f.waiting = scan :: rest →
      (∀ limit respond now g, f.begin? limit respond now = some (scan,g) → P g) → P f)
    (f : Flight) : P f := by
  -- A scan that begins leaves one less waiting and one more running, one that ends one less
  -- running.
  induction hn : 2 * f.waiting.length + f.running.length using Nat.strongRecOn
    generalizing f with
  | ind n ih =>
    cases hrunning : f.running with
    | cons r rest =>
      refine ends f r rest hrunning fun now g hfinish => ih _ ?_ g rfl
      obtain ⟨hwaiting, hless⟩ := finish?_eq_some hfinish
      rw [hwaiting]
      omega
    | nil =>
      cases hwaiting : f.waiting with
      | nil => exact landed f (isOver_iff.mpr ⟨hwaiting, hrunning⟩)
      | cons scan rest =>
        refine begins f scan rest hrunning hwaiting fun limit respond now g hbegin => ih _ ?_ g rfl
        obtain ⟨hnext, hmore⟩ := begin?_eq_some hbegin
        rw [hnext, List.length_cons] at hn
        omega

theorem Flown.exists_over (hf : Flown limit f begun ended g) :
    ∃ more done landed, Flown limit f (begun ++ more) (ended ++ done) landed ∧
      landed.isOver = true := by
  induction g using progress_induction generalizing begun ended with
  | landed g hover => exact ⟨[], [], g, by simpa using hf, hover⟩
  | ends g r rest hrunning ih =>
    obtain ⟨next, hfinish⟩ : ∃ next, g.finish? r.finish 0 = some (r,next) := by
      simp [finish?, hrunning]
    obtain ⟨more, done, landed, hlanded, hend⟩ := ih _ _ hfinish (hf.ends hfinish)
    exact ⟨more, r :: done, landed, by simpa using hlanded, hend⟩
  | begins g scan rest hrunning hwaiting ih =>
    obtain ⟨next, hbegin⟩ : ∃ next, g.begin? limit (fun _ => {}) 0 = some (scan,next) := by
      simp [begin?, hwaiting, hasRoom_of_running_nil limit hrunning]
    obtain ⟨more, done, landed, hlanded, hend⟩ := ih _ _ _ _ hbegin (hf.begins hbegin)
    exact ⟨_ :: more, done, landed, by simpa using hlanded, hend⟩

theorem Flown.length_le (hf : Flown limit f begun ended g) :
    begun.length ≤ f.waiting.length ∧ ended.length ≤ f.running.length + begun.length := by
  have hwaiting := congrArg List.length hf.accounts.waiting
  have hrunning := hf.accounts.running.length_eq
  simp only [List.length_append, List.length_map] at hwaiting hrunning
  omega

/-! ### A whole flush -/

variable {targets order : List Target} {batch listing : Batch}

/-- What a flush that is over has done, against the targets and the batch: each resource was scanned
once for each target that takes it and for no other, as the batch has it, and each pair of the two
is counted once, by the outcome of its scan or as filtered. -/
structure IsFanout (targets : List Target) (batch : Batch) (begun : List (Scan × Option String))
    (f : Flight) : Prop where
  once : ∀ scan : Scan, (begun.map Prod.fst).count scan =
    if scan.isAdmitted = true ∧ batch.get? scan.key = some scan.revision then
      targets.count scan.target
    else 0
  scanned : f.scanned = begun.countP (·.2.isNone)
  failed : f.failed = begun.countP (·.2.isSome)
  filtered : f.filtered = (Scan.pairs targets batch).countP (!·.isAdmitted)
  total : f.scanned + f.failed + f.filtered = targets.length * batch.size

theorem Flown.map_fst_of_isOver (hf : Flown limit (.start order listing) begun ended f)
    (hover : f.isOver = true) : begun.map Prod.fst = Scan.admitted order listing := by
  simpa [(isOver_iff.mp hover).1, start] using hf.accounts.waiting

theorem Flown.isFanout (hf : Flown limit (.start order listing) begun ended f)
    (htargets : order.Perm targets) (hbatch : listing.entries.Perm batch.entries)
    (hover : f.isOver = true) : IsFanout targets batch begun f := by
  have ha := hf.accounts
  have hpairs := Scan.pairs_perm htargets hbatch
  have hbegun := hf.map_fst_of_isOver hover
  have hended : begun.Perm (ended.map Running.result) := by
    simpa [(isOver_iff.mp hover).2, start] using ha.running
  have hscanned : f.scanned = begun.countP (·.2.isNone) := by
    rw [hended.countP_eq, List.countP_map, ha.scanned, start, Nat.zero_add]
    rfl
  have hfailed : f.failed = begun.countP (·.2.isSome) := by
    rw [hended.countP_eq, List.countP_map, ha.failed, start, Nat.zero_add]
    rfl
  refine ⟨fun scan => ?_, hscanned, hfailed, ?_, ?_⟩
  · rw [hbegun, ← Scan.count_admitted]
    exact (hpairs.filter _).count_eq scan
  · rw [ha.filtered, start, Scan.refused, ← List.countP_eq_length_filter, hpairs.countP_eq]
  · have hboth : begun.countP (·.2.isNone) + begun.countP (·.2.isSome) = begun.length := by
      rw [List.length_eq_countP_add_countP fun entry => entry.2.isNone]
      refine congrArg _ (List.countP_congr fun entry _ => ?_)
      cases entry.2 <;> simp
    have hlength := congrArg List.length hbegun
    rw [List.length_map] at hlength
    rw [hscanned, hfailed, hboth, hlength, ha.filtered, start,
      Scan.length_admitted_add_refused, htargets.length_eq]
    exact congrArg _ hbatch.length_eq

theorem Flown.counts_of_fails (hf : Flown limit (.start order listing) begun ended f)
    (htargets : order.Perm targets) (hbatch : listing.entries.Perm batch.entries)
    (hover : f.isOver = true) {fails : Scan → Bool}
    (hfails : ∀ entry ∈ begun, entry.2.isSome = fails entry.1) :
    f.scanned = (Scan.pairs targets batch).countP (fun s => s.isAdmitted && !fails s) ∧
      f.failed = (Scan.pairs targets batch).countP (fun s => s.isAdmitted && fails s) := by
  have hpairs := Scan.pairs_perm htargets hbatch
  have hcount (p : Scan → Bool) : (begun.map Prod.fst).countP p =
      (Scan.pairs targets batch).countP fun s => s.isAdmitted && p s := by
    rw [hf.map_fst_of_isOver hover, Scan.admitted, List.countP_filter, hpairs.countP_eq]
    simp only [Bool.and_comm]
  obtain ⟨-, hscanned, hfailed, -, -⟩ := hf.isFanout htargets hbatch hover
  rw [← hcount, ← hcount, List.countP_map, List.countP_map, hscanned, hfailed]
  refine ⟨List.countP_congr fun entry hentry => ?_, List.countP_congr fun entry hentry => ?_⟩
  · simp [← hfails entry hentry]
  · simp [← hfails entry hentry]

end WorkloadScan.Flight
