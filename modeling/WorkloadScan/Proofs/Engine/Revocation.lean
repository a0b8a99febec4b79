import WorkloadScan.Proofs.Engine.Provenance

/-! Which registration a scan goes through. A flush scans for the targets of which it was told, so
that a scan goes through the last registration of its key before that, and a call that removes or
replaces a registration does not reach a flush that has been told already. -/
namespace WorkloadScan

namespace Registry
variable {transport : Transport} {reg : Registry} {q : Request} {k : String} {t : Target}

theorem get?_apply_eq_some (h : q.key? = some k) (hget : (reg.apply transport q).get? k = some t) :
    ∃ spec, q = .add k spec ∧ transport.fault spec.client = none ∧ t = .ofSpec k spec := by
  cases q with
  | add key spec =>
    cases h
    cases hfault : transport.fault spec.client with
    | none =>
      simp only [apply, hfault, Table.get?_insert, if_true, Option.some.injEq] at hget
      exact ⟨spec, rfl, hfault, hget.symm⟩
    | some error => simp [apply, hfault] at hget
  | delete key =>
    cases h
    simp [apply] at hget
  | snapshot => cases h

end Registry

namespace Engine
variable {env : Env} {actions : List Action} {stages : List Stage} {s : Stage}
  {key : String} {t : Target}

/-- A step serves a call that removes or replaces the registration of a key. -/
def Stage.Revises (key : String) (s : Stage) : Prop :=
  ∃ caller q, s.served? = some (caller,q) ∧ q.key? = some key

theorem exists_making (transport : Transport)
    (h : (registryAfter transport (served stages)).get? key = some t) :
    ∃ earlier making since caller spec, stages = earlier ++ making :: since ∧
      making.served? = some (caller,.add key spec) ∧ transport.fault spec.client = none ∧
      t = .ofSpec key spec ∧ ∀ s ∈ since, ¬s.Revises key := by
  induction stages using List.reverseRecOn with
  | nil => cases h
  | append_singleton stages s ih =>
    have keep (hs : ¬s.Revises key)
        (hget : (registryAfter transport (served stages)).get? key = some t) :
        ∃ earlier making since caller spec, stages ++ [s] = earlier ++ making :: since ∧
          making.served? = some (caller,.add key spec) ∧ transport.fault spec.client = none ∧
          t = .ofSpec key spec ∧ ∀ s ∈ since, ¬s.Revises key := by
      obtain ⟨earlier, making, since, caller, spec, rfl, hmade, hfault, htarget, hsince⟩ := ih hget
      exact ⟨earlier, making, since ++ [s], caller, spec, by simp, hmade, hfault, htarget,
        forall_mem_concat.mpr ⟨hsince, hs⟩⟩
    cases hserved : s.served? with
    | none =>
      rw [served_concat, hserved, Option.toList_none, List.append_nil] at h
      refine keep ?_ h
      rintro ⟨caller, q, hs, -⟩
      cases hserved.symm.trans hs
    | some call =>
      obtain ⟨caller, q⟩ := call
      rw [served_concat, hserved, Option.toList_some, registryAfter_concat] at h
      by_cases hq : q.key? = some key
      · obtain ⟨spec, rfl, hfault, htarget⟩ := Registry.get?_apply_eq_some hq h
        exact ⟨stages, s, [], caller, spec, rfl, hserved, hfault, htarget, by simp⟩
      · rw [Registry.get?_apply_of_ne hq] at h
        refine keep ?_ h
        rintro ⟨caller', q', hs, hkey⟩
        cases hserved.symm.trans hs
        exact hq hkey

/-- A scan of a run, with its flush and with the registration through which it goes. -/
structure Passage (env : Env) (stages : List Stage) where
  scan : Scan
  flush : Flush env stages
  /-- The steps before the registration. -/
  earlier : List Stage
  making : Stage
  /-- The steps from the registration until the flush is told of its targets. -/
  since : List Stage
  telling : Stage
  /-- The steps from then until the scan begins. -/
  flown : List Stage
  beginning : Stage
  asked : List Stage
  rest : List Stage
  split : earlier ++ making :: since = flush.before ++ flush.taking :: asked
  window : flush.window = asked ++ telling :: (flown ++ beginning :: rest)
  made : ∃ caller spec, making.served? = some (caller,.add scan.target.key spec) ∧
    env.transport.fault spec.client = none ∧ scan.target = .ofSpec scan.target.key spec
  last : ∀ s ∈ since, ¬s.Revises scan.target.key
  told : telling.served? = some (.flusher,.snapshot)
  begun : beginning.begun? = some scan

namespace Passage

def before (p : Passage env stages) : List Stage :=
  p.earlier ++ p.making :: (p.since ++ p.telling :: p.flown)

theorem split_before (p : Passage env stages) :
    ∃ later, stages = p.before ++ p.beginning :: later := by
  obtain ⟨later, hafter⟩ : p.flush.window <+: p.flush.after := List.takeWhile_prefix _
  refine ⟨p.rest ++ later, ?_⟩
  calc
    stages = p.flush.before ++ p.flush.taking :: p.flush.after := p.flush.split
    _ = (p.flush.before ++ p.flush.taking :: p.asked) ++
        p.telling :: (p.flown ++ p.beginning :: (p.rest ++ later)) := by
      rw [← hafter, p.window]
      simp
    _ = p.before ++ p.beginning :: (p.rest ++ later) := by
      rw [← p.split, before]
      simp

/-- A call for the key of a scan that comes after the registration through which the scan goes, and
before the scan begins, is served when the flush of the scan has been told of its targets. -/
theorem flown_of_revises (p : Passage env stages) {before after : List Stage} {serving : Stage}
    (hsplit : stages = before ++ serving :: after) (hrevises : serving.Revises p.scan.target.key)
    (hafter : p.earlier.length < before.length) (hbefore : before.length < p.before.length) :
    ∃ between rest, p.flown = between ++ serving :: rest ∧
      before = p.earlier ++ p.making :: (p.since ++ p.telling :: between) := by
  obtain ⟨later, hlater⟩ := p.split_before
  obtain ⟨gone, hgone, -⟩ := exists_between (hsplit.symm.trans hlater) hbefore
  obtain ⟨made, rfl, hmade⟩ := exists_between hgone hafter
  -- The call is served before the flush is told, in that step or after it: only the last can be.
  rcases Nat.lt_trichotomy made.length p.since.length with hlt | heq | hlt
  · obtain ⟨between, hsince, -⟩ := exists_between hmade.symm hlt
    exact absurd hrevises (p.last serving (by simp [hsince]))
  · obtain ⟨-, hserving⟩ := List.append_inj hmade.symm heq
    obtain ⟨caller, q, hserved, hkey⟩ := hrevises
    rw [(List.cons.inj hserving).1, p.told] at hserved
    cases hserved
    cases hkey
  · obtain ⟨between, rfl, hflown⟩ := exists_between hmade hlt
    exact ⟨between, gone, hflown, rfl⟩

end Passage

theorem exists_passage {earlier later : List Stage} {scan : Scan}
    (hpath : path env actions {} = earlier ++ s :: later) (hbegun : s.begun? = some scan) :
    ∃ p : Passage env (path env actions {}), p.scan = scan ∧ p.before = earlier ∧
      p.beginning = s := by
  obtain ⟨f, flown, rest, rfl, hwindow⟩ := exists_flush_of_begun hpath hbegun
  obtain ⟨first, -, -, hrun, hfirst⟩ := run_of_path_eq_append hpath
  obtain ⟨flight, hflight, hnext⟩ : ∃ flight, s.before.flusher.flight? = some flight ∧
      flight.waiting.head? = some scan := by
    unfold Stage.begun? at hbegun
    split at hbegun
    case h_1 => exact Option.bind_eq_some_iff.mp hbegun
    case h_2 => cases hbegun
  cases course_run hrun hfirst f.taken with
  | asking asked =>
    rw [asked_of_flight hflight] at asked
    cases asked
  | @ended window rest' landing registry split landed =>
    have haloft : landing ∈ f.window := by simp [hwindow, split]
    have hother := List.mem_takeWhile_imp haloft
    simp [landed] at hother
  | @scanning registry flight' flying aloft told begun =>
    cases hflight.symm.trans flying
    have hscan : scan ∈ Scan.admitted registry.values f.batch := by
      rw [← begun]
      exact List.mem_append_right _ (List.mem_of_head? hnext)
    have hflown : flown ⊆ path env actions {} := fun t ht => by simp [hpath, ht]
    have hget : registry.get? scan.target.key = some scan.target :=
      ((Scan.mem_admitted (isKeyed_of_told hflown told)).mp hscan).1
    obtain ⟨telling, htelling, htold⟩ := List.mem_filterMap.mp (told ▸ List.mem_singleton_self _)
    split at htold
    case isFalse => cases htold
    case isTrue hserved =>
      cases htold
      obtain ⟨asked, between, rfl⟩ := List.append_of_mem htelling
      have htell : path env actions {} =
          (f.before ++ f.taking :: asked) ++ telling :: (between ++ s :: later) := by simp [hpath]
      rw [(traffic_of_path_eq_append htell).registry] at hget
      obtain ⟨earlier, making, since, caller, spec, hsplit, hmade, hfault, htarget, hlast⟩ :=
        exists_making env.transport hget
      let p : Passage env (path env actions {}) :=
        { scan, flush := f, earlier, making, since, telling, flown := between, beginning := s
          asked, rest, split := hsplit.symm, window := by simp [hwindow]
          made := ⟨caller, spec, hmade, hfault, htarget⟩, last := hlast, told := hserved
          begun := hbegun }
      refine ⟨p, rfl, ?_, rfl⟩
      calc
        p.before = (earlier ++ making :: since) ++ telling :: between := by simp [p, Passage.before]
        _ = (f.before ++ f.taking :: asked) ++ telling :: between := by rw [← hsplit]
        _ = f.before ++ f.taking :: (asked ++ telling :: between) := by simp

/-! ### What a call does to the scans after it -/

/-- A call of the registry in a run, from the step in which it is served until its caller has its
reply: the caller has received the replies to all calls of its own that were served before. -/
structure Call (stages : List Stage) where
  caller : Caller
  request : Registry.Request
  before : List Stage
  serving : Stage
  between : List Stage
  returning : Stage
  after : List Stage
  split : stages = before ++ serving :: (between ++ returning :: after)
  serves : serving.served? = some (caller,request)
  returns : ∃ reply, returning.return? = some (caller,reply)
  turn : (ofCaller caller (served before)).length =
    (ofCaller caller (Engine.returns (before ++ serving :: between))).length

/-- Once a call that removes or replaces the registration of a key has returned, no scan begins that
goes through an earlier registration of the key. -/
def RevokesAtReturn (env : Env) (stages : List Stage) : Prop :=
  ∀ (call : Call stages) (p : Passage env stages),
    call.request.key? = some p.scan.target.key → p.earlier.length < call.before.length →
      p.before.length ≤ (call.before ++ call.serving :: call.between).length

/-- The call is served and returns when the flush of the scan has been told of its targets and the
scan has yet to begin. -/
def Passage.Outlasts (p : Passage env stages) (call : Call stages) : Prop :=
  ∃ between rest, p.flown = between ++ call.serving :: (call.between ++ call.returning :: rest) ∧
    call.before = p.earlier ++ p.making :: (p.since ++ p.telling :: between)

theorem revokesAtReturn_iff : RevokesAtReturn env stages ↔
    ∀ (call : Call stages) (p : Passage env stages),
      call.request.key? = some p.scan.target.key → ¬p.Outlasts call := by
  constructor
  · rintro hrevokes call p hkey ⟨between, rest, hflown, hbefore⟩
    have hlate := hrevokes call p hkey (by simp [hbefore])
    simp only [Passage.before, hflown, hbefore, List.length_append, List.length_cons] at hlate
    omega
  · intro hnone call p hkey hafter
    by_contra hlate
    rw [List.length_append, List.length_cons] at hlate
    have hrevises : call.serving.Revises p.scan.target.key := ⟨_, _, call.serves, hkey⟩
    obtain ⟨between, more, hflown, hbefore⟩ :=
      p.flown_of_revises call.split hrevises hafter (by omega)
    obtain ⟨later, hlater⟩ := p.split_before
    have hsame : p.before = call.before ++ call.serving :: more := by
      rw [Passage.before, hflown, hbefore]
      simp
    have hrest : call.between ++ call.returning :: call.after = more ++ p.beginning :: later := by
      have hsplit := call.split.symm.trans hlater
      rw [hsame, List.append_assoc, List.cons_append] at hsplit
      exact (List.cons.inj (List.append_cancel_left hsplit)).2
    rw [hsame, List.length_append, List.length_cons] at hlate
    obtain ⟨rest, rfl, -⟩ := exists_between hrest (by omega)
    exact hnone call p hkey ⟨between, rest, hflown, hbefore⟩

/-- Scans go one at a time, and the client of one endpoint cannot be made. -/
def brittle : Env :=
  { Env.calm { quiet := 5, discardFirst := false, limit := 1 } with
    transport :=
      ⟨fun client => if client.endpoint = "bad" then some "refused" else none, fun _ _ => {}⟩ }

/-- A call for a target is made while a flush has been told of it and has a scan left to begin. -/
def callingInFlight (q : Registry.Request) : List Action :=
  [.request 0 (.add "t" ⟨"url", "token", "id", [], []⟩), .serve, .collect 0,
    .change ⟨.pod, some "web", "a"⟩ ⟨none, some "1"⟩,
    .change ⟨.pod, some "web", "b"⟩ ⟨none, some "1"⟩, .arm, .tick 5, .fire, .serve, .launch,
    .beginScan, .request 0 q, .serve, .collect 0, .finishScan 0, .beginScan]

def throughEarlier (q : Registry.Request) : Passage brittle (path brittle (callingInFlight q) {}) :=
  let stages := path brittle (callingInFlight q) {}
  { scan := ⟨.ofSpec "t" ⟨"url", "token", "id", [], []⟩, ⟨.pod, some "web", "b"⟩, ⟨none, some "1"⟩⟩
    flush :=
      { before := stages.take 7
        taking := (stages.drop 7).head (List.cons_ne_nil _ _)
        after := stages.drop 8
        batch := ⟨[(⟨.pod, some "web", "a"⟩, ⟨none, some "1"⟩),
          (⟨.pod, some "web", "b"⟩, ⟨none, some "1"⟩)], by decide⟩
        split := rfl
        taken := rfl }
    earlier := stages.take 1
    making := (stages.drop 1).head (List.cons_ne_nil _ _)
    since := (stages.take 8).drop 2
    telling := (stages.drop 8).head (List.cons_ne_nil _ _)
    flown := (stages.take 15).drop 9
    beginning := (stages.drop 15).head (List.cons_ne_nil _ _)
    asked := []
    rest := []
    split := rfl
    window := rfl
    made := ⟨.user 0, ⟨"url", "token", "id", [], []⟩, rfl, rfl, rfl⟩
    last := by
      have hquiet : ((stages.take 8).drop 2).all (·.served?.isNone) = true := rfl
      rintro s hs ⟨caller, q, hserved, -⟩
      have hnone := List.all_eq_true.mp hquiet s hs
      rw [hserved] at hnone
      cases hnone
    told := rfl
    begun := rfl }

def callInFlight (q : Registry.Request) : Call (path brittle (callingInFlight q) {}) :=
  let stages := path brittle (callingInFlight q) {}
  { caller := .user 0
    request := q
    before := stages.take 12
    serving := (stages.drop 12).head (List.cons_ne_nil _ _)
    between := []
    returning := (stages.drop 13).head (List.cons_ne_nil _ _)
    after := stages.drop 14
    split := rfl
    serves := rfl
    returns := ⟨_, rfl⟩
    turn := rfl }

theorem not_revokesAtReturn {q : Registry.Request} (h : q.key? = some "t") :
    ¬RevokesAtReturn brittle (path brittle (callingInFlight q) {}) := fun hrevokes => by
  have hbegins : 15 ≤ 13 := hrevokes (callInFlight q) (throughEarlier q) h (by decide : 1 < 12)
  omega

/-- The flush goes on for the target of which it has been told, whether the target is deleted,
replaced or cannot be made again. -/
theorem scans_after_revocation :
    ¬RevokesAtReturn brittle (path brittle (callingInFlight (.delete "t")) {}) ∧
    ¬RevokesAtReturn brittle
      (path brittle (callingInFlight (.add "t" ⟨"other", "token", "id", [], []⟩)) {}) ∧
    ¬RevokesAtReturn brittle
      (path brittle (callingInFlight (.add "t" ⟨"bad", "token", "id", [], []⟩)) {}) :=
  ⟨not_revokesAtReturn rfl, not_revokesAtReturn rfl, not_revokesAtReturn rfl⟩

/-- Every scan goes through a registration of its target. Once a call that removes or replaces the
registration of a key has been served, as it has when it returns, no flush that is told of its
targets after that goes through an earlier registration of the key. A scan that begins after that
and does belongs to a flush that had been told already and that had not landed. So calls revoke by
their return exactly where none is served and returns while such a scan has yet to begin. -/
theorem revocation_reaches_later_flushes :
    (∀ earlier s later scan, path env actions {} = earlier ++ s :: later → s.begun? = some scan →
      ∃ p : Passage env (path env actions {}), p.scan = scan ∧ p.before = earlier ∧
        p.beginning = s) ∧
    (∀ (p : Passage env (path env actions {})) before serving after,
      path env actions {} = before ++ serving :: after → serving.Revises p.scan.target.key →
      (before.length < (p.earlier ++ p.making :: p.since).length →
        before.length ≤ p.earlier.length) ∧
      (p.earlier.length < before.length → before.length < p.before.length →
        ∃ between rest, p.flown = between ++ serving :: rest ∧
          before = p.earlier ++ p.making :: (p.since ++ p.telling :: between))) ∧
    (RevokesAtReturn env (path env actions {}) ↔
      ∀ (call : Call (path env actions {})) (p : Passage env (path env actions {})),
        call.request.key? = some p.scan.target.key → ¬p.Outlasts call) := by
  refine ⟨fun _ _ _ _ => exists_passage, fun p before serving after hsplit hrevises => ?_,
    revokesAtReturn_iff⟩
  have hflown := p.flown_of_revises hsplit hrevises
  refine ⟨fun htold => ?_, hflown⟩
  by_contra hlater
  have hbefore : before.length < p.before.length := by
    simp only [Passage.before, List.length_append, List.length_cons] at htold ⊢
    omega
  obtain ⟨between, rest, -, rfl⟩ := hflown (by omega) hbefore
  simp only [List.length_append, List.length_cons] at htold
  omega

/-- The target is deleted when the flush has been told of it and one of its two scans has begun. -/
theorem revocation_reaches_later_flushes_of_deleted :
    let stages := path brittle (callingInFlight (.delete "t")) {}
    let serving := (stages.drop 12).head (List.cons_ne_nil _ _)
    (∃ e, run brittle (callingInFlight (.delete "t")) {} = some e) ∧
    serving.served? = some (.user 0,.delete "t") ∧
    (∃ between rest, (throughEarlier (.delete "t")).flown = between ++ serving :: rest) ∧
    ∃ p : Passage brittle stages, p.before = stages.take 10 ∧ p.scan.key.name = "a" := by
  intro stages serving
  obtain ⟨hevery, hplace, -⟩ :=
    @revocation_reaches_later_flushes brittle (callingInFlight (.delete "t"))
  refine ⟨⟨_, rfl⟩, rfl, ?_, ?_⟩
  · obtain ⟨between, rest, hflown, -⟩ := (hplace (throughEarlier (.delete "t")) (stages.take 12)
      serving (stages.drop 13) rfl ⟨.user 0, _, rfl, rfl⟩).2 (by decide) (by decide)
    exact ⟨between, rest, hflown⟩
  · obtain ⟨p, hscan, hbefore, -⟩ := hevery (stages.take 10)
      ((stages.drop 10).head (List.cons_ne_nil _ _)) (stages.drop 11) _ rfl rfl
    exact ⟨p, hbefore, by rw [hscan]⟩

end Engine
end WorkloadScan
