import Mathlib.Data.List.Induction
import WorkloadScan.Proofs.Engine.Transition

/-! The steps that a run of the engine makes, in order. What a run has done is read off them, and
what holds along a run is proved step by step. -/
namespace WorkloadScan.Engine
variable {env : Env}

/-- Every client can be made, every scan succeeds at once, and every token is empty. -/
def Env.calm (config : Config) : Env :=
  { config, transport := ⟨fun _ => none, fun _ _ => {}⟩, readToken := fun _ _ => .ok "" }

structure Stage where
  before : Engine
  action : Action
  after : Engine

/-- The steps of a run. A run that gets stuck ends there. -/
def path (env : Env) : List Action → Engine → List Stage
  | [], _ => []
  | a::rest, e =>
    match step env a e with
    | some next => ⟨e,a,next⟩ :: path env rest next
    | none => []

theorem filterMap_concat {β : Type} (f : Stage → Option β) (stages : List Stage) (s : Stage) :
    (stages ++ [s]).filterMap f = stages.filterMap f ++ (f s).toList := by
  cases h : f s <;> simp [List.filterMap_append, h]

theorem step_of_mem_path {actions : List Action} {e : Engine} {s : Stage}
    (h : s ∈ path env actions e) :
    s.action ∈ actions ∧ step env s.action s.before = some s.after := by
  induction actions generalizing e with
  | nil => simp [path] at h
  | cons a rest ih =>
    cases hstep : step env a e with
    | none => simp [path, hstep] at h
    | some next =>
      simp only [path, hstep, List.mem_cons] at h
      rcases h with rfl | h
      · exact ⟨List.mem_cons_self, hstep⟩
      · obtain ⟨haction, hlater⟩ := ih h
        exact ⟨List.mem_cons_of_mem _ haction, hlater⟩

theorem action_of_mem_path {actions : List Action} {e : Engine} {s : Stage}
    (h : s ∈ path env actions e) : s.action ∈ actions := (step_of_mem_path h).1

theorem transition_of_mem_path {actions : List Action} {e : Engine} {s : Stage}
    (h : s ∈ path env actions e) : Transition env s.before s.action s.after :=
  transition_of_step (step_of_mem_path h).2

theorem run_append {actions more : List Action} {e₀ e : Engine} (h : run env actions e₀ = some e) :
    run env (actions ++ more) e₀ = run env more e := by
  induction actions generalizing e₀ with
  | nil =>
    cases h
    rfl
  | cons a rest ih =>
    obtain ⟨next, hstep, hrest⟩ := Option.bind_eq_some_iff.mp h
    simp [run, hstep, ih hrest]

theorem path_append {actions more : List Action} {e₀ e : Engine} (h : run env actions e₀ = some e) :
    path env (actions ++ more) e₀ = path env actions e₀ ++ path env more e := by
  induction actions generalizing e₀ with
  | nil =>
    cases h
    rfl
  | cons a rest ih =>
    obtain ⟨next, hstep, hrest⟩ := Option.bind_eq_some_iff.mp h
    simp [path, hstep, ih hrest]

theorem path_append_cons {actions rest : List Action} {a : Action} {e₀ e next : Engine}
    (h : run env actions e₀ = some e) (hstep : step env a e = some next) :
    path env (actions ++ a :: rest) e₀ = path env actions e₀ ++ ⟨e,a,next⟩ :: path env rest next := by
  rw [path_append h]
  simp [path, hstep]

theorem run_concat {actions : List Action} {a : Action} {e₀ e : Engine} :
    run env (actions ++ [a]) e₀ = some e ↔
      ∃ middle, run env actions e₀ = some middle ∧ step env a middle = some e := by
  induction actions generalizing e₀ with
  | nil => simp [run]
  | cons b rest ih => cases hstep : step env b e₀ <;> simp [run, hstep, ih]

theorem mem_path_of_last {actions : List Action} {last : Action} {e next : Engine}
    (h : run env (actions ++ [last]) e = some next) :
    ∃ s ∈ path env (actions ++ [last]) e, s.action = last := by
  obtain ⟨middle, hfirst, hstep⟩ := run_concat.mp h
  refine ⟨⟨middle,last,next⟩, ?_, rfl⟩
  rw [path_append_cons hfirst hstep]
  simp

/-- Induction over the runs from a state: what holds of a run may be used for the step after it. -/
theorem run_induction {P : List Stage → Engine → Prop} {e₀ e : Engine} {actions : List Action}
    (start : P [] e₀)
    (keep : ∀ actions e a next, run env actions e₀ = some e → P (path env actions e₀) e →
      Transition env e a next → P (path env actions e₀ ++ [⟨e,a,next⟩]) next)
    (h : run env actions e₀ = some e) : P (path env actions e₀) e := by
  induction actions using List.reverseRecOn generalizing e with
  | nil =>
    cases h
    exact start
  | append_singleton earlier a ih =>
    obtain ⟨middle, hearlier, hstep⟩ := run_concat.mp h
    rw [path_append_cons hearlier hstep]
    exact keep earlier middle a e hearlier (ih hearlier) (transition_of_step hstep)

theorem path_induction {P : List Stage → Engine → Prop} {e₀ e : Engine} {actions : List Action}
    (start : P [] e₀)
    (keep : ∀ stages e a next, P stages e → Transition env e a next →
      P (stages ++ [⟨e,a,next⟩]) next)
    (h : run env actions e₀ = some e) : P (path env actions e₀) e :=
  run_induction start (fun _ e a next _ => keep _ e a next) h

theorem run_of_path_eq_append {actions : List Action} {e₀ : Engine} {before after : List Stage}
    {s : Stage} (h : path env actions e₀ = before ++ s :: after) :
    ∃ first rest, actions = first ++ rest ∧ run env first e₀ = some s.before ∧
      path env first e₀ = before := by
  induction before generalizing actions e₀ with
  | nil =>
    refine ⟨[], actions, rfl, ?_, rfl⟩
    cases actions with
    | nil => simp [path] at h
    | cons a rest =>
      cases hstep : step env a e₀ with
      | none => simp [path, hstep] at h
      | some next =>
        simp only [path, hstep, List.nil_append, List.cons.injEq] at h
        rw [← h.1]
        rfl
  | cons earlier before ih =>
    cases actions with
    | nil => simp [path] at h
    | cons a rest =>
      cases hstep : step env a e₀ with
      | none => simp [path, hstep] at h
      | some next =>
        simp only [path, hstep, List.cons_append, List.cons.injEq] at h
        obtain ⟨first, later, rfl, hrun, hpath⟩ := ih h.2
        refine ⟨a::first, later, rfl, ?_, ?_⟩
        · simp [run, hstep, hrun]
        · simp [path, hstep, hpath, h.1]

theorem concat_eq_append_cons {stages before since : List Stage} {s t : Stage} :
    stages ++ [t] = before ++ s :: since ↔
      (stages = before ∧ t = s ∧ since = []) ∨
        ∃ earlier, since = earlier ++ [t] ∧ stages = before ++ s :: earlier := by
  constructor
  · intro h
    cases since using List.reverseRecOn with
    | nil =>
      obtain ⟨hbefore, hlast⟩ := List.append_inj' h rfl
      exact .inl ⟨hbefore, (List.cons.inj hlast).1, rfl⟩
    | append_singleton earlier u _ =>
      rw [← List.cons_append, ← List.append_assoc] at h
      obtain ⟨hbefore, hlast⟩ := List.append_inj' h rfl
      exact .inr ⟨earlier, by rw [(List.cons.inj hlast).1], hbefore⟩
  · rintro (⟨rfl, rfl, rfl⟩ | ⟨earlier, rfl, rfl⟩)
    · rfl
    · rw [List.append_assoc, List.cons_append]

theorem forall_mem_concat {p : Stage → Prop} {stages : List Stage} {s : Stage} :
    (∀ t ∈ stages ++ [s], p t) ↔ (∀ t ∈ stages, p t) ∧ p s := by
  simp [or_imp, forall_and]

/-- A list falls in one way only into what is before the last entry that has a property, that
entry, and what comes after it. -/
theorem split_unique {α : Type} (p : α → Prop) {xs ys xs' ys' : List α} {s s' : α}
    (h : xs ++ s :: ys = xs' ++ s' :: ys') (hs : p s) (hs' : p s') (hys : ∀ t ∈ ys, ¬p t)
    (hys' : ∀ t ∈ ys', ¬p t) : xs = xs' ∧ s = s' ∧ ys = ys' := by
  rcases List.append_eq_append_iff.mp h with ⟨extra, rfl, hrest⟩ | ⟨extra, rfl, hrest⟩
  · cases extra with
    | nil =>
      obtain ⟨hstep, hafter⟩ := List.cons.inj hrest
      exact ⟨by simp, hstep, hafter⟩
    | cons t extra =>
      obtain ⟨-, hafter⟩ := List.cons.inj hrest
      exact absurd hs' (hys s' (by simp [hafter]))
  · cases extra with
    | nil =>
      obtain ⟨hstep, hafter⟩ := List.cons.inj hrest
      exact ⟨by simp, hstep.symm, hafter.symm⟩
    | cons t extra =>
      obtain ⟨-, hafter⟩ := List.cons.inj hrest
      exact absurd hs (hys' s (by simp [hafter]))

theorem exists_between {α : Type} {xs ys xs' ys' : List α} {s s' : α}
    (h : xs ++ s :: ys = xs' ++ s' :: ys') (hlt : xs.length < xs'.length) :
    ∃ between, xs' = xs ++ s :: between ∧ ys = between ++ s' :: ys' := by
  rcases List.append_eq_append_iff.mp h with ⟨extra, rfl, hrest⟩ | ⟨extra, rfl, -⟩
  · cases extra with
    | nil => simp at hlt
    | cons t between =>
      obtain ⟨rfl, hafter⟩ := List.cons.inj hrest
      exact ⟨between, rfl, hafter⟩
  · rw [List.length_append] at hlt
    omega

end WorkloadScan.Engine
