import Mathlib.Data.Set.Basic
import Mathlib.Logic.Relation
import WorkloadScan.Proofs.Engine.Observation

/-! Objects and their owners. A watch leaves an object to its owners when one of them is of a
watched kind that stands for it. That kind is always a higher one, so whatever owns what, and even
where objects own each other in a circle, going from owner to owner ends at one whose watch
forwards it. -/
namespace WorkloadScan

namespace Kind

/-- How many owners may stand one for another above an object of a kind. -/
def depth : Kind → Nat
  | pod => 2
  | replicaSet | job => 1
  | deployment | daemonSet | statefulSet | cronJob | service | ingress | ns => 0

theorem depth_lt_of_mem_redundantOwners {j k : Kind} (h : j.name ∈ k.redundantOwners) :
    j.depth < k.depth := by
  revert h
  cases j <;> cases k <;> decide

theorem exists_watched_of_isRedundantOwner {k : Kind} {owner : String} {watched : List Kind}
    (h : k.isRedundantOwner owner watched = true) :
    ∃ j ∈ watched, j.name = owner ∧ j.depth < k.depth := by
  obtain ⟨howner, hwatched⟩ := Bool.and_eq_true_iff.mp h
  obtain ⟨j, hj, hname⟩ := List.any_eq_true.mp hwatched
  obtain rfl : j.name = owner := eq_of_beq hname
  exact ⟨j, hj, rfl, depth_lt_of_mem_redundantOwners (List.contains_iff_mem.mp howner)⟩

/-- The depth of the kind that has a name. Other kinds cannot be watched and own nothing. -/
def depthOf (name : String) : Nat := ((all.find? (·.name = name)).map depth).getD 0

theorem depthOf_name (k : Kind) : depthOf k.name = k.depth := by
  cases k <;> decide

end Kind

/-- Objects, each with the name of its kind, and the object that each owner reference names. Owners
may be of kinds that cannot be watched. -/
structure Ownership (ι : Type*) where
  kind : ι → String
  object : ι → Cluster.Object
  owner (x : ι) (place : Fin (object x).owners.length) : ι
  kind_owner (x : ι) (place : Fin (object x).owners.length) :
    kind (owner x place) = ((object x).owners.get place).kind

namespace Ownership
variable {ι : Type*} {g : Ownership ι} {watched : List Kind} {x y : ι}

def IsOwnedBy (g : Ownership ι) (x y : ι) : Prop := ∃ place, g.owner x place = y

/-- An owner because of which the watch of an object leaves it alone. -/
def IsLeftTo (g : Ownership ι) (watched : List Kind) (x y : ι) : Prop :=
  ∃ kind : Kind, ∃ place, g.kind x = kind.name ∧
    kind.isRedundantOwner ((g.object x).owners.get place).kind watched = true ∧
    g.owner x place = y

/-- The object is of a watched kind, and its watch leaves it to its owners. -/
def IsSkipped (g : Ownership ι) (watched : List Kind) (x : ι) : Prop :=
  ∃ kind ∈ watched, g.kind x = kind.name ∧
    Cluster.Object.isRedundant kind (g.object x).owners watched = true

/-- The object is of a watched kind, and its watch does not leave it to its owners. -/
def IsReported (g : Ownership ι) (watched : List Kind) (x : ι) : Prop :=
  ∃ kind ∈ watched, g.kind x = kind.name ∧
    Cluster.Object.isRedundant kind (g.object x).owners watched = false

instance : DecidablePred (g.IsSkipped watched) := fun x =>
  inferInstanceAs (Decidable (∃ kind ∈ watched, g.kind x = kind.name ∧
    Cluster.Object.isRedundant kind (g.object x).owners watched = true))

instance : DecidablePred (g.IsReported watched) := fun x =>
  inferInstanceAs (Decidable (∃ kind ∈ watched, g.kind x = kind.name ∧
    Cluster.Object.isRedundant kind (g.object x).owners watched = false))

theorem IsLeftTo.isOwnedBy (h : g.IsLeftTo watched x y) : g.IsOwnedBy x y := by
  obtain ⟨-, place, -, -, howner⟩ := h
  exact ⟨place, howner⟩

theorem IsReported.not_isSkipped (h : g.IsReported watched x) : ¬g.IsSkipped watched x := by
  rintro ⟨j, -, hj, hredundant⟩
  obtain ⟨k, -, hk, hneeded⟩ := h
  obtain rfl : j = k := Kind.name_injective (hj.symm.trans hk)
  rw [hredundant] at hneeded
  cases hneeded

theorem isReported_or_isSkipped {kind : Kind} (hwatched : kind ∈ watched)
    (hkind : g.kind x = kind.name) : g.IsReported watched x ∨ g.IsSkipped watched x := by
  cases h : Cluster.Object.isRedundant kind (g.object x).owners watched with
  | false => exact .inl ⟨kind, hwatched, hkind, h⟩
  | true => exact .inr ⟨kind, hwatched, hkind, h⟩

theorem IsSkipped.exists_isLeftTo (h : g.IsSkipped watched x) :
    ∃ y, g.IsLeftTo watched x y ∧ ∃ kind ∈ watched, g.kind y = kind.name := by
  obtain ⟨kind, -, hkind, hredundant⟩ := h
  obtain ⟨owner, howner, hstands⟩ := List.any_eq_true.mp hredundant
  obtain ⟨place, rfl⟩ := List.get_of_mem howner
  obtain ⟨j, hj, hname, -⟩ := Kind.exists_watched_of_isRedundantOwner hstands
  exact ⟨g.owner x place, ⟨kind, place, hkind, hstands, rfl⟩, j, hj,
    (g.kind_owner x place).trans hname.symm⟩

theorem IsLeftTo.depth_lt (h : g.IsLeftTo watched x y) :
    Kind.depthOf (g.kind y) < Kind.depthOf (g.kind x) := by
  obtain ⟨kind, place, hkind, hstands, rfl⟩ := h
  obtain ⟨j, -, hname, hlt⟩ := Kind.exists_watched_of_isRedundantOwner hstands
  rw [g.kind_owner, ← hname, hkind, Kind.depthOf_name, Kind.depthOf_name]
  exact hlt

theorem wellFounded_isLeftTo (g : Ownership ι) (watched : List Kind) :
    WellFounded fun y x => g.IsLeftTo watched x y :=
  Subrelation.wf (fun h => h.depth_lt)
    (InvImage.wf (fun x => Kind.depthOf (g.kind x)) Nat.lt_wfRel.wf)

theorem IsSkipped.exists_isReported (h : g.IsSkipped watched x) :
    ∃ y, Relation.TransGen g.IsOwnedBy x y ∧ g.IsReported watched y := by
  induction x using (wellFounded_isLeftTo g watched).induction with
  | h x ih =>
    obtain ⟨y, hleft, kind, hwatched, hkind⟩ := h.exists_isLeftTo
    rcases isReported_or_isSkipped hwatched hkind with hreported | hskipped
    · exact ⟨y, .single hleft.isOwnedBy, hreported⟩
    · obtain ⟨z, hreach, hz⟩ := ih y hleft hskipped
      exact ⟨z, .head hleft.isOwnedBy hreach, hz⟩

theorem exists_not_isSkipped {members : Set ι} (hnonempty : members.Nonempty)
    (hclosed : ∀ x ∈ members, ∀ y, g.IsOwnedBy x y → y ∈ members) :
    ∃ y ∈ members, ¬g.IsSkipped watched y := by
  obtain ⟨x, hx⟩ := hnonempty
  by_cases hskipped : g.IsSkipped watched x
  · obtain ⟨y, hreach, hreported⟩ := hskipped.exists_isReported
    refine ⟨y, ?_, hreported.not_isSkipped⟩
    clear hreported
    induction hreach with
    | single howned => exact hclosed x hx _ howned
    | tail _ howned ih => exact hclosed _ ih _ howned
  · exact ⟨x, hx, hskipped⟩

end Ownership

/-! ### What a watch forwards -/

namespace Engine
variable {env : Env} {e : Engine} {id : String} {actions : List Action} {w : Watch}
  {object : Cluster.Object} {event : Cluster.Event Cluster.Object} {watched : List Kind}

/-- What a watch of a kind does, in any run, when it receives an event that reports a change of an
object. It asks for the targets, and it can be answered and go on. Whenever it goes on, it has been
told of the targets registered when its question was served, and if there are any and the object has
a key the change is pending. -/
def Forwards (kind : Kind) (watched : List Kind) (object : Cluster.Object) : Prop :=
  ∀ (env : Env) (actions : List Action) (e : Engine) (id : String) (w : Watch)
    (event : Cluster.Event Cluster.Object),
    run env actions {} = some e → e.watches.get? id = some w → w.phase = .ready →
    w.observer.kind = kind → w.observer.watched = watched →
    Reports id (path env actions {}) object event →
    ∃ asked, step env (.watchEvent id event) e = some asked ∧
      (∃ n next, run env (List.replicate n .serve ++ [.resumeWatch id]) asked = some next) ∧
      ∀ more waited next, run env more asked = some waited →
        (∀ s ∈ path env more asked, s.action.caller? ≠ some (.observer id)) →
        step env (.resumeWatch id) waited = some next →
        ∃ registry, toldOf (.observer id) (path env more asked) = [registry] ∧
          (registry.isEmpty = false → ∀ key, object.key? kind = some key →
            next.debouncer.pending.get? key = some object.revision)

theorem exists_watchEvent (env : Env) (found : e.watches.get? id = some w) (ready : w.phase = .ready)
    (changed : w.observer.changed? event = some object) :
    ∃ asked, step env (.watchEvent id event) e = some asked := by
  simp [step, watchEvent, found, ready, changed]

theorem forwards_of_not_isRedundant {kind : Kind}
    (hneeded : Cluster.Object.isRedundant kind object.owners watched = false) :
    Forwards kind watched object := by
  rintro env actions e id w event h found ready rfl rfl hreports
  obtain ⟨asked, hstep⟩ := exists_watchEvent env found ready ((reports_iff h found).mpr hreports)
  have hreceipt : Receipt id (path env actions {}) ⟨e,.watchEvent id event,asked⟩ w object :=
    ⟨found, ⟨event, rfl, hreports⟩, hneeded⟩
  have hrun {more : List Action} {waited : Engine} (hmore : run env more asked = some waited) :
      run env (actions ++ .watchEvent id event :: more) {} = some waited := by
    rw [run_append h]
    simpa [run, hstep] using hmore
  have hpath (more : List Action) : path env (actions ++ .watchEvent id event :: more) {} =
      path env actions {} ++ ⟨e,.watchEvent id event,asked⟩ :: path env more asked :=
    path_append_cons h hstep
  refine ⟨asked, hstep, (pursues_of_receipt (hrun rfl) (hpath []) hreceipt).resumes (by simp [path]),
    fun more waited next hmore hquiet hresume => ?_⟩
  have hlast : path env (more ++ [.resumeWatch id]) asked =
      path env more asked ++ [⟨waited,.resumeWatch id,next⟩] := path_append_cons hmore hresume
  obtain ⟨-, registry, htold, hnotes⟩ :=
    (pursues_of_receipt (hrun (run_concat.mpr ⟨waited, hmore, hresume⟩)) (hpath _) hreceipt).concludes
      _ _ [] hlast hquiet rfl
  refine ⟨registry, htold, fun hsome key hkey => ?_⟩
  have hnoted : Stage.noted? ⟨waited,.resumeWatch id,next⟩ = some (key,object.revision) := by
    refine (noted_iff (hrun hmore) (transition_of_step hresume) (by simp)).mpr
      ⟨id, path env actions {}, ?_⟩
    rw [hpath]
    exact (hnotes key _).mpr ⟨hsome, hkey, rfl⟩
  exact (pending_transition (transition_of_step hresume)).mpr (.inl hnoted)

/-- Going from owner to owner from an object that is skipped leads to one of a watched kind that is
not, and whose watch forwards its changes. No object is left to owners that are in turn left to it
or to ever further ones, and of objects that own each other, with no owner besides, some is not
skipped. -/
theorem skipped_has_forwarded_owner {ι : Type*} (g : Ownership ι) (watched : List Kind) :
    (∀ x, g.IsSkipped watched x → ∃ y, Relation.TransGen g.IsOwnedBy x y ∧
      g.IsReported watched y ∧ ¬g.IsSkipped watched y) ∧
    (∀ y, g.IsReported watched y → ∃ kind ∈ watched, g.kind y = kind.name ∧
      Forwards kind watched (g.object y)) ∧
    (WellFounded fun y x => g.IsLeftTo watched x y) ∧
    ∀ members : Set ι, members.Nonempty → (∀ x ∈ members, ∀ y, g.IsOwnedBy x y → y ∈ members) →
      ∃ y ∈ members, ¬g.IsSkipped watched y := by
  refine ⟨fun x hskipped => ?_, fun y hreported => ?_, g.wellFounded_isLeftTo watched, ?_⟩
  · obtain ⟨y, hreach, hreported⟩ := hskipped.exists_isReported
    exact ⟨y, hreach, hreported, hreported.not_isSkipped⟩
  · obtain ⟨kind, hwatched, hkind, hneeded⟩ := hreported
    exact ⟨kind, hwatched, hkind, forwards_of_not_isRedundant hneeded⟩
  · exact fun members => Ownership.exists_not_isSkipped

/-- A pod, its replica set, its deployment, a rollout and the pod again. The deployment is not left
to the rollout, and is pending once it has been listed again. -/
theorem skipped_has_forwarded_owner_in_circle :
    let g : Ownership (Fin 4) := {
      kind := ["Pod", "ReplicaSet", "Deployment", "Rollout"].get
      object := fun x => {
        name := ["web-1-x", "web-1", "web", "web"].get x
        ns := some "shop"
        version := some "7"
        owners := [{ kind := ["ReplicaSet", "Deployment", "Rollout", "Pod"].get x }] }
      owner := fun x _ => x + 1
      kind_owner := by decide }
    let watched : List Kind := [.pod, .replicaSet, .deployment]
    let env : Env := .calm {}
    let first : List Action := [.request 0 (.add "t" ⟨"url", "token", "id", [], []⟩), .serve,
      .startWatch "w" .deployment watched, .watchEvent "w" .listing] ++
      [.watchEvent "w" .listComplete]
    let observation : List Action := [.watchEvent "w" (.listed (g.object 2)), .serve,
      .resumeWatch "w"]
    g.IsSkipped watched 0 ∧ g.IsSkipped watched 1 ∧ Relation.TransGen g.IsOwnedBy 0 2 ∧
      Forwards .deployment watched (g.object 2) ∧
      ∃ e, run env (first ++ observation) {} = some e ∧
        e.debouncer.pending.get? ⟨.deployment, some "shop", "web"⟩ = some ⟨none, some "7"⟩ := by
  intro g watched env first observation
  have hskipped : g.IsSkipped watched 0 := by decide
  have honly : ∀ y, g.IsReported watched y → y = 2 := by decide
  have hkind : ∀ kind : Kind, g.kind 2 = kind.name → kind = .deployment := by
    intro kind
    cases kind <;> decide
  obtain ⟨hreaches, hforwards, -⟩ := skipped_has_forwarded_owner g watched
  obtain ⟨y, hreach, hreported, -⟩ := hreaches 0 hskipped
  obtain rfl := honly y hreported
  obtain ⟨kind, -, hname, hforward⟩ := hforwards 2 hreported
  obtain rfl := hkind kind hname
  have hlisted : HasListed "w" (path env first {}) := mem_path_of_last rfl
  obtain ⟨asked, hasked, -, hlater⟩ := hforward env first _ "w" _ (.listed (g.object 2))
    rfl rfl rfl rfl rfl (.inr ⟨rfl, hlisted⟩)
  obtain rfl := Option.some.inj hasked
  obtain ⟨registry, htold, hpending⟩ := hlater [.serve] _ _ rfl (by decide) rfl
  obtain ⟨rfl, -⟩ := List.cons.inj htold
  exact ⟨hskipped, by decide, hreach, hforward, _, rfl, hpending rfl _ rfl⟩

end Engine
end WorkloadScan
