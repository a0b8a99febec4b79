import Mathlib.Data.List.Basic
import WorkloadScan.Integration.Reconciler
import WorkloadScan.Proofs.Registry

/-! The registry as the image of the integrations in the cluster. What a watch reports determines
which integrations there are; the reconciler's requests give each of them the target it asks for. -/
namespace WorkloadScan.Reconciler
open Cluster (Event)
open Registry (carryOut carryOut_cons)

/-! ### The cluster as a watch reports it -/

/-- An integration as it was reported last, with the tokens of that time. -/
structure Sighting where
  read : TokenReader
  integration : Integration

def fullName (i : Integration) : String × String := (i.ns,i.metadata.nameOrStem)

/-- The integrations of the cluster, and those that an open list has named so far. -/
structure View where
  objects : String × String → Option Sighting := fun _ => none
  listed : Option (String × String → Option Sighting) := none

def View.after (v : View) (read : TokenReader) : Event Integration → View
  | .applied i => { v with objects := Function.update v.objects (fullName i) (some ⟨read,i⟩) }
  | .deleted i => { v with objects := Function.update v.objects (fullName i) none }
  | .listing => { v with listed := some fun _ => none }
  | .listed i =>
    { v with
      listed := v.listed.map fun objects =>
        Function.update objects (fullName i) (some ⟨read,i⟩) }
  | .listComplete => { objects := v.listed.getD fun _ => none }

/-- The events of a watch: changes are reported outside lists and list items within them. A list
may be cut short by another one. -/
def IsWatch : Bool → List (Event Integration) → Prop
  | _, [] => True
  | inList, .applied _::rest | inList, .deleted _::rest => inList = false ∧ IsWatch false rest
  | _, .listing::rest => IsWatch true rest
  | inList, .listed _::rest => inList = true ∧ IsWatch true rest
  | inList, .listComplete::rest => inList = true ∧ IsWatch false rest

/-- The target of an integration. A disabled one, or one whose token could not be read or whose
client cannot be made, has none. -/
def target? (transport : Transport) (s : Sighting) : Option Target :=
  let spec := s.integration.spec
  if spec.enabled then
    match token s.read s.integration with
    | .ok token =>
      if transport.fault ⟨spec.endpoint,token⟩ = none then
        some {
          key := s.integration.key
          endpoint := spec.endpoint
          integrationId := spec.integrationId
          filter := .ofTexts spec.included spec.excluded
          client := ⟨spec.endpoint,token⟩ }
      else none
    | .error _ => none
  else none

/-! ### Keys -/

/-- Neither part of a name has a slash. -/
def IsPlain (n : String × String) : Prop := '/' ∉ n.1.toList ∧ '/' ∉ n.2.toList

def keyOf (n : String × String) : String := n.1 ++ "/" ++ n.2

theorem key_eq_keyOf (i : Integration) : i.key = keyOf (fullName i) := rfl

theorem keyOf_injective {n m : String × String} (hn : IsPlain n) (h : keyOf n = keyOf m) :
    n = m := by
  have hlist : n.1.toList ++ '/' :: n.2.toList = m.1.toList ++ '/' :: m.2.toList := by
    simpa [keyOf] using congrArg String.toList h
  obtain ⟨hns, -, hname⟩ := (List.append_cons_inj_of_notMem hn.1 hn.2).mp hlist
  exact Prod.ext (String.toList_inj.mp hns) (String.toList_inj.mp hname)

theorem key_eq_keyOf_iff {i : Integration} {n : String × String} (hn : IsPlain n) :
    i.key = keyOf n ↔ fullName i = n := by
  constructor
  · intro h
    exact (keyOf_injective hn (h.symm.trans (key_eq_keyOf i))).symm
  · intro h
    rw [key_eq_keyOf, h]

/-! ### What the requests of an event do to the registry -/

def Move.request? : Move → Option Registry.Request
  | .request q => some q
  | .note _ => none

def requests (moves : List Move) : List Registry.Request := moves.filterMap Move.request?

@[simp] theorem requests_note (notice : Notice) (moves : List Move) :
    requests (.note notice :: moves) = requests moves := rfl

@[simp] theorem requests_request (q : Registry.Request) (moves : List Move) :
    requests (.request q :: moves) = q :: requests moves := rfl

variable {transport : Transport} {read : TokenReader} {i : Integration} {r : Reconciler}
  {reg : Registry} {k : String}

theorem get?_register {t : String} (k : String) :
    (reg.apply transport (.add i.key (i.spec.target t))).get? k =
      if i.key = k then
        if transport.fault ⟨i.spec.endpoint,t⟩ = none then
          some (.ofSpec i.key (i.spec.target t))
        else none
      else reg.get? k := by
  rw [Registry.get?_apply]
  by_cases hk : i.key = k
  · subst hk
    rw [Registry.referenceStep, Function.update_self, if_pos rfl]
    rfl
  · rw [Registry.referenceStep, Function.update_of_ne (Ne.symm hk), if_neg hk]

theorem get?_delete (r : Reconciler) (key k : String) :
    (carryOut transport (requests (delete key r).2) reg).get? k =
      if key = k then none else reg.get? k := Table.get?_erase reg k key

theorem get?_apply (k : String) :
    (carryOut transport (requests (apply read i r).2) reg).get? k =
      if i.key = k then target? transport ⟨read,i⟩ else reg.get? k := by
  unfold apply
  cases henabled : i.spec.enabled with
  | false =>
    have hnone : target? transport ⟨read,i⟩ = none := by simp [target?, henabled]
    rw [hnone]
    exact get?_delete r i.key k
  | true =>
    cases htoken : token read i with
    | ok t =>
      simp only [target?, henabled, htoken, if_true]
      exact get?_register k
    | error e =>
      have hnone : target? transport ⟨read,i⟩ = none := by simp [target?, henabled, htoken]
      rw [hnone]
      exact get?_delete r i.key k

theorem listing_apply : (apply read i r).1.listing = r.listing := by
  unfold apply
  split
  · split <;> rfl
  · rfl

theorem mem_removeKey {j : String} {keys : List String} (hk : k ∈ keys) (hne : j ≠ k) :
    k ∈ removeKey j keys := by
  simp [removeKey, hk, Ne.symm hne]

theorem mem_insertKey {j : String} {keys : List String} :
    k ∈ insertKey j keys ↔ k = j ∨ k ∈ keys := by
  unfold insertKey
  split
  case isTrue h =>
    constructor
    · exact .inr
    · rintro (rfl | hk)
      · exact h
      · exact hk
  case isFalse => simp [or_comm]

theorem mem_known_apply_of_ne (hk : k ∈ r.known) (hne : i.key ≠ k) :
    k ∈ (apply read i r).1.known := by
  unfold apply
  split
  · split
    · exact mem_insertKey.mpr (.inr hk)
    · exact mem_removeKey hk hne
  · exact mem_removeKey hk hne

theorem key_mem_known_apply (h : target? transport ⟨read,i⟩ ≠ none) :
    i.key ∈ (apply read i r).1.known := by
  unfold apply
  cases henabled : i.spec.enabled with
  | false => simp [target?, henabled] at h
  | true =>
    cases htoken : token read i with
    | ok t =>
      simp only [if_true, register]
      exact mem_insertKey.mpr (.inl rfl)
    | error e => simp [target?, henabled, htoken] at h

theorem requests_flatMap_vanished (keys : List String) :
    requests (keys.flatMap vanished) = keys.map .delete := by
  induction keys with
  | nil => rfl
  | cons key rest ih => simp [vanished, ih]

theorem get?_carryOut_deletes (keys : List String) (reg : Registry) (k : String) :
    (carryOut transport (keys.map .delete) reg).get? k =
      if k ∈ keys then none else reg.get? k := by
  induction keys generalizing reg with
  | nil => simp [carryOut]
  | cons key rest ih =>
    rw [List.map_cons, carryOut_cons, ih]
    by_cases hrest : k ∈ rest
    · simp [hrest]
    · by_cases hkey : key = k
      · simp [hkey, Registry.apply]
      · simp [hrest, hkey, Ne.symm hkey, Registry.apply]

theorem get?_completeList (k : String) :
    (carryOut transport (requests (completeList r).2) reg).get? k =
      if k ∈ r.known ∧ k ∉ r.listing.getD [] then none else reg.get? k := by
  simp only [completeList, requests_flatMap_vanished, get?_carryOut_deletes, List.mem_filter,
    decide_eq_true_eq]

/-! ### The registry mirrors the cluster -/

/-- The reconciler and the registry after events, each with its requests carried out. -/
def handleAll (transport : Transport) (s : Reconciler × Registry)
    (events : List (TokenReader × Event Integration)) : Reconciler × Registry :=
  events.foldl
    (fun s event =>
      let next := s.1.handle event.1 event.2
      (next.1,carryOut transport (requests next.2) s.2))
    s

def View.run (v : View) (events : List (TokenReader × Event Integration)) : View :=
  events.foldl (fun v event => v.after event.1 event.2) v

/-- The reconciler knows the integrations that are registered. -/
def Covers (r : Reconciler) (reg : Registry) : Prop :=
  ∀ n, IsPlain n → reg.get? (keyOf n) ≠ none → keyOf n ∈ r.known

/-- What holds between the events of a watch. Within a list, the objects it has named already have
the targets they ask for; the others keep theirs until the list is complete. -/
structure Mirrors (transport : Transport) (v : View) (r : Reconciler) (reg : Registry) : Prop where
  known : Covers r reg
  closed : v.listed = none → r.listing = none
  outside : v.listed = none → ∀ n, IsPlain n →
    reg.get? (keyOf n) = (v.objects n).bind (target? transport)
  inside : ∀ objects, v.listed = some objects → ∃ keys, r.listing = some keys ∧
    ∀ n, IsPlain n → (keyOf n ∈ keys ↔ objects n ≠ none) ∧
      ∀ s, objects n = some s → reg.get? (keyOf n) = target? transport s

theorem covers_apply (h : Covers r reg) :
    Covers (apply read i r).1 (carryOut transport (requests (apply read i r).2) reg) := by
  intro n hn hreg
  rw [get?_apply] at hreg
  by_cases hkey : i.key = keyOf n
  · rw [if_pos hkey] at hreg
    rw [← hkey]
    exact key_mem_known_apply hreg
  · rw [if_neg hkey] at hreg
    exact mem_known_apply_of_ne (h n hn hreg) hkey

theorem covers_delete (h : Covers r reg) (key : String) :
    Covers (delete key r).1 (carryOut transport (requests (delete key r).2) reg) := by
  intro n hn hreg
  rw [get?_delete] at hreg
  by_cases hkey : key = keyOf n
  · rw [if_pos hkey] at hreg
    exact absurd rfl hreg
  · rw [if_neg hkey] at hreg
    exact mem_removeKey (h n hn hreg) hkey

variable {v : View} {rest : List (Event Integration)}

/-- Outside lists a change of one integration gives the registry what is seen of it now. -/
theorem mirrors_update {seen : Option Sighting} {event : Event Integration} {r' : Reconciler}
    {reg' : Registry} (h : Mirrors transport v r reg) (hlisted : v.listed = none)
    (hafter : v.after read event =
      { v with objects := Function.update v.objects (fullName i) seen })
    (hknown : Covers r' reg') (hlisting : r'.listing = r.listing)
    (hget : ∀ k, reg'.get? k =
      if i.key = k then seen.bind (target? transport) else reg.get? k) :
    Mirrors transport (v.after read event) r' reg' := by
  rw [hafter]
  refine ⟨hknown, fun _ => hlisting.trans (h.closed hlisted), fun _ n hn => ?_,
    fun objects hsome => ?_⟩
  · rw [hget]
    by_cases hname : fullName i = n
    · subst hname
      rw [if_pos (key_eq_keyOf i)]
      simp
    · rw [if_neg (mt (key_eq_keyOf_iff hn).mp hname), h.outside hlisted n hn]
      simp [Function.update_of_ne (Ne.symm hname)]
  · cases hlisted.symm.trans hsome

theorem mirrors_applied (h : Mirrors transport v r reg) (hlisted : v.listed = none) :
    Mirrors transport (v.after read (.applied i)) (apply read i r).1
      (carryOut transport (requests (apply read i r).2) reg) :=
  mirrors_update h hlisted rfl (covers_apply h.known) listing_apply get?_apply

theorem mirrors_deleted (h : Mirrors transport v r reg) (hlisted : v.listed = none) :
    Mirrors transport (v.after read (.deleted i)) (delete i.key r).1
      (carryOut transport (requests (delete i.key r).2) reg) :=
  mirrors_update h hlisted rfl (covers_delete h.known i.key) rfl (get?_delete r i.key)

theorem mirrors_listing (h : Mirrors transport v r reg) :
    Mirrors transport (v.after read .listing) { r with listing := some [] } reg where
  known := h.known
  closed hnone := by cases hnone
  outside hnone := by cases hnone
  inside objects hsome := by
    cases hsome
    exact ⟨[], rfl, fun n _ => ⟨by simp, fun s hs => by cases hs⟩⟩

theorem mirrors_listed (h : Mirrors transport v r reg) (hlisted : v.listed.isSome = true) :
    Mirrors transport (v.after read (.listed i)) (apply read i (markListed i.key r)).1
      (carryOut transport (requests (apply read i (markListed i.key r)).2) reg) := by
  obtain ⟨objects, hobjects⟩ := Option.isSome_iff_exists.mp hlisted
  obtain ⟨keys, hkeys, hinside⟩ := h.inside objects hobjects
  have hafter : (v.after read (.listed i)).listed =
      some (Function.update objects (fullName i) (some ⟨read,i⟩)) := by
    simp [View.after, hobjects]
  refine ⟨covers_apply h.known, ?_, ?_, ?_⟩
  · intro hnone
    rw [hafter] at hnone
    cases hnone
  · intro hnone
    rw [hafter] at hnone
    cases hnone
  · intro objects' hsome
    rw [hafter, Option.some.injEq] at hsome
    subst hsome
    refine ⟨insertKey i.key keys, by rw [listing_apply]; simp [markListed, hkeys], ?_⟩
    intro n hn
    rw [mem_insertKey, get?_apply]
    by_cases hname : fullName i = n
    · subst hname
      simp [key_eq_keyOf]
    · have hkey : i.key ≠ keyOf n := mt (key_eq_keyOf_iff hn).mp hname
      rw [if_neg hkey, Function.update_of_ne (Ne.symm hname)]
      exact ⟨by simpa [Ne.symm hkey] using (hinside n hn).1, (hinside n hn).2⟩

theorem mirrors_listComplete (h : Mirrors transport v r reg) (hlisted : v.listed.isSome = true) :
    Mirrors transport (v.after read .listComplete) (completeList r).1
      (carryOut transport (requests (completeList r).2) reg) := by
  obtain ⟨objects, hobjects⟩ := Option.isSome_iff_exists.mp hlisted
  obtain ⟨keys, hkeys, hinside⟩ := h.inside objects hobjects
  have hget (k : String) :
      (carryOut transport (requests (completeList r).2) reg).get? k =
        if k ∈ r.known ∧ k ∉ keys then none else reg.get? k := by
    rw [get?_completeList, hkeys]
    rfl
  refine ⟨?_, fun _ => rfl, ?_, ?_⟩
  · intro n hn hreg
    rw [hget] at hreg
    split at hreg
    · exact absurd rfl hreg
    case isFalse hstale =>
      have hknown := h.known n hn hreg
      have hlisted : keyOf n ∈ keys := by
        by_contra hunlisted
        exact hstale ⟨hknown, hunlisted⟩
      simp [completeList, hkeys, hknown, hlisted]
  · intro _ n hn
    have hobjects' : (v.after read .listComplete).objects n = objects n := by
      simp [View.after, hobjects]
    rw [hget, hobjects']
    cases hs : objects n with
    | some s =>
      have hmem : keyOf n ∈ keys := (hinside n hn).1.mpr (by rw [hs]; simp)
      rw [if_neg (fun hstale => hstale.2 hmem)]
      exact (hinside n hn).2 s hs
    | none =>
      have hunlisted : keyOf n ∉ keys := fun hmem => (hinside n hn).1.mp hmem hs
      split
      · rfl
      case isFalse hknown =>
        -- What the list does not name and the reconciler does not know is not registered.
        by_contra hreg
        exact hknown ⟨h.known n hn hreg, hunlisted⟩
  · intro objects' hsome
    cases hsome

theorem mirrors_handle {event : Event Integration} (h : Mirrors transport v r reg)
    (hwatch : IsWatch v.listed.isSome (event::rest)) :
    Mirrors transport (v.after read event) (r.handle read event).1
        (carryOut transport (requests (r.handle read event).2) reg) ∧
      IsWatch (v.after read event).listed.isSome rest := by
  cases event with
  | applied i =>
    have hlisted : v.listed = none := by simpa using hwatch.1
    exact ⟨mirrors_applied h hlisted, by simpa [View.after, hlisted] using hwatch.2⟩
  | deleted i =>
    have hlisted : v.listed = none := by simpa using hwatch.1
    exact ⟨mirrors_deleted h hlisted, by simpa [View.after, hlisted] using hwatch.2⟩
  | listing => exact ⟨mirrors_listing h, hwatch⟩
  | listed i => exact ⟨mirrors_listed h hwatch.1, by simpa [View.after, hwatch.1] using hwatch.2⟩
  | listComplete => exact ⟨mirrors_listComplete h hwatch.1, hwatch.2⟩

theorem mirrors_handleAll {s : Reconciler × Registry}
    {events : List (TokenReader × Event Integration)} (h : Mirrors transport v s.1 s.2)
    (hwatch : IsWatch v.listed.isSome (events.map Prod.snd)) :
    Mirrors transport (v.run events) (handleAll transport s events).1
      (handleAll transport s events).2 := by
  induction events generalizing v s with
  | nil => exact h
  | cons event rest ih =>
    obtain ⟨hnext, hrest⟩ := mirrors_handle h hwatch
    exact ih hnext hrest

theorem mirrors_fresh (h : ∀ n, IsPlain n → reg.get? (keyOf n) = none) :
    Mirrors transport {} {} reg where
  known n hn hreg := absurd (h n hn) hreg
  closed _ := rfl
  outside _ n hn := by rw [h n hn]; rfl
  inside objects hsome := by cases hsome

end WorkloadScan.Reconciler
